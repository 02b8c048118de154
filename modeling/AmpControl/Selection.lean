import AmpControl.Bus.Execution
import AmpControl.RangeError
import AmpControl.Tuning.Payload

/-!
# The active profile

One profile of a payload is active, by its place. A channel that has no profile at that place has
nothing to do in a transition; channel 0 decides on capabilities.
-/

namespace AmpControl

open Tuning (Payload Phase Profile Script)

/-- A payload with the place of its active profile. -/
structure Selection where
  payload : Payload
  active : Nat

namespace Selection

def count (selection : Selection) : Nat := selection.payload.profiles.length

def choose (selection : Selection) (index : Nat) : Except RangeError Selection :=
  if index < selection.count then .ok { selection with active := index }
  else .error (.profile index selection.count)

def profile? (selection : Selection) (channel : UInt8) : Option Profile :=
  (selection.payload.channel? channel).bind fun tables => tables.profiles[selection.active]?

/-- The capability bits of the active profile, none when there is no such profile. -/
def capabilities (selection : Selection) : UInt32 :=
  ((selection.profile? 0).map (·.capabilities)).getD 0

def channelMask (selection : Selection) : UInt8 :=
  let count := selection.payload.channelCount
  match selection.profile? 0 with
  | some profile => profile.channelMask count
  | none => Channel.all count

/-- The script of a channel for a point of a power transition. -/
def script (selection : Selection) (phase : Phase) (channel : UInt8) : Script :=
  match selection.profile? channel with
  | some profile => profile.script phase
  | none => []

/-- Carries out the script of a channel for a point of a power transition. -/
def apply (selection : Selection) (phase : Phase) (channel : UInt8) (bus : Bus) :
    Bus × Option TransportFault :=
  bus.execute channel (selection.script phase channel)

end Selection

end AmpControl
