import AmpControl.Report.Inspection
import AmpControl.Tuning.Draft

/-!
# A sample image

A small image for two channels that holds every kind of section: audio interface tables with sample
rates and slot configurations, interrupt tables, two profiles, three controls and one algorithm
parameter.
-/

namespace AmpControl.Report

open Tuning

namespace Sample

def statusRegister : Register := .ofParts 0 0 0x10

def maskRegister : Register := .ofParts 0 0 0x11

def rateRegister : Register := .ofParts 0 2 0x08

def slotRegister : Register := .ofParts 0 2 0x0C

def gainRegister : Register := .ofParts 0 1 0x20

def limiterRegister : Register := .ofParts 0 1 0x24

/-- The slot configurations of two channels in slots of up to 32 bits. -/
def slots : List SlotConfig :=
  [((16 : UInt8), (0x10 : UInt8)), (12, 0x0C)].filterMap fun (width, value) =>
    (SlotKey.compose? 32 .tdm 2 width true).map fun key =>
      ⟨key, Script.writing slotRegister value⟩

/-- The audio interface tables: two sample rates and the slot configurations. -/
def audioInterface : AudioInterface where
  sampleRate := ⟨0, [(48000, Script.writing rateRegister 0x01),
    (96000, Script.writing rateRegister 0x02)]⟩
  formatInversion := .empty
  formatMask := .empty
  receiveSlots := .empty
  transmitSlots := .empty
  receiveBitWidth := .empty
  receiveSlotLength := .empty
  transmitSlotLength := .empty
  slots := slots

def source (name : String) (mask actions : UInt32) (clockBased : Bool) : Source :=
  ⟨name, statusRegister, mask, actions, clockBased⟩

/-- The interrupt table: a clock source, a plain fault, and one source for each kind of reset. -/
def interrupts : InterruptTable where
  sources := [
    source "clock_halt" 0x01 0 true,
    source "overtemp" 0x02 0 false,
    source "brownout" 0x04 Source.softResetAction false,
    source "pll_unlock" 0x08 Source.hardResetAction false]
  unmask := Script.writing maskRegister 0xFF
  mask := Script.writing maskRegister 0x00
  clear := Script.writing statusRegister 0x00
  settleTime := 2
  dump := [statusRegister, maskRegister]

def gain (channel : UInt8) : Control where
  name := s!"Ch{channel} Gain"
  channel := channel
  timing := .anytime
  body := .integer {
    register := gainRegister
    mode := .single
    mask := 0
    lowest := 0
    highest := 3
    step := 1
    initial := 2
    element := .byte
    candidates := [0x00, 0x20, 0x40, 0x60] }

/-- The limiter of the first channel. -/
def limiter : Control where
  name := "Ch0 Limiter"
  channel := 0
  timing := .afterPowerUp
  body := .choice {
    initial := 0
    items := [("off", Script.writing limiterRegister 0x00),
      ("on", Script.writing limiterRegister 0x01)] }

def addChannel (draft : Draft) (channel : UInt8) : Draft :=
  (draft.withAudioInterface channel audioInterface).withInterrupts channel interrupts

def draft : Draft :=
  let profiled := ((Draft.new 2).addProfile (Profile.marked "music" 0 0x10)).addProfile
    (Profile.marked "voice" Profile.rearmBit 0x20)
  let channelled := [(0 : UInt8), 1].foldl addChannel profiled
  let controlled := [gain 0, gain 1, limiter].foldl Draft.addControl channelled
  controlled.addParameter ⟨1, 0x00010000⟩

def payload : Bytes := draft.build

/-- The sample image, in a container if a revision is given. -/
def image (revision : Option UInt32) : Bytes :=
  match revision with
  | some id => Container.wrap [(id, payload)]
  | none => payload

/-- The report that the sample was written to a file; a payload nobody could load is not written. -/
def report (path : String) (revision : Option UInt32) : Outcome :=
  match (Parsed.ofPayload payload).outcome with
  | .error error => .failure "" (errorTextBecause "sample payload does not parse" error.message)
  | .ok parsed =>
      let size := (image revision).length
      .success (lines [
        s!"✓ Wrote {size} bytes ({parsed.channelCount} channels, " ++
          s!"{parsed.profiles.length} profiles, {parsed.controls.length} controls) to " ++ path])

end Sample

end AmpControl.Report
