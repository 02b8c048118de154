import AmpControl.Tuning.AudioInterface
import AmpControl.Tuning.Container
import AmpControl.Tuning.Control
import AmpControl.Tuning.InterruptTable
import AmpControl.Tuning.PowerScripts
import AmpControl.Tuning.Profile
import AmpControl.Tuning.Section

/-!
# Payloads

A payload that follows the rules becomes one value that holds every table. The rules are: a header
first; then one group of sections per declared channel, each begun by its initialisation section and
holding profiles and core scripts once and the other two tables at most once; then at most one
section of controls and one of algorithm parameters; and no byte left over in any section.
-/

namespace AmpControl.Tuning

/-- A parameter for the algorithm outside of the driver. -/
structure AlgorithmParameter where
  id : UInt32
  value : UInt32
  deriving DecidableEq, Repr

namespace AlgorithmParameter

def encode (parameter : AlgorithmParameter) : Bytes :=
  LittleEndian.word parameter.id ++ LittleEndian.word parameter.value

def read : Read AlgorithmParameter := do
  let id ← Read.word
  return ⟨id, ← Read.word⟩

end AlgorithmParameter

/-- The tables of one channel. -/
structure ChannelTables where
  initialisation : Script
  audioInterface : Option AudioInterface
  profiles : List Profile
  interrupts : Option InterruptTable
  power : PowerScripts
  deriving DecidableEq, Repr

/-- A payload that was read, table by table. -/
structure Payload where
  bytes : Bytes
  header : Header
  channels : List ChannelTables
  controls : List Control
  algorithm : List AlgorithmParameter
  deriving DecidableEq, Repr

namespace Payload

def channelCount (payload : Payload) : UInt8 := payload.header.channelCount

/-- The channels, ascending. -/
def allChannels (payload : Payload) : List UInt8 := Channel.upTo payload.channelCount

def channel? (payload : Payload) (channel : UInt8) : Option ChannelTables :=
  payload.channels[channel.toNat]?

/-- The interrupt table of a channel, while the header puts interrupt tables in use. -/
def interrupts? (payload : Payload) (channel : UInt8) : Option InterruptTable :=
  if payload.header.interruptsSupported then (payload.channel? channel).bind (·.interrupts)
  else none

/-- The profiles of the channel that decides on capabilities. -/
def profiles (payload : Payload) : List Profile :=
  match payload.channel? 0 with
  | some tables => tables.profiles
  | none => []

def profileNames (payload : Payload) : List String := payload.profiles.map (·.name)

end Payload

/-- The sections of one channel that were read so far. -/
structure Group where
  initialisation : Script
  audioInterface : Option AudioInterface
  profiles : Option (List Profile)
  interrupts : Option InterruptTable
  power : Option PowerScripts
  deriving DecidableEq, Repr

namespace Group

def start (initialisation : Script) : Group := ⟨initialisation, none, none, none, none⟩

/-- The tables of a channel once its group is over. -/
def finish (group : Group) (channel : Nat) : Except FormatError ChannelTables :=
  match group.profiles, group.power with
  | none, _ => .error (.missingSection .profiles channel)
  | some _, none => .error (.missingSection .power channel)
  | some profiles, some power =>
      .ok ⟨group.initialisation, group.audioInterface, profiles, group.interrupts, power⟩

/-- The tables of channels from `channel` on. -/
def finishAll : (channel : Nat) → List Group → Except FormatError (List ChannelTables)
  | _, [] => .ok []
  | channel, group :: others => do
      let tables ← group.finish channel
      return tables :: (← finishAll (channel + 1) others)

end Group

/-- What was read of a payload so far. -/
structure Assembly where
  /-- The groups that have begun, in channel order. -/
  groups : List Group
  controls : Option (List Control)
  algorithm : Option (List AlgorithmParameter)
  deriving DecidableEq, Repr

namespace Assembly

/-- The assembly before the first section after the header. -/
def empty : Assembly := ⟨[], none, none⟩

/-- A section outside the channel groups was read, so no group may begin or go on. -/
def groupsOver (assembly : Assembly) : Bool :=
  assembly.controls.isSome || assembly.algorithm.isSome

/-- The report that a section breaks a rule on where sections stand. -/
def breach (rule : Rule) (part : Section) : FormatError :=
  .invalidRecord rule (UInt32.ofNatClamp part.offset)

/-- Everything inside a section: what is read has to take all of its bytes. -/
def whole {α : Type} (outcome : EStateM.Result FormatError Reader α) : Except FormatError α :=
  match outcome with
  | .error error _ => .error error
  | .ok value after =>
      if after.rest.isEmpty then .ok value
      else .error (.invalidRecord .trailingBytes (UInt32.ofNatClamp after.remaining))

/--
Reads a section into a place that it may fill once. Faults inside the section come before the report
that the place is taken, and bytes left over come last.
-/
def fill {α : Type} (part : Section) (place : Option α) (table : Read α) :
    Except FormatError α :=
  match table part.reader with
  | .error error _ => .error error
  | outcome => if place.isSome then .error (breach .duplicateSection part) else whole outcome

/-- Reads a section into the group that is open. -/
def fillGroup (assembly : Assembly) (part : Section)
    (into : Group → Except FormatError Group) : Except FormatError Assembly :=
  match assembly.groups.getLast? with
  | some group =>
      if assembly.groupsOver then .error (breach .misplacedSection part)
      else do
        let filled ← into group
        return { assembly with groups := assembly.groups.dropLast ++ [filled] }
  | none => .error (breach .misplacedSection part)

/-- Adds one section to what was read of a payload that declares `declared` channels. -/
def add (declared : Nat) (assembly : Assembly) (part : Section) : Except FormatError Assembly :=
  match part.kind with
  | .header => .error (breach .duplicateSection part)
  | .initialisation =>
      if declared ≤ assembly.groups.length ∨ assembly.groupsOver then
        .error (.invalidRecord .channelBeyondCount (UInt32.ofNatClamp assembly.groups.length))
      else do
        let script ← whole (Script.read part.reader)
        return { assembly with groups := assembly.groups ++ [Group.start script] }
  | .audioInterface =>
      assembly.fillGroup part fun group => do
        let tables ← fill part group.audioInterface AudioInterface.read
        return { group with audioInterface := some tables }
  | .profiles =>
      assembly.fillGroup part fun group => do
        let profiles ← fill part group.profiles Profile.readTable
        return { group with profiles := some profiles }
  | .interrupts =>
      assembly.fillGroup part fun group => do
        let table ← fill part group.interrupts InterruptTable.read
        return { group with interrupts := some table }
  | .power =>
      assembly.fillGroup part fun group => do
        let scripts ← fill part group.power PowerScripts.read
        return { group with power := some scripts }
  | .controls => do
      let controls ← fill part assembly.controls Control.readTable
      return { assembly with controls := some controls }
  | .algorithm => do
      let parameters ← fill part assembly.algorithm (Read.counted AlgorithmParameter.read)
      return { assembly with algorithm := some parameters }

/-- The payload that an assembly makes up once no section is left. -/
def finish (assembly : Assembly) (bytes : Bytes) (header : Header) :
    Except FormatError Payload := do
  let declared := header.channels.length
  if assembly.groups.length < declared then
    throw (.missingSection .initialisation assembly.groups.length)
  let channels ← Group.finishAll 0 assembly.groups
  let controls := assembly.controls.getD []
  match controls.find? fun control => declared ≤ control.channel.toNat with
  | some control => throw (.invalidRecord .controlChannel control.channel.toUInt32)
  | none => return ⟨bytes, header, channels, controls, assembly.algorithm.getD []⟩

end Assembly

/-- The outcome of reading a payload, with the number of sections that were read. -/
structure Parsed where
  sections : Nat
  outcome : Except FormatError Payload

namespace Parsed

/-- Adds sections one by one, and counts those that were added. -/
def addAll (declared : Nat) :
    (count : Nat) → Assembly → List Section → Nat × Except FormatError Assembly
  | count, assembly, [] => (count, .ok assembly)
  | count, assembly, part :: others =>
      match assembly.add declared part with
      | .ok grown => addAll declared (count + 1) grown others
      | .error error => (count, .error error)

/-- Reads the sections after a header, of which the walk that found them may have stopped. -/
def body (bytes : Bytes) (header : Header) (walk : Walk) : Parsed :=
  let (count, added) := addAll header.channels.length 1 Assembly.empty walk.sections
  ⟨count, do
    let assembly ← added
    match walk.stopped with
    | some error => throw error
    | none => assembly.finish bytes header⟩

def ofPayload (bytes : Bytes) : Parsed :=
  match Walk.ofBytes bytes with
  | ⟨[], some error⟩ =>
      ⟨0, .error (if bytes.take 5 == Kind.header.tag then error else .missingHeader)⟩
  | ⟨[], none⟩ => ⟨0, .error .missingHeader⟩
  | ⟨first :: others, stopped⟩ =>
      if first.kind = .header then
        match Header.read first.reader with
        | .error error _ => ⟨0, .error error⟩
        | .ok header _ => body bytes header ⟨others, stopped⟩
      else ⟨0, .error .missingHeader⟩

end Parsed

/-- Why an image did not become a payload. -/
inductive ImageError where
  | container (error : ContainerError)
  | format (error : FormatError)
  deriving DecidableEq, Repr

namespace ImageError

def isRetryable : ImageError → Bool
  | container _ => true
  | format _ => false

def message : ImageError → String
  | container error => error.message
  | format error => error.message

end ImageError

/-- The outcome of reading one revision of an image, with the number of sections that were read. -/
structure ParsedImage where
  sections : Nat
  outcome : Except ImageError Payload

/-- Takes the payload of a revision out of an image and reads it. -/
def ParsedImage.ofImage (image : Bytes) (revision : UInt32) : ParsedImage :=
  match Container.select image revision with
  | .error error => ⟨0, .error (.container error)⟩
  | .ok bytes =>
      let parsed := Parsed.ofPayload bytes
      ⟨parsed.sections, parsed.outcome.mapError .format⟩

end AmpControl.Tuning
