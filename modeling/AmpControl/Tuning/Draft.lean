import AmpControl.Tuning.Payload

/-!
# Authoring payloads

A draft collects what a payload is to hold and is then written out section by section. Every channel
starts with small scripts that are easy to recognise on the registers:

    0x7E   initialisation: 0xA0 plus the channel
    0x01   software reset: 1
    0x02   power-up: 2, mute: 1, power-down: 3
    0x7F   marked profiles: the marker plus the place of the script
-/

namespace AmpControl.Tuning

namespace Script

def writing (register : Register) (value : UInt8) : Script := [.write register value]

end Script

/-- A header as it is to be written, with the bytes that are left unused after it. -/
structure HeaderDraft where
  header : Header
  reserved : Nat
  deriving DecidableEq, Repr

namespace HeaderDraft

/-- The header of a payload with the given number of channels, at bus addresses from 0x4C on. -/
def new (channels : UInt8) : HeaderDraft where
  header := {
    version := supportedVersion
    name := "test-blob"
    timestamp := 0
    channels := (Channel.upTo channels).map fun channel =>
      ⟨0x2572, 0x4C + channel.toUInt32⟩
    senseWidth := 16
    voltageSense := true
    features := Header.interruptBit }
  reserved := 0

def encode (draft : HeaderDraft) : Bytes := draft.header.encode draft.reserved

end HeaderDraft

/-- The profile whose scripts write a marker and the three values after it. -/
def Profile.marked (name : String) (capabilities : UInt32) (marker : UInt8) : Profile :=
  let script (place : UInt8) := Script.writing (Register.ofParts 0 0 0x7F) (marker + place)
  ⟨name, capabilities, script 0, script 1, script 2, script 3⟩

def PowerScripts.standard : PowerScripts where
  softReset := Script.writing (Register.ofParts 0 0 0x01) 0x01
  powerUp := Script.writing (Register.ofParts 0 0 0x02) 0x02
  powerDown := Script.writing (Register.ofParts 0 0 0x02) 0x03
  mute := Script.writing (Register.ofParts 0 0 0x02) 0x01
  check := Script.writing (Register.ofParts 0 0 0x02) 0x02

/-- The sections of one channel that are not shared with the others. -/
structure ChannelDraft where
  initialisation : Script
  audioInterface : Option AudioInterface
  interrupts : Option InterruptTable
  power : PowerScripts
  deriving DecidableEq, Repr

def ChannelDraft.new (channel : UInt8) : ChannelDraft where
  initialisation := Script.writing (Register.ofParts 0 0 0x7E) (0xA0 + channel)
  audioInterface := none
  interrupts := none
  power := PowerScripts.standard

/-- What a payload is to hold. -/
structure Draft where
  header : HeaderDraft
  channels : List ChannelDraft
  /-- The profiles of every channel; without any, each channel holds one empty profile. -/
  profiles : List Profile
  controls : List Control
  algorithm : Option (List AlgorithmParameter)
  /-- Sections with any tag, which come after everything else. -/
  extra : List (Bytes × Bytes)
  deriving DecidableEq, Repr

namespace Draft

/-- The draft of a payload with the given number of channels. -/
def new (channels : UInt8) : Draft where
  header := HeaderDraft.new channels
  channels := (Channel.upTo channels).map ChannelDraft.new
  profiles := []
  controls := []
  algorithm := none
  extra := []

/-- Replaces the header; the sections of the channels stay as they are. -/
def withHeader (draft : Draft) (header : HeaderDraft) : Draft := { draft with header := header }

def addProfile (draft : Draft) (profile : Profile) : Draft :=
  { draft with profiles := draft.profiles ++ [profile] }

/-- Changes the sections of one channel; a channel that is not there is left alone. -/
def onChannel (draft : Draft) (channel : UInt8) (change : ChannelDraft → ChannelDraft) : Draft :=
  { draft with channels := draft.channels.modify channel.toNat change }

def withInitialisation (draft : Draft) (channel : UInt8) (script : Script) : Draft :=
  draft.onChannel channel fun part => { part with initialisation := script }

def withAudioInterface (draft : Draft) (channel : UInt8) (tables : AudioInterface) : Draft :=
  draft.onChannel channel fun part => { part with audioInterface := some tables }

def withInterrupts (draft : Draft) (channel : UInt8) (table : InterruptTable) : Draft :=
  draft.onChannel channel fun part => { part with interrupts := some table }

def withPower (draft : Draft) (channel : UInt8) (scripts : PowerScripts) : Draft :=
  draft.onChannel channel fun part => { part with power := scripts }

def addControl (draft : Draft) (control : Control) : Draft :=
  { draft with controls := draft.controls ++ [control] }

def addParameter (draft : Draft) (parameter : AlgorithmParameter) : Draft :=
  { draft with algorithm := some (draft.algorithm.getD [] ++ [parameter]) }

/-- Adds a section with any tag after everything else. -/
def addSection (draft : Draft) (tag payload : Bytes) : Draft :=
  { draft with extra := draft.extra ++ [(tag, payload)] }

def writtenProfiles (draft : Draft) : List Profile :=
  if draft.profiles.isEmpty then [Profile.empty "default" 0] else draft.profiles

def frameKind (kind : Kind) (payload : Bytes) : Bytes := Section.frame kind.tag payload

def encodeChannel (profiles : List Profile) (part : ChannelDraft) : Bytes :=
  frameKind .initialisation part.initialisation.encode ++
    (match part.audioInterface with
      | some tables => frameKind .audioInterface tables.encode
      | none => []) ++
    frameKind .profiles (Profile.encodeTable profiles) ++
    (match part.interrupts with
      | some table => frameKind .interrupts table.encode
      | none => []) ++
    frameKind .power part.power.encode

def encodeParameters (parameters : List AlgorithmParameter) : Bytes :=
  LittleEndian.count parameters.length ++ parameters.flatMap AlgorithmParameter.encode

def build (draft : Draft) : Bytes :=
  frameKind .header draft.header.encode ++
    draft.channels.flatMap (encodeChannel draft.writtenProfiles) ++
    (if draft.controls.isEmpty then []
      else frameKind .controls (Control.encodeTable draft.controls)) ++
    (match draft.algorithm with
      | some parameters => frameKind .algorithm (encodeParameters parameters)
      | none => []) ++
    draft.extra.flatMap fun entry => Section.frame entry.1 entry.2

end Draft

end AmpControl.Tuning
