import AmpControl.Text.Document
import AmpControl.Tuning.Parser

/-!
# Inspecting an image

An inspection shows what an image holds: the revisions of a container, the framed sections of the
payload as far as the framing goes, and the tables of a payload that follows the rules. A payload
that does not is reported together with the number of sections that could be read. The tables can
also be written as one structured document.
-/

namespace AmpControl.Report

open Tuning

/-- What a command writes, and how it ends. -/
structure Outcome where
  code : UInt32
  output : String
  errors : String
  deriving DecidableEq, Repr

namespace Outcome

def success (output : String) : Outcome := ⟨0, output, ""⟩

/-- A command that failed after it had written something. -/
def failure (output errors : String) : Outcome := ⟨1, output, errors⟩

end Outcome

/-- Lines, each of them ended. -/
def lines (texts : List String) : String := String.join (texts.map (· ++ "\n"))

def errorText (message : String) : String := lines ["Error: " ++ message]

/-- The report of an error that has a cause. -/
def errorTextBecause (message cause : String) : String :=
  lines ["Error: " ++ message, "", "Caused by:", "    " ++ cause]

/-- A number at the right end of a column. -/
def column (width value : Nat) : String := Text.alignRight width (toString value)

def revisionLine (revision : Revision) : String :=
  "  rev " ++ column 4 revision.id.toNat ++ "  " ++ column 8 revision.size.toNat ++ " bytes"

def sectionLine (part : Section) : String :=
  let channel := match part.channel with
    | some channel => toString channel.toNat
    | none => "-"
  "  " ++ Text.hex 6 part.offset ++ "  " ++ part.kind.label ++ "  ch " ++
    Text.alignRight 2 channel ++ "  " ++ column 6 part.payload.length ++ " bytes"

/-- The sections of a payload, and where the framing stops. -/
def sectionLines (payload : Bytes) : List String :=
  let walk := Walk.ofBytes payload
  ["Sections"] ++ walk.sections.map sectionLine ++
    (match walk.stopped with
      | some error => ["  ⚠ framing stops: " ++ error.message]
      | none => []) ++
    [""]

def truthWord (value : Bool) : String := if value then "true" else "false"

def channelLine (entry : ChannelIdentity × Nat) : String :=
  s!"  ch {entry.2}        device " ++ Text.hex 4 entry.1.deviceId.toNat ++ " @ " ++
    Text.hex 2 entry.1.busAddress.toNat

def headerLines (payload : Payload) : List String :=
  let header := payload.header
  ["Header", "  name        " ++ header.name,
    s!"  version     {header.version}",
    s!"  timestamp   {header.timestamp}",
    s!"  iv width    {header.senseWidth} bits, vbat " ++ truthWord header.voltageSense,
    "  interrupts  " ++ truthWord header.interruptsSupported] ++
    header.channels.zipIdx.map channelLine ++ [""]

/-- The line of a profile, of a payload with so many channels. -/
def profileLine (channels : UInt8) (entry : Profile × Nat) : String :=
  "  " ++ column 2 entry.2 ++ "  " ++ Text.alignLeft 24 entry.1.name ++ " caps " ++
    Text.hex 8 entry.1.capabilities.toNat ++ "  mask " ++
    Text.hex 2 (entry.1.channelMask channels).toNat

def profileLines (payload : Payload) : List String :=
  ["Profiles"] ++ payload.profiles.zipIdx.map (profileLine payload.channelCount) ++ [""]

def controlRange (control : Control) : String :=
  match control.body with
  | .integer body =>
      s!"{body.lowest.toInt}..={body.highest.toInt} step {body.step.toInt}"
  | .choice _ => " | ".intercalate control.labels

def controlLine (entry : Control × Nat) : String :=
  "  " ++ column 2 entry.2 ++ "  " ++ Text.alignLeft 24 entry.1.name ++
    s!" ch {entry.1.channel}  " ++ Text.alignLeft 12 entry.1.timing.label ++ " " ++
    controlRange entry.1

def controlLines (payload : Payload) : List String :=
  ["Controls"] ++ payload.controls.zipIdx.map controlLine ++ [""]

def tablesLine (entry : ChannelTables × Nat) : String :=
  let sources := (entry.1.interrupts.map (·.sources.length)).getD 0
  let slots := (entry.1.audioInterface.map (·.slots.length)).getD 0
  s!"  ch {entry.2}: init {entry.1.initialisation.length} ops, {sources} interrupt sources, " ++
    s!"{slots} IV/VBat slot configs"

def parameterLine (parameter : AlgorithmParameter) : String :=
  "  " ++ column 6 parameter.id.toNat ++ "  " ++ Text.hex 8 parameter.value.toNat

/-- The algorithm parameters of a payload, of which there may be none. -/
def parameterLines (payload : Payload) : List String :=
  if payload.algorithm.isEmpty then []
  else ["", "Algorithm parameters"] ++ payload.algorithm.map parameterLine

def payloadLines (payload : Payload) : List String :=
  headerLines payload ++ profileLines payload ++ controlLines payload ++
    payload.channels.zipIdx.map tablesLine ++ parameterLines payload

open Text (Document)

def number (value : Nat) : Document := .integer value

def controlDocument (control : Control) : Document :=
  .record [("channel", number control.channel.toNat),
    ("labels", .list (control.labels.map .text)),
    ("name", .text control.name),
    ("timing", .text control.timing.label)]

/-- The main facts about a payload as a document. -/
def payloadDocument (payload : Payload) : Document :=
  let header := payload.header
  .record [
    ("algo_params", .list (payload.algorithm.map fun parameter =>
      .list [number parameter.id.toNat, number parameter.value.toNat])),
    ("channels", .list (header.channels.map fun channel =>
      .record [("bus_address", number channel.busAddress.toNat),
        ("device_id", number channel.deviceId.toNat)])),
    ("controls", .list (payload.controls.map controlDocument)),
    ("interrupts", .truth header.interruptsSupported),
    ("iv_width", number header.senseWidth.toNat),
    ("name", .text header.name),
    ("profiles", .list (payload.profileNames.map .text)),
    ("vbat", .truth header.voltageSense),
    ("version", number header.version.toNat)]

/-- The tables of a payload, after what was written before them. -/
def inspectPayload (bytes : Bytes) (asDocument : Bool) (before : List String) : Outcome :=
  let listed := if asDocument then before else before ++ sectionLines bytes
  match Parser.parse bytes Parser.new with
  | .error error parser =>
      .failure (lines listed)
        (lines [s!"✗ Parse failed after {parser.sections} sections: " ++ error.message] ++
          errorText "invalid tuning image")
  | .ok payload _ =>
      if asDocument then .success (lines (listed ++ [(payloadDocument payload).render]))
      else .success (lines (listed ++ payloadLines payload))

/-- The payload of a revision, after what was written before it. -/
def inspectRevision (image : Bytes) (revision : UInt32) (asDocument : Bool)
    (before : List String) : Outcome :=
  match Container.select image revision with
  | .error error =>
      .failure (lines before) (errorTextBecause "selecting revision" error.message)
  | .ok bytes => inspectPayload bytes asDocument before

def inspect (image : Bytes) (revision : UInt32) (asDocument : Bool) : Outcome :=
  if ¬asDocument ∧ Container.isContainer image then
    match Container.revisions image with
    | .error error => .failure (lines ["Revisions"]) (errorText error.message)
    | .ok revisions =>
        inspectRevision image revision asDocument
          (["Revisions"] ++ revisions.map revisionLine ++ [""])
  else inspectRevision image revision asDocument []

end AmpControl.Report
