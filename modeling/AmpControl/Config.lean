import AmpControl.Text.Document

/-!
# Configuration

The tunables of loading, deferred work and interrupt handling. A configuration is read from a
document, as a record whose entries may be missing, or as a list of the leading values in the order
of the fields; it is checked before a device uses it.
-/

namespace AmpControl

/-- Why a configuration is refused. -/
inductive ConfigError where
  | emptyFirmwareName
  /-- A number of attempts is zero. -/
  | zeroTries (field : String)
  | zeroStormLimit
  deriving DecidableEq, Repr

def ConfigError.message : ConfigError → String
  | emptyFirmwareName => "firmware name must not be empty"
  | zeroTries field => s!"{field} must be at least 1"
  | zeroStormLimit => "interrupt storm limit and window must be non-zero"

/-- The tunables of a device. Times are in milliseconds. -/
structure Config where
  /-- The name under which the tuning image is requested. -/
  firmwareName : String
  /-- The revision that is taken out of an image with several. -/
  revision : UInt32
  loadTries : UInt32
  /-- The attempts when the first use of the device makes it load. -/
  lazyLoadTries : UInt32
  loadRetryDelay : UInt64
  /-- The time from power-up to the deferred work. -/
  postPowerUpDelay : UInt64
  /-- The time from an interrupt notification to the recovery pass. -/
  debounceDelay : UInt64
  /-- The number of detections in a storm window past which a channel is stuck. -/
  stormLimit : UInt32
  stormWindow : UInt64
  /-- The hardware resets that are tried before channels are locked out. -/
  maxRestarts : UInt32
  deriving DecidableEq, Repr

namespace Config

/-- The configuration that is used where nothing else is said. -/
def standard : Config where
  firmwareName := "smartamp-tuning.bin"
  revision := 0
  loadTries := 3
  lazyLoadTries := 1
  loadRetryDelay := 100
  postPowerUpDelay := 10
  debounceDelay := 5
  stormLimit := 500
  stormWindow := 30000
  maxRestarts := 3

/-- Checks that names are there and that limits and numbers of attempts are not zero. -/
def validate (config : Config) : Except ConfigError Unit := do
  if config.firmwareName.isEmpty then throw .emptyFirmwareName
  if config.loadTries = 0 then throw (.zeroTries "load_tries")
  if config.lazyLoadTries = 0 then throw (.zeroTries "lazy_load_tries")
  if config.stormLimit = 0 ∨ config.stormWindow = 0 then throw .zeroStormLimit

/-- The names of the fields, in order. -/
def fieldNames : List String :=
  ["firmware_name", "revision_id", "load_tries", "lazy_load_tries", "load_retry_delay_ms",
    "post_power_up_delay_ms", "irq_debounce_delay_ms", "irq_storm_limit", "irq_storm_window_ms",
    "max_auto_restarts"]

def text? : Text.Document → Option String
  | .text value => some value
  | _ => none

def below? (bound : Nat) : Text.Document → Option Nat
  | .integer value => if 0 ≤ value ∧ value < bound then some value.toNat else none
  | _ => none

def word? (value : Text.Document) : Option UInt32 := (below? UInt32.size value).map UInt32.ofNat

def long? (value : Text.Document) : Option UInt64 := (below? UInt64.size value).map UInt64.ofNat

/-- The value read by `decode`, or the standard one where the document says nothing. -/
def orStandard {α : Type} (standard : α) (decode : Text.Document → Option α) :
    Option Text.Document → Option α
  | none => some standard
  | some value => decode value

/-- The configuration whose field values are looked up by place and name. -/
def ofFields? (field : Nat → String → Option Text.Document) : Option Config := do
  let value (place : Nat) : Option Text.Document :=
    (fieldNames[place]?).bind (field place)
  return {
    firmwareName := ← orStandard standard.firmwareName text? (value 0)
    revision := ← orStandard standard.revision word? (value 1)
    loadTries := ← orStandard standard.loadTries word? (value 2)
    lazyLoadTries := ← orStandard standard.lazyLoadTries word? (value 3)
    loadRetryDelay := ← orStandard standard.loadRetryDelay long? (value 4)
    postPowerUpDelay := ← orStandard standard.postPowerUpDelay long? (value 5)
    debounceDelay := ← orStandard standard.debounceDelay long? (value 6)
    stormLimit := ← orStandard standard.stormLimit word? (value 7)
    stormWindow := ← orStandard standard.stormWindow long? (value 8)
    maxRestarts := ← orStandard standard.maxRestarts word? (value 9) }

/-- The configuration that a document holds. Record entries with other names are passed over. -/
def ofDocument? : Text.Document → Option Config
  | .record entries => ofFields? fun _ name => Text.Document.entry? entries name
  | .list items =>
      if items.length ≤ fieldNames.length then ofFields? fun place _ => items[place]? else none
  | _ => none

end Config

end AmpControl
