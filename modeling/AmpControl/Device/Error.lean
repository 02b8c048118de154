import AmpControl.Bus.Fault
import AmpControl.Config
import AmpControl.RangeError
import AmpControl.Tuning.Payload

/-!
# Device errors

Everything that can be the answer to a request that a device does not fulfil.
-/

namespace AmpControl

/-- How far the tuning payload is loaded. -/
inductive LoadState where
  | notLoaded
  | loading
  | parseFailed
  | loadFailed
  | ready
  deriving DecidableEq, Repr

def LoadState.label : LoadState → String
  | notLoaded => "not loaded"
  | loading => "loading"
  | parseFailed => "parse failed"
  | loadFailed => "load failed"
  | ready => "ready"

/-- The one-line report of a variant without a script. -/
def Tuning.UnsupportedVariant.message (unsupported : Tuning.UnsupportedVariant) : String :=
  s!"unsupported {unsupported.setting.label} value {unsupported.value}"

/-- Why a request to a device failed. -/
inductive DeviceError where
  | transport (fault : TransportFault)
  | range (error : RangeError)
  | image (error : Tuning.ImageError)
  | config (error : ConfigError)
  | unsupported (variant : Tuning.UnsupportedVariant)
  | noSlotConfig (slotWidth : UInt8)
  | notReady (state : LoadState)
  | invalidChannel (channel : UInt8)
  | lockedOut (channel : UInt8)
  deriving DecidableEq, Repr

def DeviceError.message : DeviceError → String
  | transport fault => fault.message
  | range error => error.message
  | image error => error.message
  | config error => error.message
  | unsupported variant => variant.message
  | noSlotConfig slotWidth => s!"no IV/VBat slot configuration for slot width {slotWidth}"
  | notReady state => s!"device not ready (firmware {state.label})"
  | invalidChannel channel => s!"channel {channel} does not exist"
  | lockedOut channel => s!"channel {channel} locked out after repeated faults"

end AmpControl
