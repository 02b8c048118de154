import AmpControl.Bus.Schedule
import AmpControl.Control.Panel
import AmpControl.Device.Request
import AmpControl.Main
import AmpControl.Proofs.Run.Answers
import AmpControl.Proofs.Run.Attention
import AmpControl.Proofs.Run.Channels
import AmpControl.Proofs.Run.Delivery
import AmpControl.Proofs.Run.Recovery
import AmpControl.Proofs.Run.Restarts
import AmpControl.Proofs.Run.Storms
import AmpControl.Proofs.Tuning.Name
import AmpControl.Proofs.Tuning.Script
import AmpControl.Proofs.Tuning.Tables
import AmpControl.Proofs.Tuning.Globals
import AmpControl.Proofs.Tuning.Layout
import AmpControl.Proofs.Tuning.RoundTrip
import AmpControl.Proofs.Tuning.Restoring
import AmpControl.Proofs.Tuning.WrittenBack
import AmpControl.Proofs.Tuning.Division
import AmpControl.Proofs.Tuning.Slots
import AmpControl.Proofs.Tuning.Growth
import AmpControl.Proofs.Tuning.Grammar
import AmpControl.Proofs.Tuning.Location
import AmpControl.Proofs.Tuning.Truncation
import AmpControl.Proofs.Tuning.Walking
import AmpControl.Proofs.Tuning.Reports
import AmpControl.Proofs.Tuning.Refusals
import AmpControl.Proofs.Tuning.Clipping
import AmpControl.Proofs.Tuning.Renaming
import AmpControl.Proofs.Tuning.LongNames
import AmpControl.Proofs.Bus.Cursor
import AmpControl.Proofs.Bus.Interleaving
import AmpControl.Proofs.Bus.Isolation
import AmpControl.Proofs.Bus.Accesses
import AmpControl.Proofs.Bus.Errand
import AmpControl.Proofs.Bus.Recall
import AmpControl.Proofs.Device.Conduct
import AmpControl.Proofs.Device.Refusal
import AmpControl.Proofs.Run.Refusals
import AmpControl.Proofs.Run.SoftReset
import AmpControl.Proofs.Device.Confinement
import AmpControl.Proofs.Device.Visits
import AmpControl.Proofs.Device.Quiescence
import AmpControl.Proofs.Run.Power
import AmpControl.Proofs.Device.Attempts
import AmpControl.Proofs.Run.Loading
import AmpControl.Proofs.Control.Cache
import AmpControl.Proofs.Run.LateWrites
import AmpControl.Proofs.Run.DeclaredCalls
import AmpControl.Proofs.Run.UnusedTables
import AmpControl.Proofs.Run.Detections
import AmpControl.Proofs.Run.Lookups
import AmpControl.Proofs.Run.Rearming
import AmpControl.Proofs.Run.Quiet
import AmpControl.Proofs.Bus.Plain
import AmpControl.Proofs.Run.Accounting
import AmpControl.Proofs.Run.Transitions
import AmpControl.Proofs.Run.Commuting
import AmpControl.Proofs.Bus.Comparison
import AmpControl.Proofs.Interrupt.Polling
import AmpControl.Proofs.Interrupt.Windows
import AmpControl.Proofs.Deferred.History
import AmpControl.Proofs.Run.Draining
import AmpControl.Proofs.Tuning.SlotChoice
import AmpControl.Proofs.Tuning.Wrapping
import AmpControl.Proofs.Control.History
import AmpControl.Tuning.Slice
import AmpControl.Proofs.Control.Index
import AmpControl.Tuning.Parser
import AmpControl.Proofs.Tuning.Positions
import AmpControl.Proofs.Tuning.Raising
import AmpControl.Proofs.Tuning.Placement
import AmpControl.Proofs.Tuning.Progress
