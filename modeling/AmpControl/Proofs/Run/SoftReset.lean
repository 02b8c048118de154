import AmpControl.Proofs.Bus.Recall
import AmpControl.Proofs.Run.Restarts
import AmpControl.Proofs.Run.Undertaking

/-!
# Software resets and the remembered bank

A channel is reset by a script like any other. Nothing is forgotten afterwards, so in every run the
calls alone tell which bank is remembered, and the bank that a reset script accessed last is
selected again only if the channel comes to need another one.
-/

namespace AmpControl

open Tuning (ChannelTables Command Payload)
open Bus (Accessing Call Carries Coherent occurred)

namespace Device

variable {device before after : Device}

/-! ## Runs -/

theorem Loads.carries (loads : Loads before after) : Carries before.bus after.bus := by
  cases loads with
  | asked asks => exact (asks none).carries
  | installed asks shaped => exact (asks none).carries.trans (carries_install shaped _)

theorem Undertakes.carries (undertakes : Undertakes before after) :
    Carries before.bus after.bus := by
  cases undertakes with
  | done loads conduct => exact loads.carries.trans conduct.carries
  | cached loads => exact loads.carries
  | forgot => exact .refl before.bus

theorem carries_perform {operation : Operation} (keeps : operation.KeepsCalls)
    (kept : device.Kept) : Carries device.bus (operation.perform device).bus := by
  obtain ⟨change, rfl⟩ | undertakes := operation.undertakes kept
  · exact .of_selected rfl (keeps device.bus.transport)
  · exact undertakes.carries

theorem carries_after {operations : List Operation}
    (keeps : ∀ operation ∈ operations, operation.KeepsCalls) (kept : device.Kept) :
    Carries device.bus (device.after operations).bus := by
  induction operations generalizing device with
  | nil => exact .refl device.bus
  | cons first others ih =>
      have early := carries_perform (keeps first List.mem_cons_self) kept
      have late := ih (fun operation member => keeps operation (List.mem_cons_of_mem _ member))
        (kept_perform first kept).1
      exact early.trans late

/-- What the bus is told by calls alone. -/
theorem coherent_of_carries {start bus : Bus} (carries : Carries start bus)
    (coherent : Coherent start (occurred start.transport.attempts)) :
    Coherent bus (occurred bus.transport.attempts) := by
  obtain ⟨calls, made, keeps⟩ := carries
  rw [made, occurred, List.map_append]
  exact keeps _ coherent

/--
In every run the remembered banks are those that the calls tell, and all calls are called for.
-/
theorem coherent_reached (config : Config) (firmware : FirmwareSource)
    {operations : List Operation} (keeps : ∀ operation ∈ operations, operation.KeepsCalls) :
    Coherent (reached config firmware operations).bus
      (occurred (reached config firmware operations).bus.transport.attempts) := by
  have initially : Coherent (initial config firmware).bus
      (occurred (initial config firmware).bus.transport.attempts) :=
    .nil fun channel inside => by
      simp [initial, Bus.new, Bus.selected?, inside]
  exact coherent_of_carries (carries_after keeps (kept_initial config firmware)) initially

/-! ## Software resets -/

/-- The registers that the script accesses by which a channel is reset. -/
def resetRegisters (tables : ChannelTables) : List Register :=
  tables.power.softReset.filterMap Command.register?

/--
Whenever a channel was reset by its script in the course of a run, the remembered bank is the one
that the script accessed last, or none where the channel refuses all calls and another bank was
needed than the one before; it is the one that the calls tell. The next access to the channel is
preceded by the selection of its bank only if that is not the remembered one, whatever was done on
other channels meanwhile.
-/
theorem bank_outlives_softReset (config : Config) (firmware : FirmwareSource)
    (operations : List Operation) (keeps : ∀ operation ∈ operations, operation.KeepsCalls)
    (device : Device) (onTheWay : Carries (reached config firmware operations).bus device.bus)
    (payload : Payload) (channel : UInt8) (tables : ChannelTables)
    (tabled : payload.channel? channel = some tables) (inside : channel.toNat < Tuning.maxChannels)
    (after : Device) (resets : (softReset payload channel device).1 = after) :
    Coherent after.bus (occurred after.bus.transport.attempts) ∧
    (∀ last, (resetRegisters tables).getLast? = some last → device.bus.refuses channel = false →
      after.bus.selected? channel = some last.bank) ∧
    (∀ register ∈ resetRegisters tables, device.bus.refuses channel = true →
      device.bus.selected? channel ≠ some register.bank → after.bus.selected? channel = none) ∧
    ((∀ register ∈ resetRegisters tables, device.bus.selected? channel = some register.bank) →
      after.bus.selected? channel = device.bus.selected? channel) ∧
    ∀ later between register call, Carries after.bus later →
      later.transport.attempts = between ++ after.bus.transport.attempts →
      (∀ attempt ∈ between, ∃ other ≠ channel, attempt.call.channel? = some other) →
      call.channel? = some channel → call.register? = some register →
      ∃ calls, (later.access channel register call).1.transport.attempts =
          calls ++ later.transport.attempts ∧
        Accessing channel register call (after.bus.selected? channel = some register.bank)
          calls := by
  have executed : after.bus = (device.bus.execute channel tables.power.softReset).1 := by
    rw [← resets, softReset, tabled]
    rfl
  have selected : after.bus.selected? channel = (resetRegisters tables).foldl
      (Bus.recollect (device.bus.refuses channel)) (device.bus.selected? channel) := by
    rw [executed]
    exact Bus.selected?_execute inside _ _
  have coherent : Coherent after.bus (occurred after.bus.transport.attempts) := by
    refine coherent_of_carries (onTheWay.trans ?_) (coherent_reached config firmware keeps)
    rw [executed]
    exact (Bus.errand_execute channel _ _).carries
  refine ⟨coherent, fun last ends works => ?_, fun register member refused other => ?_,
    fun remembered => ?_,
    fun later between register call carries made others addresses accesses => ?_⟩
  · rw [selected, works, Bus.recollect_of_last ends]
  · rw [selected, refused, Bus.recollect_of_refused member other]
  · rw [selected, Bus.recollect_of_known remembered]
  · obtain ⟨calls, logged, accessing, _⟩ := Bus.access_spec register call addresses accesses later
    rw [carries.selected?_of_others coherent inside made others] at accessing
    exact ⟨calls, logged, accessing⟩

/-- A channel is reset once more after the image was loaded; its only bank stays remembered. -/
theorem bank_remembered_of_small :
    ∃ payload tables, (reached .standard .small [.load 1]).ready? = some payload ∧
      payload.channel? 0 = some tables ∧
      resetRegisters tables = [Register.ofParts 0 0 1] ∧
      (softReset payload 0 (reached .standard .small [.load 1])).1.bus.selected? 0 =
        some (Register.ofParts 0 0 1).bank := by
  have found : ((reached .standard .small [.load 1]).ready?.bind fun payload =>
      (payload.channel? 0).map fun tables => (payload, resetRegisters tables)).map Prod.snd =
        some [Register.ofParts 0 0 1] := by decide +kernel
  obtain ⟨⟨payload, registers⟩, chosen, same⟩ := Option.map_eq_some_iff.mp found
  obtain ⟨payload, ready, read⟩ := Option.bind_eq_some_iff.mp chosen
  obtain ⟨tables, tabled, held⟩ := Option.map_eq_some_iff.mp read
  cases held
  have keeps : ∀ operation ∈ [Operation.load 1], operation.KeepsCalls := by
    simp [Operation.KeepsCalls]
  obtain ⟨_, left, _⟩ := bank_outlives_softReset .standard .small [.load 1] keeps
    (reached .standard .small [.load 1]) (.refl _) payload 0 tables tabled (by decide) _ rfl
  have registers : resetRegisters tables = [Register.ofParts 0 0 1] := same
  refine ⟨payload, tables, ready, tabled, registers, left _ ?_ (by decide +kernel)⟩
  rw [registers]
  rfl

/-- The initialisation of a channel begins after its reset with no selection between them. -/
theorem no_selection_after_softReset :
    (reached .standard .small [.load 1]).history.reverse.take 3 =
        [.installed, .ran 0 .softReset .shutdown false false,
          .ran 0 .initialisation .shutdown false false] ∧
      (reached .standard .small [.load 1]).bus.transport.calls.take 3 =
        [.select 0 (Register.ofParts 0 0 1).bank, .write 0 (Register.ofParts 0 0 1) 1,
          .write 0 (Register.ofParts 0 0 0x7E) 0xA0] := by
  decide +kernel

end Device

end AmpControl
