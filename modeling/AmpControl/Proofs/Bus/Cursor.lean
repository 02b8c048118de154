import AmpControl.Proofs.Bus.Calls

/-!
# The remembered bank and the selected bank

Which bank is really selected on a channel can be told from what occurred: the calls that were
attempted, and the banks that were forgotten. The bus remembers exactly that. So a register is
accessed only while its bank is known to be selected, and no bank is selected that is known to be
selected already.
-/

namespace AmpControl.Bus

open Tuning (Command Script maxChannels)

/-- What bears on the selected banks: an attempted call, or banks that are no longer relied on. -/
inductive Occurrence where
  | attempted (attempt : Attempt)
  | forgot (channel : UInt8)
  | forgotAll
  deriving DecidableEq, Repr

namespace Occurrence

/-- The selected bank of a channel after something occurred, from the one that was known before. -/
def settle (channel : UInt8) : Occurrence → Option Bank → Option Bank
  | .attempted ⟨.select selecting bank, accepted⟩, known =>
      if selecting = channel then (if accepted then some bank else none) else known
  | .attempted ⟨.reset, _⟩, _ => none
  | .attempted ⟨.read _ _, _⟩, known | .attempted ⟨.write _ _ _, _⟩, known
  | .attempted ⟨.burst _ _ _, _⟩, known | .attempted ⟨.update _ _ _ _, _⟩, known => known
  | .forgot forgotten, known => if forgotten = channel then none else known
  | .forgotAll, _ => none

end Occurrence

/-- The bank that is known to be selected on a channel after a row of occurrences, latest first. -/
def tracked (channel : UInt8) (trace : List Occurrence) : Option Bank :=
  trace.foldr (Occurrence.settle channel) none

/--
An attempted call was called for: a register is accessed while its bank is selected, and a bank is
selected that is not known to be selected.
-/
structure Justified (older : List Occurrence) (call : Call) : Prop where
  access : ∀ channel register, call.channel? = some channel → call.register? = some register →
    channel.toNat < maxChannels → tracked channel older = some register.bank
  selection : ∀ channel bank, call = .select channel bank →
    channel.toNat < maxChannels → tracked channel older ≠ some bank

/-- The bus remembers what occurred, and every call in the trace was called for. -/
structure Coherent (bus : Bus) (trace : List Occurrence) : Prop where
  cursor : ∀ channel, channel.toNat < maxChannels → bus.selected? channel = tracked channel trace
  justified : ∀ call accepted older, .attempted ⟨call, accepted⟩ :: older <:+ trace →
    Justified older call

variable {bus before middle after : Bus} {trace : List Occurrence} {channel : UInt8}

theorem selected?_remember (bus : Bus) (channel : UInt8) (bank : Option Bank) {other : UInt8}
    (inside : other.toNat < maxChannels) :
    (bus.remember channel bank).selected? other =
      if channel = other then bank else bus.selected? other := by
  have same : channel.toNat = other.toNat ↔ channel = other := UInt8.toNat_inj
  simp only [selected?, remember, Vector.getElem?_setIfInBounds, same]
  split
  · rename_i equal
    subst equal
    simp [inside]
  · rfl

theorem selected?_forgetAll (bus : Bus) (channel : UInt8) :
    bus.forgetAll.selected? channel = none := by
  simp only [selected?, forgetAll, Vector.getElem?_replicate]
  split <;> rfl

namespace Coherent

/-- One more occurrence that the bus took note of. -/
theorem cons (coherent : Coherent before trace) {occurrence : Occurrence}
    (fair : ∀ call accepted, occurrence = .attempted ⟨call, accepted⟩ → Justified trace call)
    (noted : ∀ channel, channel.toNat < maxChannels →
      after.selected? channel = occurrence.settle channel (before.selected? channel)) :
    Coherent after (occurrence :: trace) where
  cursor channel inside := by
    rw [noted channel inside, coherent.cursor channel inside]
    rfl
  justified call accepted older suffix := by
    rcases List.suffix_cons_iff.mp suffix with whole | part
    · obtain ⟨rfl, rfl⟩ := List.cons.inj whole
      exact fair call accepted rfl
    · exact coherent.justified call accepted older part

/-- A bus on which nothing occurred and no bank is remembered. -/
theorem nil (unknown : ∀ channel, channel.toNat < maxChannels → bus.selected? channel = none) :
    Coherent bus [] where
  cursor := unknown
  justified _ _ _ suffix := absurd (List.suffix_nil.mp suffix) (List.cons_ne_nil _ _)

/-- What a bus remembers does not depend on the transport and the clock. -/
theorem of_selected (coherent : Coherent before trace) (same : after.selected = before.selected) :
    Coherent after trace :=
  ⟨fun channel inside => by rw [selected?, same]; exact coherent.cursor channel inside,
    coherent.justified⟩

theorem forget (coherent : Coherent bus trace) (forgotten : UInt8) :
    Coherent (bus.forget forgotten) (.forgot forgotten :: trace) :=
  coherent.cons (fun _ _ other => nomatch other) fun _ inside =>
    selected?_remember bus forgotten none inside

theorem forgetAll (coherent : Coherent bus trace) : Coherent bus.forgetAll (.forgotAll :: trace) :=
  coherent.cons (fun _ _ other => nomatch other) fun channel _ => selected?_forgetAll bus channel

/-- An access while the bank of the register is remembered. -/
theorem attempt (coherent : Coherent bus trace) {call : Call} {register : Register}
    (addresses : call.channel? = some channel) (accesses : call.register? = some register)
    (known : channel.toNat < maxChannels → bus.selected? channel = some register.bank) :
    Coherent (bus.attempt call).1 (.attempted ⟨call, (bus.attempt call).2⟩ :: trace) := by
  refine coherent.cons ?_ ?_
  · rintro _ _ ⟨⟩
    refine ⟨fun other accessed same reached inside => ?_, fun other bank same => ?_⟩
    · obtain rfl := Option.some.inj (addresses.symm.trans same)
      obtain rfl := Option.some.inj (accesses.symm.trans reached)
      rw [← coherent.cursor channel inside, known inside]
    · rw [same] at accesses
      cases accesses
  · intro other _
    cases call <;> first | rfl | cases accesses

/-- A selection of a bank that is not remembered. -/
theorem select (coherent : Coherent bus trace) {bank : Bank}
    (unknown : bus.selected? channel ≠ some bank) :
    Coherent (bus.select channel bank).1
      (.attempted ⟨.select channel bank, (bus.select channel bank).2⟩ :: trace) := by
  rw [Bus.select, if_neg unknown]
  refine coherent.cons ?_ fun other inside => selected?_remember _ channel _ inside
  rintro _ _ ⟨⟩
  refine ⟨fun _ _ _ nowhere => (nomatch nowhere), fun other wanted same inside => ?_⟩
  obtain ⟨rfl, rfl⟩ := Call.select.inj same
  rwa [← coherent.cursor channel inside]

theorem reset (coherent : Coherent bus trace) :
    Coherent bus.reset.1 (.attempted ⟨.reset, bus.reset.2⟩ :: trace) := by
  refine coherent.cons ?_ fun channel _ => selected?_forgetAll _ channel
  rintro _ _ ⟨⟩
  exact ⟨fun _ _ nobody => (nomatch nobody), fun _ _ other => (nomatch other)⟩

end Coherent

/-! ## Accesses -/

/-- The occurrences of calls, the latest first. -/
def occurred (calls : List Attempt) : List Occurrence := calls.map .attempted

/--
What an access to a register adds to the trace: the access alone while the bank of the register is
known to be selected, and otherwise a selection, with the access behind it unless it was refused.
-/
inductive Accessing (channel : UInt8) (register : Register) (call : Call) :
    (known : Prop) → List Attempt → Prop where
  | direct {known : Prop} (remembered : known) (accepted : Bool) :
      Accessing channel register call known [⟨call, accepted⟩]
  | selecting {known : Prop} (unknown : ¬known) (accepted : Bool) :
      Accessing channel register call known
        [⟨call, accepted⟩, ⟨.select channel register.bank, true⟩]
  | refused {known : Prop} (unknown : ¬known) :
      Accessing channel register call known [⟨.select channel register.bank, false⟩]

/-- What an access does to the log of calls and to what the bus remembers. -/
theorem access_spec (register : Register) (call : Call) (addresses : call.channel? = some channel)
    (accesses : call.register? = some register) (bus : Bus) :
    ∃ calls, (bus.access channel register call).1.transport.attempts =
        calls ++ bus.transport.attempts ∧
      Accessing channel register call (bus.selected? channel = some register.bank) calls ∧
      ∀ trace, Coherent bus trace →
        Coherent (bus.access channel register call).1 (occurred calls ++ trace) := by
  by_cases known : bus.selected? channel = some register.bank
  · have selected : bus.select channel register.bank = (bus, true) := by rw [select, if_pos known]
    rw [access, selected]
    exact ⟨[⟨call, (bus.attempt call).2⟩], attempts_attempt call bus, .direct known _,
      fun trace coherent => coherent.attempt addresses accesses fun _ => known⟩
  · have logged : (bus.select channel register.bank).1.transport.attempts =
        ⟨.select channel register.bank, (bus.select channel register.bank).2⟩ ::
          bus.transport.attempts := by
      rw [select, if_neg known]
      exact attempts_attempt (.select channel register.bank) bus
    have noted (inside : channel.toNat < maxChannels) :
        (bus.select channel register.bank).1.selected? channel =
          if (bus.select channel register.bank).2 then some register.bank else none := by
      rw [select, if_neg known]
      exact (selected?_remember _ channel _ inside).trans (if_pos rfl)
    have selects (trace : List Occurrence) (coherent : Coherent bus trace) :=
      coherent.select known
    rw [access]
    generalize bus.select channel register.bank = prepared at logged noted selects
    obtain ⟨ready, accepted⟩ := prepared
    cases accepted with
    | true =>
        refine ⟨[⟨call, (ready.attempt call).2⟩, ⟨.select channel register.bank, true⟩], ?_,
          .selecting known _, fun trace coherent =>
            (selects trace coherent).attempt addresses accesses noted⟩
        exact (attempts_attempt call ready).trans (congrArg _ logged)
    | false => exact ⟨[⟨.select channel register.bank, false⟩], logged, .refused known, selects⟩

/--
What happens between two states of the bus is told by the calls that were made, so what the bus
remembers stays coherent with what occurred.
-/
def Carries (before after : Bus) : Prop :=
  ∃ calls, after.transport.attempts = calls ++ before.transport.attempts ∧
    ∀ trace, Coherent before trace → Coherent after (occurred calls ++ trace)

namespace Carries

theorem refl (bus : Bus) : Carries bus bus := ⟨[], rfl, fun _ coherent => coherent⟩

theorem trans (first : Carries before middle) (second : Carries middle after) :
    Carries before after := by
  obtain ⟨early, grown, keeps⟩ := first
  obtain ⟨late, grownAgain, keepsAgain⟩ := second
  refine ⟨late ++ early, by rw [grownAgain, grown, List.append_assoc], fun trace coherent => ?_⟩
  have ends := keepsAgain _ (keeps trace coherent)
  rwa [occurred, List.map_append, List.append_assoc]

/-- Registers, failures and the clock may change without a call. -/
theorem of_selected (selected : after.selected = before.selected)
    (attempts : after.transport.attempts = before.transport.attempts) : Carries before after :=
  ⟨[], attempts, fun _ coherent => coherent.of_selected selected⟩

end Carries

theorem carries_access (register : Register) (call : Call)
    (addresses : call.channel? = some channel) (accesses : call.register? = some register)
    (bus : Bus) : Carries bus (bus.access channel register call).1 := by
  obtain ⟨calls, logged, _, keeps⟩ := access_spec register call addresses accesses bus
  exact ⟨calls, logged, keeps⟩

theorem carries_reset (bus : Bus) : Carries bus bus.reset.1 :=
  ⟨[⟨.reset, bus.reset.2⟩], attempts_attempt .reset bus, fun _ coherent => coherent.reset⟩

end AmpControl.Bus
