import AmpControl.Proofs.Run.Trimming

/-!
# Unused interrupt tables

Where the header leaves the interrupt tables unused, a payload and the same payload without them
make no difference: whatever is asked of devices that are supplied with the one and with the other,
they reply the same, make the same calls at the same times, and stay in the same state.
-/

namespace AmpControl

open Tuning (Draft HeaderDraft Kind Parsed Payload Section Walk trimImage withoutInterrupts)

/-! ## Images in place of others -/

/-- The same answer of a source, or another image in place of one. -/
inductive Exchanged (image other : Bytes) : Option Bytes → Option Bytes → Prop where
  | same (answer : Option Bytes) : Exchanged image other answer answer
  | replaced : Exchanged image other (some image) (some other)

/-- The same source, but for an image that others may stand in place of. -/
structure FirmwareSource.Exchanged (image other : Bytes) (source exchanged : FirmwareSource) :
    Prop where
  queued : List.Forall₂ (AmpControl.Exchanged image other) source.queued exchanged.queued
  fallback : AmpControl.Exchanged image other source.fallback exchanged.fallback
  requests : exchanged.requests = source.requests

/-- The same operation, or the supply of a source in which an image was exchanged. -/
inductive Operation.Exchanged (image other : Bytes) : Operation → Operation → Prop where
  | same (operation : Operation) : Exchanged image other operation operation
  | supply {source exchanged : FirmwareSource} (exchange : source.Exchanged image other exchanged) :
      Exchanged image other (.supply source) (.supply exchanged)

section

variable {image other : Bytes} {revision : UInt32}

/-- Rows whose members look the same in pairs look the same. -/
theorem map_eq_of_forall₂ {α β : Type} {relation : α → α → Prop} {view : α → β}
    {row others : List α} (all : List.Forall₂ relation row others)
    (same : ∀ {one another}, relation one another → view another = view one) :
    others.map view = row.map view := by
  induction all with
  | nil => rfl
  | cons first _ ih => rw [List.map_cons, List.map_cons, same first, ih]

theorem Exchanged.trim_eq (alike : trimImage revision other = trimImage revision image)
    {first second : Option Bytes} (exchanged : Exchanged image other first second) :
    second.map (trimImage revision) = first.map (trimImage revision) := by
  cases exchanged with
  | same => rfl
  | replaced => exact congrArg some alike

theorem FirmwareSource.Exchanged.trim_eq
    (alike : trimImage revision other = trimImage revision image)
    {first second : FirmwareSource} (exchanged : first.Exchanged image other second) :
    second.trim revision = first.trim revision := by
  have queued : second.queued.map (Option.map (trimImage revision)) =
      first.queued.map (Option.map (trimImage revision)) :=
    map_eq_of_forall₂ exchanged.queued fun one => one.trim_eq alike
  rw [FirmwareSource.trim, FirmwareSource.trim, queued, exchanged.fallback.trim_eq alike,
    exchanged.requests]

/-- Sources of one image and of the other. -/
theorem FirmwareSource.exchanged_new (image other : Bytes) :
    (new (some image)).Exchanged image other (new (some other)) :=
  ⟨.nil, .replaced, rfl⟩

theorem Operation.Exchanged.trim_eq (alike : trimImage revision other = trimImage revision image)
    {first second : Operation} (exchanged : first.Exchanged image other second) :
    second.trim revision = first.trim revision := by
  cases exchanged with
  | same => rfl
  | supply exchange => exact congrArg Operation.supply (exchange.trim_eq alike)

end

/-! ## Runs -/

namespace Device

variable {first second : Device}

/-- Trimming the payloads of a run from its beginning changes no reply and trims its end. -/
theorem run_trim (operations : List Operation) {device : Device} (kept : device.Kept) :
    replies (operations.map (Operation.trim device.config.revision)) device.trim =
        replies operations device ∧
      device.trim.after (operations.map (Operation.trim device.config.revision)) =
        (device.after operations).trim := by
  induction operations generalizing device with
  | nil => exact ⟨rfl, rfl⟩
  | cons operation others ih =>
      have config : (operation.perform device).config = device.config :=
        config_after [operation] kept
      obtain ⟨replies_eq, after_eq⟩ := ih (kept_perform operation kept).1
      rw [config] at replies_eq after_eq
      constructor
      · simp only [List.map_cons, replies, operation.reply_trim, operation.perform_trim, replies_eq]
      · simp only [List.map_cons, after, List.foldl_cons, operation.perform_trim]
        exact after_eq

/-- Runs that are the same once trimmed reply the same, and end the same once trimmed. -/
theorem runs_of_trim_eq {operations others : List Operation} (kept : first.Kept)
    (otherKept : second.Kept) (config : second.config = first.config)
    (same : second.trim = first.trim)
    (exchanged : others.map (Operation.trim first.config.revision) =
      operations.map (Operation.trim first.config.revision)) :
    replies others second = replies operations first ∧
      (second.after others).trim = (first.after operations).trim := by
  obtain ⟨replies_eq, after_eq⟩ := run_trim operations kept
  obtain ⟨otherReplies, otherAfter⟩ := run_trim others otherKept
  rw [config, exchanged, same] at otherReplies otherAfter
  exact ⟨otherReplies.symm.trans replies_eq, otherAfter.symm.trans after_eq⟩

/-- Devices that are the same once trimmed differ in their payloads and images only. -/
theorem eq_of_trim_eq (same : second.trim = first.trim) :
    second = { first with payload := second.payload, firmware := second.firmware } ∧
      second.firmware.requests = first.firmware.requests ∧
      second.payload.map Payload.trim = first.payload.map Payload.trim := by
  have requests := congrArg (·.firmware.requests) same
  have payload := congrArg Device.payload same
  refine ⟨?_, requests, payload⟩
  obtain ⟨⟩ := first
  obtain ⟨⟩ := second
  simp only [trim, Device.mk.injEq] at same ⊢
  tauto

/--
A payload without its unused interrupt tables is as good as the payload. Without the sections of
these tables it still parses, with nothing else changed. And whatever the configuration is, and
whatever is done to the devices and their transports: if one device is supplied with the payload and
the other is supplied without the tables instead, then both reply the same to every operation, and
they differ in the payload in place and in the images to come, and in nothing else. So the attempted
calls and the time are the same, as are the power, the interrupts, the counters, the values, the
errors and the statistics.
-/
theorem unused_tables_irrelevant {bytes : Bytes} {payload : Payload}
    (parses : (Parsed.ofPayload bytes).outcome = .ok payload)
    (unused : payload.header.interruptsSupported = false) :
    (Walk.ofBytes (withoutInterrupts bytes)).sections.map Section.content =
        ((Walk.ofBytes bytes).sections.map Section.content).filter
          (fun frame => frame.1 ≠ Kind.interrupts) ∧
    (Parsed.ofPayload (withoutInterrupts bytes)).outcome =
        .ok { payload with
          bytes := withoutInterrupts bytes
          channels := payload.channels.map fun tables => { tables with interrupts := none } } ∧
    ∀ (config : Config) (source exchanged : FirmwareSource) (operations others : List Operation),
      source.Exchanged bytes (withoutInterrupts bytes) exchanged →
      List.Forall₂ (Operation.Exchanged bytes (withoutInterrupts bytes)) operations others →
      let first := reached config source operations
      let second := reached config exchanged others
      replies others (initial config exchanged) = replies operations (initial config source) ∧
      second = { first with payload := second.payload, firmware := second.firmware } ∧
      second.firmware.requests = first.firmware.requests ∧
      second.payload.map Payload.trim = first.payload.map Payload.trim := by
  obtain ⟨same, stored, rows, rest, framed⟩ := Payload.framed_of_outcome parses
  have trimmed : payload.trim = { payload with
      bytes := withoutInterrupts bytes
      channels := payload.channels.map fun tables => { tables with interrupts := none } } := by
    rw [Payload.trim, unused, same]
    rfl
  have bytes_trim : payload.trim.bytes = withoutInterrupts bytes := by rw [trimmed]
  refine ⟨?_, ?_, ?_⟩
  · exact Payload.contents_withoutInterrupts parses
  · have again := Payload.outcome_trim parses
    rwa [bytes_trim, trimmed] at again
  · intro config source exchanged operations others sources exchanges
    have alike : trimImage config.revision (withoutInterrupts bytes) =
        trimImage config.revision bytes :=
      bytes_trim ▸ Tuning.trimImage_trim parses config.revision
    have begun : (initial config exchanged).trim = (initial config source).trim := by
      have sameSource := sources.trim_eq alike
      exact congrArg (fun firmware => initial config firmware) sameSource
    have done : others.map (Operation.trim config.revision) =
        operations.map (Operation.trim config.revision) :=
      map_eq_of_forall₂ exchanges fun one => one.trim_eq alike
    obtain ⟨replied, ended⟩ := runs_of_trim_eq (kept_initial config source)
      (kept_initial config exchanged) rfl begun done
    exact ⟨replied, eq_of_trim_eq ended⟩

end Device

/-! ## The small image with its table unused -/

/-- The small image, whose header does not put the interrupt table in use. -/
def Tuning.Draft.disused : Draft :=
  Draft.small.withHeader
    { HeaderDraft.new 1 with header := { (HeaderDraft.new 1).header with features := 0 } }

namespace Device

/-- The only channel plays, reports a fault, and ceases to answer. -/
def ceasesToAnswer : List Operation :=
  [.load 1, .power 1 .active, .runFor 100000, .disturb (Bus.Transport.preset 0
    (Register.ofParts 0 0 0x10) 0x02), .handleInterrupt, .counters 0,
    .disturb (Bus.Transport.failChannel 0), .power 1 .mute, .putControl 0 3]

/-- The channel ceases to answer, and an image is supplied and loaded. -/
def loadsAgain (image : Bytes) : List Operation :=
  ceasesToAnswer ++ [.supply (.new (some image)), .load 1]

theorem exchanged_loadsAgain (image other : Bytes) :
    List.Forall₂ (Operation.Exchanged image other) (loadsAgain image) (loadsAgain other) := by
  refine List.rel_append (List.forall₂_same.mpr fun operation _ => .same operation) ?_
  exact .cons (.supply (FirmwareSource.exchanged_new image other)) (.cons (.same _) .nil)

/-- The table is there, and whether it is there makes no difference while the channel plays. -/
theorem disused_table_irrelevant :
    (Parsed.ofPayload Draft.disused.build).outcome = .ok Draft.disused.payload ∧
      Draft.disused.payload.header.interruptsSupported = false ∧
      withoutInterrupts Draft.disused.build ≠ Draft.disused.build ∧
      replies (loadsAgain (withoutInterrupts Draft.disused.build))
          (initial .standard (.new (some (withoutInterrupts Draft.disused.build)))) =
        replies (loadsAgain Draft.disused.build)
          (initial .standard (.new (some Draft.disused.build))) ∧
      (reached .standard (.new (some (withoutInterrupts Draft.disused.build)))
          (loadsAgain (withoutInterrupts Draft.disused.build))).bus =
        (reached .standard (.new (some Draft.disused.build))
          (loadsAgain Draft.disused.build)).bus ∧
      (reached .standard (.new (some Draft.disused.build))
        (loadsAgain Draft.disused.build)).bus.transport.attempts ≠ [] := by
  have parses : (Parsed.ofPayload Draft.disused.build).outcome = .ok Draft.disused.payload :=
    Parsed.outcome_of_toOption (by decide +kernel)
  have unused : Draft.disused.payload.header.interruptsSupported = false := rfl
  have sources := FirmwareSource.exchanged_new Draft.disused.build
    (withoutInterrupts Draft.disused.build)
  have operations := exchanged_loadsAgain Draft.disused.build
    (withoutInterrupts Draft.disused.build)
  obtain ⟨_, _, runs⟩ := unused_tables_irrelevant parses unused
  obtain ⟨replied, alike, _⟩ := runs .standard _ _ _ _ sources operations
  refine ⟨parses, unused, by decide +kernel, replied, ?_, by decide +kernel⟩
  rw [alike]

end Device

end AmpControl
