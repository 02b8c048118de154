import AmpControl.Tuning.Slot
import Mathlib.Logic.Function.Basic

/-!
# The choice of a slot configuration

The pairs of current-sense width and voltage sense that are tried for a request are ranked: voltage
sense comes before width. The configuration that is chosen is the first that is authored for the
best pair for which any is. A key spells its arrangement out unambiguously, and an arrangement whose
spelling is too long for a key is authored nowhere.
-/

namespace AmpControl

/-! ## Decimal numbers -/

namespace Text

/-- A number is read back from its padded digits. -/
theorem ofDigitChars_decimal (digits value : Nat) :
    Nat.ofDigitChars 10 (decimal digits value).toList 0 = value := by
  rw [decimal, String.toList_ofList, List.leftpad, Nat.ofDigitChars_append,
    Nat.ofDigitChars_replicate_zero, Nat.mul_zero]
  exact Nat.ofDigitChars_toDigits (by decide) (by decide)

theorem decimal_injective (digits : Nat) : Function.Injective (decimal digits) := by
  intro value other same
  rw [← ofDigitChars_decimal digits value, same, ofDigitChars_decimal]

theorem underscore_notMem_decimal (digits value : Nat) : '_' ∉ (decimal digits value).toList := by
  rw [decimal, String.toList_ofList, List.leftpad, List.mem_append, not_or]
  refine ⟨fun padding => ?_, Nat.underscore_not_in_toDigits⟩
  exact absurd (List.eq_of_mem_replicate padding) (by decide)

end Text

namespace Tuning

/-! ## Keys -/

namespace SlotKey

theorem eq_of_text {one other : SlotKey} (same : one.text = other.text) : one = other := by
  cases one
  cases other
  cases same
  rfl

/-- The parts of the text that spells an arrangement of slots out. -/
def parts (slotWidth : UInt8) (framing : Framing) (channels senseWidth : UInt8) (voltage : Bool) :
    List String :=
  [Text.decimal 2 (min slotWidth.toNat senseWidth.toNat), framing.label,
    Text.decimal 2 channels.toNat, Text.decimal 2 senseWidth.toNat, if voltage then "1" else "0"]

/-- The text that spells an arrangement of slots out, whether or not it fits into a key. -/
def spelling (slotWidth : UInt8) (framing : Framing) (channels senseWidth : UInt8)
    (voltage : Bool) : String :=
  "_".intercalate (parts slotWidth framing channels senseWidth voltage)

variable {slotWidth otherSlotWidth channels otherChannels senseWidth otherSenseWidth : UInt8}
  {framing otherFraming : Framing} {voltage otherVoltage : Bool} {key : SlotKey}

theorem compose?_eq_some_iff :
    compose? slotWidth framing channels senseWidth voltage = some key ↔
      key.text = spelling slotWidth framing channels senseWidth voltage := by
  change ofText? (spelling slotWidth framing channels senseWidth voltage) = some key ↔ _
  unfold ofText?
  split
  · rename_i fits
    rw [Option.some.injEq]
    constructor
    · rintro rfl
      rfl
    · exact fun same => eq_of_text same.symm
  · rename_i long
    refine ⟨fun impossible => (nomatch impossible), fun same => ?_⟩
    exact absurd (same ▸ key.fits) long

theorem compose?_eq_none_iff :
    compose? slotWidth framing channels senseWidth voltage = none ↔
      slotKeyWidth < (spelling slotWidth framing channels senseWidth voltage).utf8ByteSize := by
  change ofText? (spelling slotWidth framing channels senseWidth voltage) = none ↔ _
  unfold ofText?
  split
  · rename_i fits
    exact ⟨fun impossible => (nomatch impossible), fun long => absurd fits (Nat.not_le.mpr long)⟩
  · rename_i long
    exact ⟨fun _ => Nat.not_le.mp long, fun _ => rfl⟩

/-- No part of a spelling holds the separator. -/
theorem underscore_notMem_parts (slotWidth : UInt8) (framing : Framing)
    (channels senseWidth : UInt8) (voltage : Bool) :
    ∀ part ∈ (parts slotWidth framing channels senseWidth voltage).map String.toList,
      '_' ∉ part := by
  have label : '_' ∉ framing.label.toList := by cases framing <;> decide
  have flag : '_' ∉ (if voltage then "1" else "0").toList := by cases voltage <;> decide
  simp only [parts, List.map_cons, List.map_nil, List.forall_mem_cons]
  exact ⟨Text.underscore_notMem_decimal _ _, label, Text.underscore_notMem_decimal _ _,
    Text.underscore_notMem_decimal _ _, flag, fun _ none => absurd none List.not_mem_nil⟩

/-- The parts are read back from the spelling. -/
theorem splitOn_spelling (slotWidth : UInt8) (framing : Framing) (channels senseWidth : UInt8)
    (voltage : Bool) :
    (spelling slotWidth framing channels senseWidth voltage).toList.splitOn '_' =
      (parts slotWidth framing channels senseWidth voltage).map String.toList := by
  rw [spelling, String.toList_intercalate]
  exact List.splitOn_intercalate '_' (underscore_notMem_parts _ _ _ _ _) (List.cons_ne_nil _ _)

/-- Two arrangements are spelled alike just if they are the same, up to the slot width beyond the
sense width. -/
theorem spelling_eq_iff :
    spelling slotWidth framing channels senseWidth voltage =
        spelling otherSlotWidth otherFraming otherChannels otherSenseWidth otherVoltage ↔
      min slotWidth.toNat senseWidth.toNat = min otherSlotWidth.toNat otherSenseWidth.toNat ∧
      framing = otherFraming ∧ channels = otherChannels ∧ senseWidth = otherSenseWidth ∧
      voltage = otherVoltage := by
  constructor
  · intro same
    have split := congrArg (fun text : String => text.toList.splitOn '_') same
    simp only [splitOn_spelling] at split
    have alike := (List.map_inj_right fun _ _ => String.toList_inj.mp).mp split
    simp only [parts, List.cons.injEq, and_true] at alike
    obtain ⟨slot, label, count, width, flag⟩ := alike
    refine ⟨Text.decimal_injective 2 slot, ?_, UInt8.toNat_inj.mp (Text.decimal_injective 2 count),
      UInt8.toNat_inj.mp (Text.decimal_injective 2 width), ?_⟩
    · revert label
      cases framing <;> cases otherFraming <;> decide
    · revert flag
      cases voltage <;> cases otherVoltage <;> decide
  · rintro ⟨slot, rfl, rfl, rfl, rfl⟩
    rw [spelling, spelling, parts, parts, slot]

end SlotKey

/-! ## The ladder -/

namespace SlotRequest

/-- A pair is better than another: voltage sense counts first, and then the width. -/
def Better (first second : UInt8 × Bool) : Prop :=
  first.2 = true ∧ second.2 = false ∨ first.2 = second.2 ∧ second.1 < first.1

theorem Better.asymm {first second : UInt8 × Bool} (better : Better first second) :
    ¬Better second first := by
  rintro (⟨sensed, unsensed⟩ | ⟨alike, wider⟩)
  · rcases better with ⟨other, _⟩ | ⟨same, _⟩
    · exact Bool.false_ne_true (unsensed.symm.trans other)
    · exact Bool.false_ne_true (unsensed.symm.trans (same.trans sensed))
  · rcases better with ⟨sensed, unsensed⟩ | ⟨_, narrower⟩
    · exact Bool.false_ne_true (unsensed.symm.trans (alike.trans sensed))
    · exact UInt8.lt_asymm narrower wider

theorem mem_widths {wanted width : UInt8} :
    width ∈ widths wanted ↔
      width = wanted ∨ (width = 16 ∨ width = 12 ∨ width = 8) ∧ width < wanted := by
  simp [widths, narrowerWidths]

theorem widths_ordered (wanted : UInt8) :
    (widths wanted).Pairwise fun first second => second < first := by
  refine List.pairwise_cons.mpr ⟨fun width member => ?_, ?_⟩
  · exact of_decide_eq_true (List.mem_filter.mp member).2
  · have ordered : narrowerWidths.Pairwise fun first second => second < first := by decide
    exact ordered.filter _

/-- The pairs that are tried are those that are no better than what is wanted. -/
theorem mem_ladder {senseWidth : UInt8} {voltage : Bool} {pair : UInt8 × Bool} :
    pair ∈ ladder senseWidth voltage ↔
      pair.1 ∈ widths senseWidth ∧ (pair.2 = true → voltage = true) := by
  obtain ⟨width, sensed⟩ := pair
  cases voltage <;> cases sensed <;> simp [ladder]

theorem ladder_ordered (senseWidth : UInt8) (voltage : Bool) :
    (ladder senseWidth voltage).Pairwise Better := by
  have ordered (sensed : Bool) :
      ((widths senseWidth).map fun width => (width, sensed)).Pairwise Better :=
    List.pairwise_map.mpr ((widths_ordered senseWidth).imp fun narrower => .inr ⟨rfl, narrower⟩)
  cases voltage with
  | false =>
      rw [ladder, if_neg Bool.false_ne_true, List.append_nil]
      exact ordered false
  | true =>
      rw [ladder, if_pos rfl]
      refine List.pairwise_append.mpr ⟨ordered true, ordered false, ?_⟩
      intro first early second late
      obtain ⟨_, _, rfl⟩ := List.mem_map.mp early
      obtain ⟨_, _, rfl⟩ := List.mem_map.mp late
      exact .inl ⟨rfl, rfl⟩

/-! ## The choice -/

/-- A configuration is authored for a pair that is tried. -/
def Matches (request : SlotRequest) (pair : UInt8 × Bool) (config : SlotConfig) : Prop :=
  config.key.text =
    SlotKey.spelling request.slotWidth request.framing request.channels pair.1 pair.2

instance (request : SlotRequest) (pair : UInt8 × Bool) (config : SlotConfig) :
    Decidable (request.Matches pair config) := inferInstanceAs (Decidable (_ = _))

variable {request : SlotRequest} {authored : List SlotConfig} {config : SlotConfig}
  {pair : UInt8 × Bool}

/-- No configuration is authored for a pair whose spelling is too long for a key. -/
theorem unmatched_of_long (long : slotKeyWidth < (SlotKey.spelling request.slotWidth
    request.framing request.channels pair.1 pair.2).utf8ByteSize) (config : SlotConfig) :
    ¬request.Matches pair config := by
  intro spelled
  have fits := config.key.fits
  rw [spelled] at fits
  exact absurd fits (Nat.not_le.mpr long)

/-- The configuration that is found for a request is the first under its key. -/
theorem find?_of_resolve (resolved : request.resolve authored = some config) :
    (authored.find? fun other => other.key = config.key) = some config := by
  obtain ⟨⟨width, voltage⟩, _, found⟩ := List.exists_of_findSome?_eq_some resolved
  obtain ⟨key, _, first⟩ := Option.bind_eq_some_iff.mp found
  have met := List.find?_some first
  have same : config.key = key := of_decide_eq_true met
  rwa [same]

/-- Under the key of a pair the first configuration is found that is authored for it. -/
theorem find?_key (request : SlotRequest) (authored : List SlotConfig) (pair : UInt8 × Bool) :
    (SlotKey.compose? request.slotWidth request.framing request.channels pair.1 pair.2).bind
        (fun key => authored.find? fun config => config.key = key) =
      authored.find? fun config => request.Matches pair config := by
  cases composed : SlotKey.compose? request.slotWidth request.framing request.channels pair.1
      pair.2 with
  | some key =>
      have spelled := SlotKey.compose?_eq_some_iff.mp composed
      have same (config : SlotConfig) : config.key = key ↔ request.Matches pair config := by
        rw [Matches, ← spelled]
        exact ⟨congrArg SlotKey.text, SlotKey.eq_of_text⟩
      simp only [Option.bind_some, same]
  | none =>
      -- No key is as long as this spelling.
      have long := SlotKey.compose?_eq_none_iff.mp composed
      rw [Option.bind_none, eq_comm, List.find?_eq_none]
      intro config _ matched
      have spelled : request.Matches pair config := of_decide_eq_true matched
      exact unmatched_of_long long config spelled

/-- For each pair that is tried the first configuration is looked for that is authored for it. -/
theorem resolve_eq (request : SlotRequest) (authored : List SlotConfig) :
    request.resolve authored = (ladder request.senseWidth request.voltage).findSome? fun pair =>
      authored.find? fun config => request.Matches pair config :=
  congrArg (List.findSome? · _) (funext fun pair => find?_key request authored pair)

theorem unmatched_iff : (authored.find? fun config => request.Matches pair config) = none ↔
    ∀ config ∈ authored, ¬request.Matches pair config := by
  simp only [List.find?_eq_none, decide_eq_true_eq]

/-- The configuration that is found for a pair is the first that is authored for it. -/
theorem matched_iff : (authored.find? fun config => request.Matches pair config) = some config ↔
    ∃ early late, authored = early ++ config :: late ∧ request.Matches pair config ∧
      ∀ other ∈ early, ¬request.Matches pair other := by
  simp only [List.find?_eq_some_iff_append, decide_eq_true_eq, Bool.not_eq_true',
    decide_eq_false_iff_not]
  constructor
  · rintro ⟨matched, early, late, split, first⟩
    exact ⟨early, late, split, matched, first⟩
  · rintro ⟨early, late, split, matched, first⟩
    exact ⟨matched, early, late, split, first⟩

/-- What stands before a pair in a row that begins with the best is what is better. -/
theorem mem_sooner {sooner later : List (UInt8 × Bool)} {other : UInt8 × Bool}
    (ordered : (sooner ++ pair :: later).Pairwise Better) :
    other ∈ sooner ↔ other ∈ sooner ++ pair :: later ∧ Better other pair := by
  obtain ⟨_, fromPair, across⟩ := List.pairwise_append.mp ordered
  constructor
  · exact fun early => ⟨List.mem_append_left _ early, across other early pair List.mem_cons_self⟩
  · rintro ⟨member, better⟩
    rcases List.mem_append.mp member with early | late
    · exact early
    rcases List.mem_cons.mp late with rfl | behind
    · exact absurd better better.asymm
    · exact absurd better ((List.pairwise_cons.mp fromPair).1 other behind).asymm

theorem resolve_eq_none_iff : request.resolve authored = none ↔
    ∀ pair ∈ ladder request.senseWidth request.voltage, ∀ config ∈ authored,
      ¬request.Matches pair config := by
  simp only [resolve_eq, List.findSome?_eq_none_iff, unmatched_iff]

theorem resolve_eq_some_iff : request.resolve authored = some config ↔
    ∃ pair ∈ ladder request.senseWidth request.voltage,
      (∃ early late, authored = early ++ config :: late ∧ request.Matches pair config ∧
        ∀ other ∈ early, ¬request.Matches pair other) ∧
      ∀ better ∈ ladder request.senseWidth request.voltage, Better better pair →
        ∀ other ∈ authored, ¬request.Matches better other := by
  have ordered := ladder_ordered request.senseWidth request.voltage
  rw [resolve_eq, List.findSome?_eq_some_iff]
  generalize ladder request.senseWidth request.voltage = row at *
  constructor
  · rintro ⟨sooner, pair, later, rfl, found, unfound⟩
    refine ⟨pair, List.mem_append_right _ List.mem_cons_self, matched_iff.mp found, ?_⟩
    intro better member beats
    exact unmatched_iff.mp (unfound better ((mem_sooner ordered).mpr ⟨member, beats⟩))
  · rintro ⟨pair, member, found, unfound⟩
    obtain ⟨sooner, later, rfl⟩ := List.append_of_mem member
    refine ⟨sooner, pair, later, rfl, matched_iff.mpr found, fun better early => ?_⟩
    obtain ⟨listed, beats⟩ := (mem_sooner ordered).mp early
    exact unmatched_iff.mpr (unfound better listed beats)

/--
The pairs that are tried for a request are, the best first, those of the wanted width or a narrower
one of 16, 12 and 8, with voltage sense only if it is wanted. A configuration is chosen just if it
is the first that is authored for a pair, and none is authored for a better one; none is chosen just
if none is authored for any pair. A pair whose spelling is too long for a key has none. And two
arrangements have the same key just if they are the same, up to the slot width beyond the sense
width.
-/
theorem best_authored_chosen (request : SlotRequest) (authored : List SlotConfig) :
    let row := ladder request.senseWidth request.voltage
    row.Pairwise Better ∧
    (∀ width voltage, (width, voltage) ∈ row ↔
      (width = request.senseWidth ∨
        (width = 16 ∨ width = 12 ∨ width = 8) ∧ width < request.senseWidth) ∧
      (voltage = true → request.voltage = true)) ∧
    (∀ config, request.resolve authored = some config ↔
      ∃ pair ∈ row,
        (∃ early late, authored = early ++ config :: late ∧ request.Matches pair config ∧
          ∀ other ∈ early, ¬request.Matches pair other) ∧
        ∀ better ∈ row, Better better pair → ∀ other ∈ authored, ¬request.Matches better other) ∧
    (request.resolve authored = none ↔
      ∀ pair ∈ row, ∀ config ∈ authored, ¬request.Matches pair config) ∧
    (∀ pair, slotKeyWidth < (SlotKey.spelling request.slotWidth request.framing request.channels
      pair.1 pair.2).utf8ByteSize → ∀ config, ¬request.Matches pair config) ∧
    ∀ slotWidth framing channels senseWidth voltage key,
      SlotKey.compose? slotWidth framing channels senseWidth voltage = some key →
      ∀ otherSlotWidth otherFraming otherChannels otherSenseWidth otherVoltage,
        SlotKey.compose? otherSlotWidth otherFraming otherChannels otherSenseWidth otherVoltage =
            some key ↔
          min slotWidth.toNat senseWidth.toNat = min otherSlotWidth.toNat otherSenseWidth.toNat ∧
          framing = otherFraming ∧ channels = otherChannels ∧ senseWidth = otherSenseWidth ∧
          voltage = otherVoltage := by
  refine ⟨ladder_ordered _ _, fun width voltage => ?_, fun config => resolve_eq_some_iff,
    resolve_eq_none_iff, fun pair long => unmatched_of_long long, ?_⟩
  · rw [mem_ladder, mem_widths]
  · intro slotWidth framing channels senseWidth voltage key composed otherSlotWidth otherFraming
      otherChannels otherSenseWidth otherVoltage
    rw [SlotKey.compose?_eq_some_iff, SlotKey.compose?_eq_some_iff.mp composed,
      SlotKey.spelling_eq_iff]

/-- A wanted width whose spelling is too long for a key does not end the search. -/
theorem narrower_chosen_past_long_key :
    let request : SlotRequest := ⟨255, .tdm, 255, 255, true⟩
    let narrow : SlotConfig := ⟨⟨"16_TDM_255_16_1", by decide⟩, []⟩
    slotKeyWidth < (SlotKey.spelling 255 .tdm 255 255 true).utf8ByteSize ∧
      request.resolve [narrow] = some narrow ∧
      ∃ pair ∈ ladder 255 true, request.Matches pair narrow ∧
        ∀ better ∈ ladder 255 true, Better better pair → ¬request.Matches better narrow := by
  intro request narrow
  have chosen : request.resolve [narrow] = some narrow := by decide +kernel
  obtain ⟨_, _, choice, _⟩ := best_authored_chosen request [narrow]
  obtain ⟨pair, tried, ⟨_, _, _, matched, _⟩, unmatched⟩ := (choice narrow).mp chosen
  refine ⟨by decide +kernel, chosen, pair, tried, matched, fun better member beats => ?_⟩
  exact unmatched better member beats narrow List.mem_cons_self

end SlotRequest

end Tuning

end AmpControl
