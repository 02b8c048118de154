import AmpControl.Tuning.Reader

/-!
# Reading what was written

A read takes a row of bytes if it returns the value that they stand for and stops right behind them,
wherever the row begins and whatever follows it. Reads that take rows can be put one after the
other, and the rows then stand one after the other as well.
-/

namespace AmpControl.Tuning.Read

variable {α β : Type} {read : Read α} {next : α → Read β} {value : α} {result : β}
  {early late encoded : Bytes}

/-- A read takes a row of bytes and returns a value. -/
def Takes (read : Read α) (encoded : Bytes) (value : α) : Prop :=
  ∀ rest position base,
    read ⟨encoded ++ rest, position, base⟩ = .ok value ⟨rest, position + encoded.length, base⟩

namespace Takes

theorem pure (value : α) : Takes (Pure.pure value) [] value := fun _ _ _ => rfl

/-- A read of two steps takes what its steps take. -/
theorem bind (first : Takes read early value) (second : Takes (next value) late result) :
    Takes (read >>= next) (early ++ late) result := by
  intro rest position base
  have begins := first (late ++ rest) position base
  have ends := second rest (position + early.length) base
  rw [← List.append_assoc] at begins
  simp only [Bind.bind, EStateM.bind, begins, ends, List.length_append, Nat.add_assoc]

/-- A read whose last step makes a value of what was read takes what the other steps take. -/
theorem map (takes : Takes read encoded value) (made : α → β) :
    Takes (read >>= fun value => Pure.pure (made value)) encoded (made value) := by
  have both : Takes (read >>= fun value => Pure.pure (made value)) (encoded ++ []) (made value) :=
    takes.bind (.pure (made value))
  rwa [List.append_nil] at both

/-- Asking for the offset takes nothing. -/
theorem after_offset {next : Nat → Read β} (takes : ∀ start, Takes (next start) encoded result) :
    Takes (offset >>= next) encoded result :=
  fun rest position base => takes (Reader.offset ⟨encoded ++ rest, position, base⟩) rest position
    base

end Takes

/-! ## Bytes and integers -/

theorem takes_byte (value : UInt8) : Takes byte [value] value := fun _ _ _ => rfl

/-- A read that begins with a byte takes it and what it takes after it. -/
theorem Takes.cons {next : UInt8 → Read β} {first : UInt8}
    (takes : Takes (next first) late result) :
    Takes (byte >>= next) (first :: late) result := (takes_byte first).bind takes

theorem takes_halfword (value : UInt16) : Takes halfword (LittleEndian.halfword value) value := by
  intro rest position base
  simp only [halfword, LittleEndian.halfword, List.cons_append, List.nil_append,
    LittleEndian.toHalfword_halfword]
  rfl

theorem takes_word (value : UInt32) : Takes word (LittleEndian.word value) value := by
  intro rest position base
  simp only [word, LittleEndian.word, List.cons_append, List.nil_append, LittleEndian.toWord_word]
  rfl

theorem takes_signedWord (value : Int32) :
    Takes signedWord (LittleEndian.word value.toUInt32) value :=
  (takes_word value.toUInt32).map UInt32.toInt32

/-- A flag is stored as one or zero, and any byte but zero stands for a set flag. -/
theorem stored_flag (flag : Bool) : ((if flag then 1 else 0 : UInt8) != 0) = flag := by
  cases flag <;> rfl

theorem takes_flag (flag : Bool) (made : Bool → α) :
    Takes (byte >>= fun stored => Pure.pure (made (stored != 0))) [if flag then 1 else 0]
      (made flag) := by
  have taken := (takes_byte (if flag then 1 else 0)).map fun stored => made (stored != 0)
  rwa [stored_flag] at taken

theorem takes_bytes (taken : Bytes) : Takes (bytes taken.length) taken taken := by
  intro rest position base
  simp [bytes, Reader.advance]

theorem takes_length {amount : Nat} (taken : Bytes) (length : taken.length = amount) :
    Takes (bytes amount) taken taken := length ▸ takes_bytes taken

theorem takes_skip {amount : Nat} (passed : Bytes) (length : passed.length = amount) :
    Takes (skip amount) passed () := (takes_length passed length).map fun _ => ()

/-- The length in front of the bytes is the number of them, unless there are too many to count. -/
theorem takes_lengthPrefixed (body : Bytes) (counted : body.length < UInt32.size) :
    Takes lengthPrefixed (LittleEndian.count body.length ++ body) body := by
  intro rest position base
  have length : (UInt32.ofNatClamp body.length).toNat = body.length :=
    UInt32.toNat_ofNatClamp_of_lt counted
  have prefixed := takes_word (.ofNatClamp body.length) (body ++ rest) position base
  have follows := takes_length body length.symm rest (position + 4) base
  rw [List.append_assoc]
  simp only [lengthPrefixed, LittleEndian.count, prefixed, LittleEndian.length_word, follows,
    List.length_append, Nat.add_assoc]

/-! ## Rows of records -/

variable {record : Read α} {encode : α → Bytes} {items : List α}

/-- Each record takes its own row, whatever value is made of it. -/
theorem takes_records_map {encode : β → Bytes} {made : β → α} {items : List β}
    (takes : ∀ item ∈ items, Takes record (encode item) (made item)) :
    Takes (records record items.length) (items.flatMap encode) (items.map made) := by
  induction items with
  | nil => exact .pure []
  | cons first others ih =>
      refine .bind (takes first List.mem_cons_self) ?_
      exact (ih fun item member => takes item (List.mem_cons_of_mem _ member)).map (made first :: ·)

theorem takes_records (takes : ∀ item ∈ items, Takes record (encode item) item) :
    Takes (records record items.length) (items.flatMap encode) items := by
  have made := takes_records_map takes
  rwa [List.map_id''] at made
  exact fun _ => rfl

/-- Records that take a byte or more are no more than the bytes. -/
theorem length_le_flatMap (nonempty : ∀ item ∈ items, encode item ≠ []) :
    items.length ≤ (items.flatMap encode).length := by
  induction items with
  | nil => exact Nat.le_refl 0
  | cons first others ih =>
      have some_byte := List.length_pos_iff.mpr (nonempty first List.mem_cons_self)
      have more := ih fun item member => nonempty item (List.mem_cons_of_mem _ member)
      rw [List.flatMap_cons, List.length_append, List.length_cons]
      omega

/-- Records that are no more than their bytes are read behind the number of them. -/
theorem takes_counted_of_records {rows : Bytes}
    (takes : Takes (records record items.length) rows items)
    (some_byte : items.length ≤ rows.length) (few : items.length < UInt32.size) :
    Takes (counted record) (LittleEndian.count items.length ++ rows) items := by
  intro rest position base
  have length : (UInt32.ofNatClamp items.length).toNat = items.length :=
    UInt32.toNat_ofNatClamp_of_lt few
  have amount := takes_word (.ofNatClamp items.length) (rows ++ rest) position base
  have listed := takes rest (position + 4) base
  have enough : items.length ≤ (rows ++ rest).length := by
    rw [List.length_append]
    exact Nat.le_trans some_byte (Nat.le_add_right _ _)
  rw [List.append_assoc]
  simp only [counted, count, Bind.bind, EStateM.bind, LittleEndian.count, amount, length,
    Reader.remaining, LittleEndian.length_word]
  rw [if_pos enough]
  simp only [listed, List.length_append, LittleEndian.length_word, Nat.add_assoc]

/-- The number in front of the records is the number of them, unless there are too many to count. -/
theorem takes_counted (takes : ∀ item ∈ items, Takes record (encode item) item)
    (nonempty : ∀ item ∈ items, encode item ≠ []) (few : items.length < UInt32.size) :
    Takes (counted record) (LittleEndian.count items.length ++ items.flatMap encode) items :=
  takes_counted_of_records (takes_records takes) (length_le_flatMap nonempty) few

theorem length_le_of_mem {item : α} (member : item ∈ items) :
    (encode item).length ≤ (items.flatMap encode).length := by
  induction member with
  | head others => exact List.length_append ▸ Nat.le_add_right _ _
  | tail first _ ih =>
      rw [List.flatMap_cons, List.length_append]
      exact Nat.le_trans ih (Nat.le_add_left _ _)

/-- Counted records are read back if the bytes that they take together can be counted. -/
theorem takes_counted_of_small (encode : α → Bytes)
    (takes : ∀ item ∈ items, (encode item).length < UInt32.size → Takes record (encode item) item)
    (nonempty : ∀ item ∈ items, encode item ≠ [])
    (small : (items.flatMap encode).length < UInt32.size) :
    Takes (counted record) (LittleEndian.count items.length ++ items.flatMap encode) items := by
  have few := length_le_flatMap nonempty
  refine takes_counted (fun item member => takes item member ?_) nonempty (by omega)
  exact Nat.lt_of_le_of_lt (length_le_of_mem member) small

theorem upTo_of_takes (takes : ∀ item ∈ items, Takes record (encode item) item)
    (nonempty : ∀ item ∈ items, encode item ≠ []) {bound : Nat} (enough : items.length ≤ bound)
    (position base : Nat) :
    upTo record bound ⟨items.flatMap encode, position, base⟩ =
      .ok items ⟨[], position + (items.flatMap encode).length, base⟩ := by
  induction items generalizing bound position with
  | nil => cases bound <;> rfl
  | cons first others ih =>
      cases bound with
      | zero => exact absurd enough (Nat.not_succ_le_zero _)
      | succ bound =>
          have begins := takes first List.mem_cons_self (others.flatMap encode) position base
          have follows := ih (fun item member => takes item (List.mem_cons_of_mem _ member))
            (fun item member => nonempty item (List.mem_cons_of_mem _ member))
            (Nat.le_of_succ_le_succ enough) (position + (encode first).length)
          have some_byte : (encode first ++ others.flatMap encode).isEmpty = false := by
            simp [nonempty first List.mem_cons_self]
          rw [List.flatMap_cons]
          simp only [upTo, some_byte, Bool.false_eq_true, if_false, Bind.bind, EStateM.bind, begins,
            follows, List.length_append, Nat.add_assoc]
          rfl

/-- Records that fill the bytes to the end are all read. -/
theorem toEnd_of_takes (takes : ∀ item ∈ items, Takes record (encode item) item)
    (nonempty : ∀ item ∈ items, encode item ≠ []) (base : Nat) :
    toEnd record (Reader.start (items.flatMap encode) base) =
      .ok items ⟨[], (items.flatMap encode).length, base⟩ := by
  have all := upTo_of_takes takes nonempty (length_le_flatMap nonempty) 0 base
  rwa [Nat.zero_add] at all

/-! ## Reads of all that is left -/

/-- A read returns a value from a row of bytes that ends the string, wherever the row begins. -/
def Yields (read : Read α) (data : Bytes) (value : α) : Prop :=
  ∀ position base, ∃ after, read ⟨data, position, base⟩ = .ok value after

theorem Takes.yields (takes : Takes read early value) (yields : Yields (next value) late result) :
    Yields (read >>= next) (early ++ late) result := by
  intro position base
  obtain ⟨after, ends⟩ := yields (position + early.length) base
  exact ⟨after, by simp only [Bind.bind, EStateM.bind, takes late position base, ends]⟩

theorem yields_remainder (data : Bytes) (value : α) :
    Yields (remainder >>= fun _ => Pure.pure value) data value := fun _ _ => ⟨_, rfl⟩

end AmpControl.Tuning.Read
