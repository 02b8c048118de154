import AmpControl.Proofs.Tuning.Taking
import AmpControl.Tuning.PowerScripts

/-!
# Scripts as they are stored

A command keeps all of its address as long as the book fits its byte, and all of its data as long as
the length fits its halfword. Scripts of such commands are read back.
-/

namespace AmpControl

namespace Register

variable {register : Register}

/-- An address whose book fits one byte. -/
def Addressable (register : Register) : Prop := register.raw.toNat < 0x800000

instance (register : Register) : Decidable register.Addressable := Nat.decLt _ _

theorem ofParts_of_addressable (addressable : register.Addressable) :
    ofParts register.book register.page register.offset = register := by
  obtain ⟨raw⟩ := register
  simp only [Addressable] at addressable
  refine congrArg Register.mk (UInt32.toNat_inj.mp ?_)
  simp only [book, page, offset, UInt32.toNat_add, UInt32.toNat_mul, UInt32.toNat_and,
    UInt8.toNat_toUInt32, UInt8.toNat_ofNat']
  have seven_bits (value : Nat) : value &&& (127 : UInt32).toNat = value % 128 :=
    Nat.and_two_pow_sub_one_eq_mod value 7
  rw [seven_bits]
  simp only [show (32768 : UInt32).toNat = 32768 from rfl, show (128 : UInt32).toNat = 128 from rfl]
  omega

theorem offset_lt (register : Register) : ¬0x80 ≤ register.offset := by
  rw [UInt8.not_le, UInt8.lt_iff_toNat_lt, offset, UInt8.toNat_ofNat']
  exact Nat.lt_of_le_of_lt (Nat.mod_le _ _) (Nat.mod_lt _ (by decide))

end Register

namespace Tuning

namespace Command

open Read (Takes)

theorem takes_readAddress {register : Register} (addressable : register.Addressable) :
    Takes readAddress (address register) register := by
  intro rest position base
  have parts := Register.ofParts_of_addressable addressable
  have low := register.offset_lt
  simp only [readAddress, address, List.cons_append, List.nil_append, Read.byte, bind,
    EStateM.bind, Reader.advance, List.drop_succ_cons, List.drop_zero, if_neg low, parts]
  rfl

/-- A command that is stored whole. -/
def Storable : Command → Prop
  | write register _ | update register _ _ => register.Addressable
  | burst register data => register.Addressable ∧ data.length ≤ 65535
  | pause _ => True

instance : DecidablePred Storable
  | write register _ | update register _ _ => inferInstanceAs (Decidable register.Addressable)
  | burst register data =>
      inferInstanceAs (Decidable (register.Addressable ∧ data.length ≤ 65535))
  | pause _ => inferInstanceAs (Decidable True)

theorem encode_ne_nil (command : Command) : command.encode ≠ [] := by
  cases command <;> exact List.cons_ne_nil _ _

theorem takes_read {command : Command} (storable : command.Storable) :
    Takes read command.encode command := by
  refine .after_offset fun start => ?_
  cases command with
  | write register value =>
      refine .cons (.bind (takes_readAddress storable) ?_)
      exact (Read.takes_byte value).map (write register)
  | burst register data =>
      obtain ⟨addressable, short⟩ := storable
      have kept : data.take 65535 = data := List.take_of_length_le short
      have length : (UInt16.ofNat data.length).toNat = data.length :=
        UInt16.toNat_ofNat_of_lt' (Nat.lt_succ_of_le short)
      simp only [encode, kept]
      rw [List.append_assoc]
      refine .cons (.bind (takes_readAddress addressable) ?_)
      refine .bind (Read.takes_halfword _) ?_
      exact (Read.takes_length data length.symm).map (burst register)
  | update register mask value =>
      refine .cons (.bind (takes_readAddress storable) ?_)
      exact .cons ((Read.takes_byte value).map (update register mask))
  | pause milliseconds =>
      refine .cons ?_
      exact (Read.takes_halfword milliseconds).map pause

end Command

namespace Script

/-- A script of commands that are stored whole. -/
def Storable (script : Script) : Prop := ∀ command ∈ script, command.Storable

instance (script : Script) : Decidable script.Storable :=
  inferInstanceAs (Decidable (∀ command ∈ script, command.Storable))

theorem storable_nil : Storable [] := fun _ member => absurd member List.not_mem_nil

theorem encode_ne_nil (script : Script) : script.encode ≠ [] := List.cons_ne_nil _ _

theorem decode_flatMap {script : Script} (storable : script.Storable) (base : Nat) :
    decode (script.flatMap Command.encode) base = .ok script := by
  have all := Read.toEnd_of_takes
    (fun command member => Command.takes_read (storable command member))
    (fun command _ => command.encode_ne_nil) base
  rw [decode, all]

/-- A body that is decoded wherever it begins is read behind its length. -/
theorem takes_of_decode {script : Script} {body : Bytes} (counted : body.length < UInt32.size)
    (decoded : ∀ base, decode body base = .ok script) :
    Read.Takes read (LittleEndian.count body.length ++ body) script := by
  refine .after_offset fun start => ?_
  have framed := Read.takes_lengthPrefixed _ counted
  intro rest position base
  simp only [bind, EStateM.bind, framed rest position base, decoded]
  rfl

theorem takes_read {script : Script} (storable : script.Storable)
    (small : script.encode.length < UInt32.size) : Read.Takes read script.encode script := by
  refine takes_of_decode ?_ (decode_flatMap storable)
  simp only [encode, List.length_append] at small
  omega

end Script

namespace PowerScripts

/-- Core scripts that are stored whole. -/
structure Storable (scripts : PowerScripts) : Prop where
  softReset : scripts.softReset.Storable
  powerUp : scripts.powerUp.Storable
  powerDown : scripts.powerDown.Storable
  mute : scripts.mute.Storable
  check : scripts.check.Storable

instance (scripts : PowerScripts) : Decidable scripts.Storable :=
  decidable_of_iff (scripts.softReset.Storable ∧ scripts.powerUp.Storable ∧
      scripts.powerDown.Storable ∧ scripts.mute.Storable ∧ scripts.check.Storable)
    ⟨fun ⟨softReset, powerUp, powerDown, mute, check⟩ =>
        ⟨softReset, powerUp, powerDown, mute, check⟩,
      fun ⟨softReset, powerUp, powerDown, mute, check⟩ =>
        ⟨softReset, powerUp, powerDown, mute, check⟩⟩

theorem takes_read {scripts : PowerScripts} (storable : scripts.Storable)
    (small : scripts.encode.length < UInt32.size) : Read.Takes read scripts.encode scripts := by
  simp only [encode, List.append_assoc, List.length_append] at small ⊢
  refine .bind (Script.takes_read storable.softReset (by omega)) ?_
  refine .bind (Script.takes_read storable.powerUp (by omega)) ?_
  refine .bind (Script.takes_read storable.powerDown (by omega)) ?_
  refine .bind (Script.takes_read storable.mute (by omega)) ?_
  exact (Script.takes_read storable.check (by omega)).map
    (PowerScripts.mk scripts.softReset scripts.powerUp scripts.powerDown scripts.mute)

end PowerScripts

end Tuning

end AmpControl
