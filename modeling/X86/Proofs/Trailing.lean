import Mathlib
import X86.Encoding.Operands
import X86.Proofs.LittleEndian
import X86.Proofs.OpcodeMaps
import X86.Proofs.ScanRuns

/-! The bytes that operands take behind the ModR/M byte and the address in it. -/

namespace X86

namespace Cursor

def next (c : Cursor) (n : ℕ) : List UInt8 := c.rest.take n

variable {c : Cursor} {n k : ℕ}

lemma next_add : c.next (n + k) = c.next n ++ (c.advance n).next k := by
  rw [next, next, next, rest_advance, List.take_add]

lemma next_one {b : UInt8} (h : c.current = .ok b) : c.next 1 = [b] := by
  obtain ⟨-, hb⟩ := current_eq_ok.mp h
  rw [next, List.take_one, List.head?_eq_getElem?, hb]
  rfl

lemma readUnsigned_one {b : UInt8} (h : c.current = .ok b) :
    c.readUnsigned 1 = (b.toNat, c.advance 1) := by
  change (littleEndian (c.next 1), _) = _
  rw [next_one h]
  simp [littleEndian]

lemma length_next (h : c.position + n ≤ c.bytes.length) : (c.next n).length = n := by
  simp [next, rest]
  omega

lemma isUnsigned_readUnsigned (h : c.position + n ≤ c.bytes.length) :
    IsUnsigned n (c.readUnsigned n).1 (c.next n) := by
  have := isUnsigned_littleEndian (c.next n)
  rwa [length_next h] at this

def IsFieldLength (n : ℕ) : Prop := n ∈ [0, 1, 2, 4, 8]

instance (n : ℕ) : Decidable (IsFieldLength n) := inferInstanceAs (Decidable (n ∈ [0, 1, 2, 4, 8]))

lemma readField_eq_readSigned (hn : IsFieldLength n) : c.readField n = c.readSigned n := by
  unfold readField
  split
  · rfl
  · obtain rfl : n = 0 := by simp [IsFieldLength] at hn; omega
    simp [readSigned, readUnsigned, littleEndian]

lemma snd_readField (hn : IsFieldLength n) : (c.readField n).2 = c.advance n := by
  rw [readField_eq_readSigned hn]
  rfl

lemma isSigned_readField (hn : IsFieldLength n) (h : c.position + n ≤ c.bytes.length) :
    IsSigned n (c.readField n).1 (c.next n) := by
  have := isSigned_bmod (c.next n)
  rw [length_next h] at this
  rw [readField_eq_readSigned hn, readSigned, Nat.one_shiftLeft, pow_mul]
  exact this

end Cursor

open Cursor

def Size.IsGeneral (z : Size) : Prop := z = .word ∨ z = .dword ∨ z = .qword

namespace OperandShape

variable {z a : Size}

lemma isFieldLength_trailingBytes (hz : z.IsGeneral) (ha : a.IsGeneral) (s : OperandShape)
    (hs : s ≠ .farAddress) : IsFieldLength (s.trailingBytes z a) := by
  have hbytes {y : Size} (hy : y.IsGeneral) : IsFieldLength y.bytes := by
    rcases hy with rfl | rfl | rfl <;> decide
  have hword : IsFieldLength (if z = .word then 2 else 4) := by
    split <;> decide
  cases s with
  | immediate w =>
    cases w with
    | byte | word | dword => simp [trailingBytes, IsFieldLength]
    | operand => exact hbytes hz
    | _ => exact hword
  | relative => exact hword
  | farAddress => exact absurd rfl hs
  | direct w => exact hbytes ha
  | _ => simp [trailingBytes, IsFieldLength]

end OperandShape

namespace Encoding

structure Sized (e : Encoding) : Prop where
  operandSize : e.operandSize.IsGeneral
  addressSize : e.addressSize.IsGeneral

/-- The bytes of an operand: its value where the bytes of its shape hold one, and otherwise
none. -/
def Writes (mode : Mode) (e : Encoding) (s : OperandShape) (o : Operand) (bs : List UInt8) : Prop :=
  let n := s.trailingBytes e.operandSize e.addressSize
  match s with
  | .immediate _ | .signedByte _ => ∃ v w, o = .immediate v w ∧ IsSigned n v bs
  | .relativeByte => ∃ d, o = .short d ∧ IsSigned n d bs
  | .relative => ∃ d, o = .near e.operandSize d ∧ IsSigned n d bs
  | .direct _ => ∃ a, o = .memory a ∧ IsSigned n a.displacement bs
  | .farAddress => ∃ (w : Size) (selector offset : ℕ) (low high : List UInt8),
    o = .far w selector offset ∧ bs = low ++ high ∧ IsUnsigned (n - 2) offset low ∧
      IsUnsigned 2 selector high
  | .vectorTail => ∃ b r, o = .register r ∧ bs = [b] ∧
    r.index = if mode.isLong then b.toNat / 16 else b.toNat / 16 % 8
  | _ => bs = []

inductive Trail (mode : Mode) (e : Encoding) : List OperandShape → List Operand → List UInt8 → Prop
  | nil : Trail mode e [] [] []
  | cons {s ss o os bs bs'} : e.Writes mode s o bs → Trail mode e ss os bs' →
    Trail mode e (s :: ss) (o :: os) (bs ++ bs')
  | lacking {s ss os bs} : s.usesVexRegister = true → e.isVex = false → Trail mode e ss os bs →
    Trail mode e (s :: ss) os bs

end Encoding

namespace Fields

variable {x : Fields} {c : Cursor} {s : OperandShape} {ss : List OperandShape}

def length (x : Fields) (s : OperandShape) : ℕ :=
  s.trailingBytes x.encoding.operandSize x.encoding.addressSize

lemma length_of_usesVexRegister (hs : s.usesVexRegister = true) : x.length s = 0 := by
  cases s with
  | vectorVex w | generalVex w => rfl
  | _ => cases hs

lemma isFieldLength (hx : x.encoding.Sized) (hs : s ≠ .farAddress) : IsFieldLength (x.length s) :=
  s.isFieldLength_trailingBytes hx.operandSize hx.addressSize hs

lemma isSome_field? (hs : s.trails = false) (hm : s.memoryOnly = true → x.memory.isSome = true)
    (hv : s.usesVexRegister = true → x.encoding.isVex = true) : (x.field? s).isSome = true := by
  cases s <;> simp_all [field?, OperandShape.trails, OperandShape.memoryOnly, memoryAt, 
    OperandShape.usesVexRegister, vexNumber?, Encoding.isVex]

lemma snd_operand (hx : x.encoding.Sized) (c : Cursor) (s : OperandShape) :
    (x.operand c s).2 = c.advance (x.length s) := by
  cases s with
  | immediate w => exact snd_readField (isFieldLength hx (by simp))
  | relative => exact snd_readField (isFieldLength hx (by simp))
  | direct w => exact snd_readField (isFieldLength hx (by simp))
  | signedByte w =>
    simp only [operand]
    exact snd_readField (n := 1) (by decide)
  | relativeByte =>
    simp only [operand]
    exact snd_readField (n := 1) (by decide)
  | farAddress =>
    simp only [operand, readUnsigned, advance_advance, length, OperandShape.trailingBytes]
    split <;> rfl
  | _ => rfl

lemma operand_of_not_trails (hs : s.trails = false) (c : Cursor) :
    x.operand c s = (x.field? s, c) := by
  cases s with
  | immediate w | signedByte w | relativeByte | relative | farAddress | direct w | vectorTail =>
    cases hs
  | _ => rfl

lemma isSome_operand (hm : s.memoryOnly = true → x.memory.isSome = true)
    (hv : s.usesVexRegister = true → x.encoding.isVex = true) (c : Cursor) :
    (x.operand c s).1.isSome = true := by
  cases hs : s.trails with
  | false =>
    rw [operand_of_not_trails hs]
    exact isSome_field? hs hm hv
  | true =>
    cases s with
    | immediate w | signedByte w | relativeByte | relative | farAddress | direct w | vectorTail =>
      rfl
    | _ => cases hs

lemma operand_of_lacking (hs : s.usesVexRegister = true) (hv : x.encoding.isVex = false)
    (c : Cursor) : x.operand c s = (none, c) := by
  cases s <;> simp_all [operand, field?, OperandShape.usesVexRegister, vexNumber?, Encoding.isVex]

lemma writes_operand (hx : x.encoding.Sized) (hc : c.position + x.length s ≤ c.bytes.length)
    {o : Operand} (ho : o ∈ (x.operand c s).1) :
    x.encoding.Writes x.mode s o (c.next (x.length s)) := by
  have hfield (hs : s ≠ .farAddress) := isSigned_readField (isFieldLength hx hs) hc
  cases s with
  | immediate w =>
    obtain rfl := Option.some.inj ho
    exact ⟨_, _, rfl, hfield (by simp)⟩
  | signedByte w =>
    simp only [operand, Option.mem_def, Option.some.injEq] at ho
    exact ⟨_, _, ho.symm, hfield (by simp)⟩
  | relativeByte =>
    simp only [operand, Option.mem_def, Option.some.injEq] at ho
    exact ⟨_, ho.symm, hfield (by simp)⟩
  | relative =>
    obtain rfl := Option.some.inj ho
    exact ⟨_, rfl, hfield (by simp)⟩
  | direct w =>
    obtain rfl := Option.some.inj ho
    exact ⟨_, rfl, hfield (by simp)⟩
  | farAddress =>
    obtain rfl := Option.some.inj ho
    -- the offset stands in front of the selector, which takes the last two bytes
    have hn : x.length .farAddress =
        (if x.encoding.operandSize = .word then Size.word else .dword).bytes + 2 := by
      simp only [length, OperandShape.trailingBytes]
      split <;> rfl
    rw [hn] at hc
    refine ⟨_, _, _, _, _, rfl, hn ▸ next_add, ?_, ?_⟩
    · change IsUnsigned (x.length .farAddress - 2) _ _
      rw [hn]
      exact isUnsigned_readUnsigned (by omega)
    · exact isUnsigned_readUnsigned (by rw [advance_position, advance_bytes]; omega)
  | vectorTail =>
    obtain ⟨b, hb⟩ := List.length_eq_one_iff.mp (length_next hc)
    have hread : (c.readUnsigned 1).1 = b.toNat := by
      change littleEndian (c.next 1) = b.toNat
      simpa [littleEndian] using congrArg littleEndian hb
    simp only [operand, Option.mem_def, Option.some.injEq, hread] at ho
    exact ⟨b, _, ho.symm, hb, rfl⟩
  | _ => rfl

lemma trail_operands (hx : x.encoding.Sized)
    (hm : ss.any OperandShape.memoryOnly = true → x.memory.isSome = true)
    (hc : c.position + (ss.map x.length).sum ≤ c.bytes.length) :
    (x.operands ss c).2 = c.advance (ss.map x.length).sum ∧
      x.encoding.Trail x.mode ss (x.operands ss c).1 (c.next (ss.map x.length).sum) := by
  induction ss generalizing c with
  | nil => exact ⟨rfl, .nil⟩
  | cons s ss ih =>
    simp only [List.map_cons, List.sum_cons, List.any_cons, Bool.or_eq_true] at hc hm ⊢
    obtain ⟨hpos, htrail⟩ := ih (c := c.advance (x.length s)) (fun h => hm (Or.inr h))
      (by rw [advance_position, advance_bytes]; omega)
    simp only [operands, snd_operand hx]
    refine ⟨hpos.trans (advance_advance ..), ?_⟩
    by_cases hs : s.usesVexRegister = true ∧ x.encoding.isVex = false
    · rw [length_of_usesVexRegister hs.1, advance_zero] at htrail
      rw [length_of_usesVexRegister hs.1, advance_zero, Nat.zero_add, operand_of_lacking hs.1 hs.2]
      exact .lacking hs.1 hs.2 htrail
    · obtain ⟨o, ho⟩ := Option.isSome_iff_exists.mp
        (isSome_operand (fun h => hm (Or.inl h)) (fun h => by simpa [h] using hs) c)
      rw [ho, next_add]
      exact .cons (writes_operand hx (by omega) ho) htrail

end Fields

end X86
