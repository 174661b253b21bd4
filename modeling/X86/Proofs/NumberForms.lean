import Mathlib
import X86.Proofs.NumberText
import X86.Proofs.StreamRuns

/-! The forms of printed numbers: their digits, their signs and the zeros in front of them. Every
form is read back as the number that it was printed from, so no two numbers are printed alike. -/

namespace X86

namespace Numeral

variable {base n : ℕ} {cs : List Char}

def decimalDigits : List Char := ['0', '1', '2', '3', '4', '5', '6', '7', '8', '9']

def lowerDigits : List Char := decimalDigits ++ ['a', 'b', 'c', 'd', 'e', 'f']

def upperDigits : List Char := decimalDigits ++ ['A', 'B', 'C', 'D', 'E', 'F']

def signed? : List Char → Option ℤ
  | '-' :: cs => (digits? 10 cs).map fun n : ℕ => -(n : ℤ)
  | '+' :: cs => (digits? 10 cs).map fun n : ℕ => (n : ℤ)
  | cs => (digits? 10 cs).map fun n : ℕ => (n : ℤ)

lemma mem_lowerDigits_of_mem_toDigits {c : Char} (hc : c ∈ Nat.toDigits 16 n) :
    c ∈ lowerDigits := by
  obtain ⟨d, hd, rfl⟩ := exists_digitChar_of_mem_toDigits (by decide) hc
  exact (by decide : ∀ d < 16, Nat.digitChar d ∈ lowerDigits) d hd

lemma mem_decimalDigits_of_mem_toDigits {c : Char} (hc : c ∈ Nat.toDigits 10 n) :
    c ∈ decimalDigits := by
  obtain ⟨d, hd, rfl⟩ := exists_digitChar_of_mem_toDigits (by decide) hc
  exact (by decide : ∀ d < 10, Nat.digitChar d ∈ decimalDigits) d hd

lemma exists_toDigits_eq_cons (hbase : 1 < base) (hle : base ≤ 16) (hn : n ≠ 0) :
    ∃ d ds, Nat.toDigits base n = d :: ds ∧ d ≠ '0' := by
  induction n using Nat.strong_induction_on with
  | h n ih =>
    rw [Nat.toDigits_eq_if hbase]
    split
    · rename_i hlt
      have hne : ∀ d < 16, d ≠ 0 → Nat.digitChar d ≠ '0' := by decide
      exact ⟨_, [], rfl, hne n (by omega) hn⟩
    · rename_i hge
      have hdiv : n / base ≠ 0 := (Nat.div_pos (Nat.not_lt.mp hge) (by omega)).ne'
      obtain ⟨d, ds, hds, hd⟩ := ih _ (Nat.div_lt_self (by omega) hbase) hdiv
      exact ⟨d, ds ++ [_], by rw [hds, List.cons_append], hd⟩

lemma length_toDigits (hbase : 1 < base) (n : ℕ) :
    (Nat.toDigits base n).length = Nat.log base n + 1 := by
  have hiff (k : ℕ) : (Nat.toDigits base n).length ≤ k + 1 ↔ Nat.log base n ≤ k := by
    rw [Nat.length_toDigits_le_iff hbase (Nat.succ_pos k), ← Nat.lt_succ_iff]
    rcases Nat.eq_zero_or_pos n with rfl | hn
    · simp [Nat.pow_pos (Nat.zero_lt_of_lt hbase)]
    · exact (Nat.log_lt_iff_lt_pow hbase hn.ne').symm
  have hpos : 0 < (Nat.toDigits base n).length := List.length_pos_iff.mpr Nat.toDigits_ne_nil
  refine Nat.le_antisymm ((hiff _).mpr le_rfl) ?_
  have := (hiff ((Nat.toDigits base n).length - 1)).mp (by omega)
  omega

lemma map_toUpper_lowerDigits : lowerDigits.map Char.toUpper = upperDigits := rfl

lemma digits?_map_toUpper (h : ∀ c ∈ cs, c ∈ lowerDigits) :
    digits? 16 (cs.map Char.toUpper) = digits? 16 cs := by
  have hdigit : ∀ c ∈ lowerDigits, digit? c.toUpper = digit? c := List.map_inj_left.mp rfl
  have hread (high : ℕ) : readDigits? 16 high (cs.map Char.toUpper) = readDigits? 16 high cs := by
    induction cs generalizing high with
    | nil => rfl
    | cons c cs ih =>
      obtain ⟨hc, hcs⟩ := List.forall_mem_cons.mp h
      rw [List.map_cons, readDigits?, readDigits?, hdigit c hc]
      simp only [ih hcs]
  rw [digits?, digits?, List.isEmpty_map, hread]

end Numeral

namespace Number

open Numeral

variable {t : String} {n width : ℕ}

def HexForm (n : ℕ) (t : String) : Prop :=
  if n < 10 then ∃ c ∈ decimalDigits, t.toList = [c]
  else ∃ d ds, t.toList = '0' :: 'x' :: d :: ds ∧ d ≠ '0' ∧ ∀ c ∈ d :: ds, c ∈ lowerDigits

structure PaddedForm (width n : ℕ) (t : String) : Prop where
  length : t.length = max width (Nat.log 16 n + 1)
  digits : ∀ c ∈ t.toList, c ∈ upperDigits

def DecimalForm (forceSign : Bool) (z : ℤ) (t : String) : Prop :=
  ∃ ds, t.toList = (if z < 0 then ['-'] else if forceSign then ['+'] else []) ++ ds ∧ ds ≠ [] ∧
    ∀ c ∈ ds, c ∈ decimalDigits

/-- The magnitude of a word, in 64 bits. The word is widened first, so that the magnitude of the
least number is there. -/
def magnitude {w : ℕ} (v : BitVec w) : BitVec 64 := (v.signExtend 128).abs.setWidth 64

lemma toNat_magnitude {w : ℕ} (hw : w ≤ 64) (v : BitVec w) :
    (magnitude v).toNat = v.toInt.natAbs := by
  have hwide : (v.signExtend 128).abs.toNat = v.toInt.natAbs := by
    rw [BitVec.toNat_abs, ← BitVec.toInt_signExtend_of_le (x := v) (by omega : w ≤ 128),
      BitVec.toInt_eq_msb_cond]
    have := (v.signExtend 128).isLt
    split <;> omega
  have hbound : v.toInt.natAbs < 2 ^ 64 := by
    have hpow : (2 : ℤ) ^ (w - 1) ≤ 2 ^ 63 := pow_le_pow_right₀ (by decide) (by omega)
    have hle := BitVec.le_toInt v
    have hlt := BitVec.toInt_lt (x := v)
    omega
  rw [magnitude, BitVec.toNat_setWidth, hwide, Nat.mod_eq_of_lt hbound]

lemma hexForm_hex (n : ℕ) : HexForm n (hex n) := by
  rw [HexForm, hex]
  split
  · rename_i hn
    refine ⟨Nat.digitChar n, (by decide : ∀ d < 10, Nat.digitChar d ∈ decimalDigits) n hn, ?_⟩
    rw [toList_hexDigits, Nat.toDigits_of_lt_base (by omega)]
  · have hn : n ≠ 0 := by omega
    obtain ⟨d, ds, hds, hd⟩ := exists_toDigits_eq_cons (by decide : 1 < 16) le_rfl hn
    refine ⟨d, ds, ?_, hd, fun c hc => mem_lowerDigits_of_mem_toDigits (hds ▸ hc)⟩
    rw [String.toList_append, toList_hexDigits, hds]
    rfl

lemma toList_upperHex (width n : ℕ) : (upperHex width n).toList =
    List.replicate (width - (Nat.log 16 n + 1)) '0' ++ (Nat.toDigits 16 n).map Char.toUpper := by
  rw [upperHex, toList_padded, String.toUpper, ← String.length_toList, String.toList_map,
    toList_hexDigits, List.length_map, length_toDigits (by decide)]

lemma paddedForm_upperHex (width n : ℕ) : PaddedForm width n (upperHex width n) := by
  constructor
  · rw [← String.length_toList, toList_upperHex, List.length_append, List.length_replicate,
      List.length_map, length_toDigits (by decide)]
    omega
  · rw [toList_upperHex]
    intro c hc
    rcases List.mem_append.mp hc with hc | hc
    · rw [List.eq_of_mem_replicate hc]
      decide
    · obtain ⟨d, hd, rfl⟩ := List.mem_map.mp hc
      rw [← map_toUpper_lowerDigits]
      exact List.mem_map_of_mem (mem_lowerDigits_of_mem_toDigits hd)

lemma digits?_upperHex (width n : ℕ) : digits? 16 (upperHex width n).toList = some n := by
  apply digits?_padded
  rw [String.toUpper, String.toList_map, digits?_map_toUpper, digits?_hexDigits]
  intro c hc
  rw [toList_hexDigits] at hc
  exact mem_lowerDigits_of_mem_toDigits hc

lemma toList_decimal (forceSign : Bool) (z : ℤ) : (decimal forceSign z).toList =
    (if z < 0 then ['-'] else if forceSign then ['+'] else []) ++ Nat.toDigits 10 z.natAbs := by
  have hrepr : (toString z).toList = (if z < 0 then ['-'] else []) ++ Nat.toDigits 10 z.natAbs := by
    cases z with
    | ofNat n =>
      rw [if_neg (show ¬ Int.ofNat n < 0 from (Int.natCast_nonneg n).not_gt)]
      exact Nat.toList_repr
    | negSucc n =>
      rw [if_pos (Int.negSucc_lt_zero n)]
      change ("-" ++ (n + 1).repr).toList = _
      rw [String.toList_append, Nat.toList_repr]
      rfl
  rw [decimal]
  rcases lt_or_ge z 0 with hz | hz
  · rw [if_neg (by simp [hz.not_ge]), hrepr, if_pos hz, if_pos hz]
  · cases forceSign with
    | true =>
      rw [if_pos (by simpa using hz), String.toList_append, hrepr, if_neg hz.not_gt,
        if_neg hz.not_gt]
      rfl
    | false => rw [if_neg (by simp), hrepr, if_neg hz.not_gt, if_neg hz.not_gt]; rfl

lemma decimalForm_decimal (forceSign : Bool) (z : ℤ) :
    DecimalForm forceSign z (decimal forceSign z) :=
  ⟨_, toList_decimal forceSign z, Nat.toDigits_ne_nil, fun _ => mem_decimalDigits_of_mem_toDigits⟩

lemma signed?_decimal (forceSign : Bool) (z : ℤ) :
    signed? (decimal forceSign z).toList = some z := by
  have hdigits : digits? 10 (Nat.toDigits 10 z.natAbs) = some z.natAbs := by
    rw [digits?_of_ne_nil Nat.toDigits_ne_nil]
    exact readDigits?_toDigits (by decide) (by decide) _
  rw [toList_decimal]
  rcases lt_or_ge z 0 with hz | hz
  · rw [if_pos hz]
    change (digits? 10 (Nat.toDigits 10 z.natAbs)).map _ = _
    rw [hdigits, Option.map_some, Option.some.injEq]
    omega
  · rw [if_neg hz.not_gt]
    cases forceSign with
    | true =>
      change (digits? 10 (Nat.toDigits 10 z.natAbs)).map _ = _
      rw [hdigits, Option.map_some, Option.some.injEq]
      omega
    | false =>
      -- digits do not look like a sign
      change signed? (Nat.toDigits 10 z.natAbs) = _
      rw [signed?.eq_def]
      split
      · rename_i cs hcs
        rw [hcs] at hdigits
        cases hdigits
      · rename_i cs hcs
        rw [hcs] at hdigits
        cases hdigits
      · rw [hdigits, Option.map_some, Option.some.injEq]
        omega

lemma displacement_eq_magnitude {w : ℕ} (hw : w ≤ 64) (v : BitVec w) : displacement v.toInt =
    (if v.toInt < 0 then "-" else "") ++ hex (magnitude v).toNat := by
  rw [displacement, toNat_magnitude hw]
  split
  · rfl
  · exact String.empty_append.symm

lemma offset_eq_magnitude {w : ℕ} (hw : w ≤ 64) {v : BitVec w} (hv : v ≠ 0) : offset v.toInt =
    (if v.toInt < 0 then "-" else "+") ++ hex (magnitude v).toNat := by
  have hzero : v.toInt ≠ 0 := fun h => hv (BitVec.toInt_inj.mp (h.trans BitVec.toInt_zero.symm))
  rw [offset, if_neg hzero, toNat_magnitude hw]
  split <;> rfl

structure Printed {w : ℕ} (v : BitVec w) : Prop where
  hexForm : HexForm v.toNat (hex v.toNat)
  readHex : number? (hex v.toNat).toList = some v.toNat
  displacementForm : displacement v.toInt =
    (if v.toInt < 0 then "-" else "") ++ hex (magnitude v).toNat
  readDisplacement : integer? (displacement v.toInt).toList = some v.toInt
  offsetZero : v = 0 → offset v.toInt = ""
  offsetForm : v ≠ 0 → offset v.toInt =
    (if v.toInt < 0 then "-" else "+") ++ hex (magnitude v).toNat
  readOffset : offset? (offset v.toInt).toList = some v.toInt
  writeHex : ∀ (s : Stream) (width : ℕ), ∃ t : String,
    (s.writeHex v.toNat width).content = s.content ++ t.toUTF8.toList ∧
      PaddedForm width v.toNat t ∧ digits? 16 t.toList = some v.toNat
  writeInt : ∀ (s : Stream) (forceSign : Bool), ∃ t : String,
    (s.writeInt v.toInt forceSign).content = s.content ++ t.toUTF8.toList ∧
      DecimalForm forceSign v.toInt t ∧ signed? t.toList = some v.toInt

structure Distinguishes (w : ℕ) : Prop where
  hex : Function.Injective fun v : BitVec w => hex v.toNat
  displacement : Function.Injective fun v : BitVec w => displacement v.toInt
  offset : Function.Injective fun v : BitVec w => offset v.toInt
  writeHex : ∀ (s : Stream) (width : ℕ),
    Function.Injective fun v : BitVec w => (s.writeHex v.toNat width).content
  writeInt : ∀ (s : Stream) (forceSign : Bool),
    Function.Injective fun v : BitVec w => (s.writeInt v.toInt forceSign).content

lemma printed {w : ℕ} (hw : w ≤ 64) (v : BitVec w) : Printed v where
  hexForm := hexForm_hex _
  readHex := number?_hex _
  displacementForm := displacement_eq_magnitude hw v
  readDisplacement := integer?_displacement _
  offsetZero := by
    rintro rfl
    exact congrArg offset BitVec.toInt_zero
  offsetForm := offset_eq_magnitude hw
  readOffset := offset?_offset _
  writeHex s width :=
    ⟨_, s.content_write _, paddedForm_upperHex width v.toNat, digits?_upperHex width v.toNat⟩
  writeInt s forceSign :=
    ⟨_, s.content_write _, decimalForm_decimal forceSign v.toInt,
      signed?_decimal forceSign v.toInt⟩

lemma eq_of_utf8_eq {t u : String} (h : t.toUTF8.toList = u.toUTF8.toList) : t = u := by
  rw [String.toUTF8_eq_toByteArray, String.toUTF8_eq_toByteArray, toList_eq_toList_data,
    toList_eq_toList_data] at h
  exact String.toByteArray_inj.mp (ByteArray.ext (Array.toList_inj.mp h))

lemma injective_of_read {w : ℕ} {α β : Type} {print : BitVec w → α} {value : BitVec w → β}
    (read : α → Option β) (hread : ∀ v, read (print v) = some (value v))
    (hvalue : Function.Injective value) : Function.Injective print := by
  intro v u h
  have hvu := hread v
  rw [h, hread u] at hvu
  exact hvalue (Option.some.inj hvu).symm

lemma injective_content {w : ℕ} {print : BitVec w → String} (hprint : Function.Injective print)
    (s : Stream) : Function.Injective fun v => (s.writeText (print v)).content := by
  intro v u h
  simp only [Stream.writeText, Stream.content_write] at h
  exact hprint (eq_of_utf8_eq (List.append_cancel_left h))

lemma toInt_injective {w : ℕ} : Function.Injective (BitVec.toInt : BitVec w → ℤ) :=
  fun _ _ => BitVec.toInt_inj.mp

lemma distinguishes (w : ℕ) : Distinguishes w where
  hex := injective_of_read (fun t : String => number? t.toList)
    (fun v => number?_hex v.toNat) BitVec.toNat_injective
  displacement := injective_of_read (fun t : String => integer? t.toList)
    (fun v => integer?_displacement v.toInt) toInt_injective
  offset := injective_of_read (fun t : String => offset? t.toList)
    (fun v => offset?_offset v.toInt) toInt_injective
  writeHex s width := injective_content (injective_of_read (fun t : String => digits? 16 t.toList)
    (fun v => digits?_upperHex width v.toNat) BitVec.toNat_injective) s
  writeInt s forceSign := injective_content (injective_of_read
    (fun t : String => signed? t.toList) (fun v => signed?_decimal forceSign v.toInt)
    toInt_injective) s

/-- The numbers of every width up to that of a register are printed in their forms and read back
from them, the least number of each width too, and different numbers are printed differently. -/
theorem printed_and_distinguishes {w : ℕ} (hw : w ≤ 64) :
    (∀ v : BitVec w, Printed v) ∧ Distinguishes w :=
  ⟨printed hw, distinguishes w⟩

theorem printed_and_distinguishes_sixtyFour : 64 ≤ 64 ∧
    (Printed (BitVec.intMin 64) ∧
      offset (BitVec.intMin 64).toInt = "-0x8000000000000000") ∧ Distinguishes 64 :=
  ⟨le_rfl, ⟨(printed_and_distinguishes le_rfl).1 _, by decide⟩,
    (printed_and_distinguishes le_rfl).2⟩

end Number

end X86
