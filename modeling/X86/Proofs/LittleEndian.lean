import Mathlib
import X86.Cursor

namespace X86

def littleEndianBytes : ℕ → ℕ → List UInt8
  | 0, _ => []
  | n + 1, v => UInt8.ofNat v :: littleEndianBytes n (v / 256)

lemma littleEndian_lt (bs : List UInt8) : littleEndian bs < 256 ^ bs.length := by
  induction bs with
  | nil => simp [littleEndian]
  | cons b bs ih =>
    have hb := b.toNat_lt
    simp only [littleEndian, List.length_cons, pow_succ]
    omega

lemma littleEndianBytes_littleEndian (bs : List UInt8) :
    littleEndianBytes bs.length (littleEndian bs) = bs := by
  induction bs with
  | nil => rfl
  | cons b bs ih =>
    have hb := b.toNat_lt
    have hdiv : (b.toNat + 256 * littleEndian bs) / 256 = littleEndian bs := by omega
    have hmod : UInt8.ofNat (b.toNat + 256 * littleEndian bs) = b := by
      apply UInt8.toNat_inj.mp
      simp only [UInt8.toNat_ofNat']
      omega
    simp only [littleEndian, List.length_cons, littleEndianBytes, hdiv, hmod, ih]

def signedBytes (n : ℕ) (v : ℤ) : List UInt8 := littleEndianBytes n (v % 256 ^ n).toNat

def IsSigned (n : ℕ) (v : ℤ) (bs : List UInt8) : Prop :=
  bs = signedBytes n v ∧ -(256 ^ n) ≤ 2 * v ∧ 2 * v < 256 ^ n

def IsUnsigned (n : ℕ) (v : ℕ) (bs : List UInt8) : Prop :=
  bs = littleEndianBytes n v ∧ v < 256 ^ n

lemma isUnsigned_littleEndian (bs : List UInt8) : IsUnsigned bs.length (littleEndian bs) bs :=
  ⟨(littleEndianBytes_littleEndian bs).symm, littleEndian_lt bs⟩

lemma isSigned_bmod (bs : List UInt8) :
    IsSigned bs.length (Int.bmod (littleEndian bs) (256 ^ bs.length)) bs := by
  have hlt := littleEndian_lt bs
  have hpos : 0 < 256 ^ bs.length := by positivity
  have hlow := Int.le_bmod (x := (littleEndian bs : ℤ)) hpos
  have hhigh := Int.bmod_lt (x := (littleEndian bs : ℤ)) hpos
  push_cast at hlow hhigh
  refine ⟨?_, by omega, by omega⟩
  have hmod : Int.bmod (littleEndian bs) (256 ^ bs.length) % (256 ^ bs.length : ℕ) =
      (littleEndian bs : ℤ) := by
    rw [Int.bmod_emod]
    exact_mod_cast Nat.mod_eq_of_lt hlt
  push_cast at hmod
  rw [signedBytes, hmod, Int.toNat_natCast, littleEndianBytes_littleEndian]

example : signedBytes 2 (-2) = [0xFE, 0xFF] := by decide

lemma littleEndian_take_succ (bs : List UInt8) (n : ℕ) : littleEndian (bs.take (n + 1)) =
    (bs.getD 0 0).toNat + 256 * littleEndian (bs.tail.take n) := by
  cases bs <;> simp [littleEndian]

lemma littleEndian_take_congr {bs cs : List UInt8} {n : ℕ}
    (h : ∀ i < n, bs.getD i 0 = cs.getD i 0) :
    littleEndian (bs.take n) = littleEndian (cs.take n) := by
  induction n generalizing bs cs with
  | zero => rfl
  | succ n ih =>
    have htail (i : ℕ) (hi : i < n) : bs.tail.getD i 0 = cs.tail.getD i 0 := by
      simpa using h (i + 1) (Nat.succ_lt_succ hi)
    rw [littleEndian_take_succ, littleEndian_take_succ, h 0 (Nat.succ_pos n), ih htail]

end X86
