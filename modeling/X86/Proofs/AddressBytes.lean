import Mathlib
import X86.Encoding.Operands
import X86.Proofs.Trailing

/-! The bytes of an address: what is stepped over is what is read. -/

namespace X86

open Cursor Scan

variable {mode : Mode} {c c' : Cursor} {b : UInt8}

namespace Sib

lemma toByte_ofByte (b : UInt8) : (ofByte b).toByte = b := by
  have hb := b.toNat_lt
  apply UInt8.toNat_inj.mp
  simp only [toByte, ofByte, Fin.val_ofNat, UInt8.toNat_ofNat']
  omega

end Sib

namespace ModRM

lemma toByte_ofByte (b : UInt8) : (ofByte b).toByte = b := by
  have hb := b.toNat_lt
  apply UInt8.toNat_inj.mp
  simp only [toByte, ofByte, Fin.val_ofNat, UInt8.toNat_ofNat']
  omega

def displacementLength (m : ModRM) (addressSize : Size) (sib : Option Sib) : ℕ :=
  match m.mod with
  | 0 =>
    if addressSize = .word then if m.rm = 6 then 2 else 0
    else if m.rm = 5 ∨ sib.any (·.base == 5) = true then 4 else 0
  | 1 => 1
  | 2 => if addressSize = .word then 2 else 4
  | 3 => 0

structure AddressBytes (m : ModRM) (addressSize : Size) (s : Option Sib) (d : ℤ) (bs : List UInt8) :
    Prop where
  sib : s.isSome = true ↔ addressSize ≠ .word ∧ m.rm = 4
  displacement : IsSigned (m.displacementLength addressSize s) d bs

variable {m : ModRM} {z : Size} {s : Sib}

lemma displacementLength_word (sib : Option Sib) :
    m.displacementLength .word sib = m.dispLength16 := by
  unfold displacementLength dispLength16
  split <;> simp [*]

lemma displacementLength_none (hz : z ≠ .word) :
    m.displacementLength z none = m.dispLength32 := by
  unfold displacementLength dispLength32
  split <;> simp [*]

lemma displacementLength_some (hz : z ≠ .word) (hm : m.rm = 4) :
    m.displacementLength z (some s) = if s.hasDisp32 m.mod then 4 else m.dispLength32 := by
  unfold displacementLength dispLength32 Sib.hasDisp32
  split <;> simp_all

lemma displacementLength_mem (m : ModRM) (z : Size) (sib : Option Sib) :
    m.displacementLength z sib ∈ [0, 1, 2, 4] := by
  unfold displacementLength
  split
  · split <;> split <;> decide
  · decide
  · split <;> decide
  · decide

lemma isFieldLength_displacementLength (m : ModRM) (z : Size) (sib : Option Sib) :
    IsFieldLength (m.displacementLength z sib) :=
  (by decide : ∀ n ∈ [0, 1, 2, 4], IsFieldLength n) _ (m.displacementLength_mem z sib)

lemma displacementLength_le (m : ModRM) (z : Size) (sib : Option Sib) :
    m.displacementLength z sib ≤ 4 :=
  (by decide : ∀ n ∈ [0, 1, 2, 4], n ≤ 4) _ (m.displacementLength_mem z sib)

lemma hasSib_eq_true : m.hasSib = true ↔ m.isRegister = false ∧ m.rm = 4 := by
  unfold hasSib addressBase isRegister
  split
  · simp_all
  · split
    · simp_all
    · split <;> simp_all

lemma isRegister_of_addressBase (h : m.addressBase = .register) : m.isRegister = true := by
  unfold addressBase at h
  split at h
  · simpa [isRegister]
  · split at h
    · cases h
    · split at h <;> cases h

lemma dispLength32_of_addressBase (h : m.addressBase = .disp32) : m.dispLength32 = 4 := by
  unfold addressBase at h
  split at h
  · cases h
  · split at h
    · cases h
    · split at h <;> rename_i hm
      · simp [dispLength32, hm.1, hm.2]
      · cases h

lemma dispLength32_of_hasDisp32 {s : Sib} (hm : m.hasSib = true) (hs : s.hasDisp32 m.mod = true) :
    m.dispLength32 = 0 := by
  simp only [Sib.hasDisp32, Bool.and_eq_true, beq_iff_eq] at hs
  simp [dispLength32, hs.1, (hasSib_eq_true.mp hm).2]

lemma run_skipAddress_of_hasSib (hz : z ≠ .word) (hm : m.hasSib = true)
    (h : (m.skipAddress z).run c = .ok ((), c')) :
    ∃ b, c.current = .ok b ∧
      c' = c.advance (1 + m.displacementLength z (some (Sib.ofByte b))) ∧
        c'.position ≤ c.bytes.length := by
  obtain ⟨-, hrm⟩ := hasSib_eq_true.mp hm
  unfold skipAddress at h
  rw [if_neg hz, if_pos hm, run_bind_eq_ok] at h
  obtain ⟨b, _, hbyte, h⟩ := h
  obtain ⟨hb, rfl⟩ := run_byte_eq_ok.mp hbyte
  refine ⟨b, hb, ?_⟩
  rw [displacementLength_some hz hrm]
  dsimp only at h
  split at h <;> rename_i hs
  · obtain ⟨_, _, hd, h⟩ := run_bind_eq_ok.mp h
    obtain ⟨-, -, rfl⟩ := run_drop_eq_ok.mp hd
    obtain ⟨-, hlen, rfl⟩ := run_drop_eq_ok.mp h
    rw [dispLength32_of_hasDisp32 hm hs] at hlen ⊢
    exact ⟨by rw [if_pos hs, advance_zero, advance_advance], hlen⟩
  · obtain ⟨-, hlen, rfl⟩ := run_drop_eq_ok.mp h
    exact ⟨by rw [if_neg hs, advance_advance], hlen⟩

lemma run_skipAddress (hs : z ≠ .word → m.hasSib = false)
    (h : (m.skipAddress z).run c = .ok ((), c')) :
    c' = c.advance (m.displacementLength z none) ∧ c'.position ≤ c.bytes.length := by
  unfold skipAddress at h
  split at h <;> rename_i hz
  · obtain ⟨-, hlen, rfl⟩ := run_drop_eq_ok.mp h
    rw [hz, displacementLength_word]
    exact ⟨rfl, hlen⟩
  · rw [if_neg (by simp [hs hz])] at h
    obtain ⟨-, hlen, rfl⟩ := run_drop_eq_ok.mp h
    rw [displacementLength_none hz]
    exact ⟨rfl, hlen⟩

lemma position_of_skipAddress_le (h : (m.skipAddress z).run c = .ok ((), c')) :
    c'.position ≤ c.position + 5 := by
  by_cases hs : z ≠ .word ∧ m.hasSib = true
  · obtain ⟨b, -, rfl, -⟩ := run_skipAddress_of_hasSib hs.1 hs.2 h
    have := m.displacementLength_le z (some (Sib.ofByte b))
    simp only [advance_position]
    omega
  · obtain ⟨rfl, -⟩ := run_skipAddress (fun hz => by simpa [hz] using hs) h
    have := m.displacementLength_le z none
    simp only [advance_position]
    omega

end ModRM

namespace Encoding

variable {e : Encoding} {m : ModRM}

lemma address_of_hasSib (hz : e.addressSize ≠ .word) (hm : m.hasSib = true)
    (hb : c.current = .ok b) :
    (e.address mode m c).2 = ((c.advance 1).readField
        (m.displacementLength e.addressSize (some (Sib.ofByte b)))).2 ∧
      (e.address mode m c).1.displacement = ((c.advance 1).readField
        (m.displacementLength e.addressSize (some (Sib.ofByte b)))).1 := by
  rw [ModRM.displacementLength_some hz (ModRM.hasSib_eq_true.mp hm).2]
  unfold address address32
  rw [if_neg hz, beq_iff_eq.mp hm]
  simp only [readUnsigned_one hb, UInt8.ofNat_toNat]
  exact ⟨rfl, rfl⟩

lemma address_of_not_hasSib (hm : m.isRegister = false)
    (hs : e.addressSize ≠ .word → m.hasSib = false) :
    (e.address mode m c).2 = (c.readField (m.displacementLength e.addressSize none)).2 ∧
      (e.address mode m c).1.displacement =
        (c.readField (m.displacementLength e.addressSize none)).1 := by
  unfold address
  split <;> rename_i hz
  · rw [hz, ModRM.displacementLength_word]
    exact ⟨rfl, rfl⟩
  · rw [ModRM.displacementLength_none hz]
    have hs := hs hz
    unfold address32
    cases hb : m.addressBase with
    | register => simp [ModRM.isRegister_of_addressBase hb] at hm
    | sib => simp [ModRM.hasSib, hb] at hs
    | base n => exact ⟨rfl, rfl⟩
    | disp32 =>
      rw [ModRM.dispLength32_of_addressBase hb]
      simp

lemma addressBytes_of_skipAddress (hm : m.isRegister = false)
    (h : (m.skipAddress e.addressSize).run c = .ok ((), c')) :
    ∃ n s bs, c' = c.advance n ∧ (e.address mode m c).2 = c' ∧
      c.next n = s.toList.map Sib.toByte ++ bs ∧
        m.AddressBytes e.addressSize s (e.address mode m c).1.displacement bs := by
  by_cases hs : e.addressSize ≠ .word ∧ m.rm = 4
  · have hsib := ModRM.hasSib_eq_true.mpr ⟨hm, hs.2⟩
    obtain ⟨b, hb, rfl, hlen⟩ := ModRM.run_skipAddress_of_hasSib hs.1 hsib h
    have hn := m.isFieldLength_displacementLength e.addressSize (some (Sib.ofByte b))
    set n := m.displacementLength e.addressSize (some (Sib.ofByte b))
    obtain ⟨hpos, hdisp⟩ := @address_of_hasSib mode c b e m hs.1 hsib hb
    refine ⟨1 + n, some (Sib.ofByte b), (c.advance 1).next n, rfl, ?_, ?_, ?_, ?_⟩
    · rw [hpos, snd_readField hn, advance_advance]
    · rw [next_add, next_one hb]
      simp [Sib.toByte_ofByte]
    · simpa using hs
    · rw [hdisp]
      exact isSigned_readField hn (by rwa [advance_position, ← Nat.add_assoc] at hlen)
  · have hs' (hz : e.addressSize ≠ .word) : m.hasSib = false := by
      rw [Bool.eq_false_iff, Ne, ModRM.hasSib_eq_true]
      exact fun h => hs ⟨hz, h.2⟩
    obtain ⟨rfl, hlen⟩ := ModRM.run_skipAddress hs' h
    have hn := m.isFieldLength_displacementLength e.addressSize none
    obtain ⟨hpos, hdisp⟩ := @address_of_not_hasSib mode c e m hm hs'
    refine ⟨_, none, c.next _, rfl, ?_, rfl, ?_, ?_⟩
    · rw [hpos, snd_readField hn]
    · simpa using hs
    · rw [hdisp]
      exact isSigned_readField hn hlen

end Encoding

end X86
