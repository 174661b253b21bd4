import Mathlib
import X86.Proofs.PrefixStability

/-! How many bytes a failure says that it has looked at, against how many there are. -/

namespace X86

open Cursor

lemma Scan.consumed_of_run_error {α : Type} {s : Scan α} {c : Cursor} {e : DecodeError}
    (hc : c.position ≤ c.bytes.length) (h : s.run c = .error e) :
    e.consumed ≤ c.bytes.length ∨ c.bytes.length < maxLength ∧ e = ⟨.invalid, maxLength⟩ := by
  cases Scan.fails_of_run h with
  | givesUp cause place _ hplace => exact Or.inl (hplace.trans (max_le hc (min_le_right _ _)))
  -- a step over several bytes meets the limit first, so that fewer than fifteen may be there
  | limit => exact (le_or_gt maxLength c.bytes.length).imp_right fun hlen => ⟨hlen, rfl⟩
  | ends => exact Or.inl le_rfl

namespace Encoding

variable {mode : Mode} {strictLock : Bool} {bytes : List UInt8} {err : DecodeError}

lemma one_le_consumed_of_scan_error (hb : bytes ≠ [])
    (h : scan mode strictLock bytes = .error err) : 1 ≤ err.consumed := by
  obtain ⟨b, t, rfl⟩ := List.exists_cons_of_ne_nil hb
  rcases Scan.run_fetch_eq_error.mp (scan_eq_error_iff.mp h) with h | ⟨b', -, hn⟩
  · simp [current, start, maxLength] at h
  · exact Scan.le_consumed_of_run (by decide) (by simp [start]) (by simp [start]) hn

/-- A failure counts no more bytes than there are, unless the fields of the instruction end past the
fifteenth byte. It then counts fifteen, and no bytes that follow make an instruction of them. -/
theorem consumed_of_scan_error (h : scan mode strictLock bytes = .error err) :
    err.consumed ≤ maxLength ∧ (bytes ≠ [] → 1 ≤ err.consumed) ∧
      (err.consumed ≤ bytes.length ∨
        bytes.length < maxLength ∧ err = ⟨.invalid, maxLength⟩ ∧
          ∀ more, scan mode strictLock (bytes ++ more) = .error err) := by
  have hrun := scan_eq_error_iff.mp h
  refine ⟨Scan.consumed_le_of_run (Nat.zero_le _) hrun,
    fun hb => one_le_consumed_of_scan_error hb h, ?_⟩
  refine (Scan.consumed_of_run_error (Nat.zero_le _) hrun).imp_right ?_
  rintro ⟨hlen, rfl⟩
  exact ⟨hlen, rfl, fun more => scan_append_of_error (by decide) h⟩

theorem consumed_of_scan_error_escape : ∃ err, scan .bits32 false [0x0F, 0x38] = .error err ∧
    1 ≤ err.consumed ∧ err.consumed ≤ maxLength := by
  have h : scan .bits32 false [0x0F, 0x38] = .error ⟨.truncated, 2⟩ := rfl
  obtain ⟨hle, hpos, -⟩ := consumed_of_scan_error h
  exact ⟨_, h, hpos (by simp), hle⟩

/-- Seven prefixes and the opcode of a move, whose address of eight bytes ends at the sixteenth. -/
theorem length_lt_consumed_of_absoluteAddress :
    scan .bits64 false [0x66, 0x66, 0x66, 0x66, 0x66, 0x66, 0x66, 0xA1] = .error ⟨.invalid, 15⟩ ∧
      [(0x66 : UInt8), 0x66, 0x66, 0x66, 0x66, 0x66, 0x66, 0xA1].length < 15 := ⟨rfl, by decide⟩

end Encoding

end X86
