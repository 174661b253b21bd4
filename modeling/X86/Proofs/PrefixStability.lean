import Mathlib
import X86.Proofs.Layout
import X86.Proofs.ScanExtension
import X86.Proofs.Scanner

/-! What more bytes behind an instruction, or behind a part of one, can change. -/

namespace X86

open Cursor Scan

namespace Encoding

variable {mode : Mode} {strictLock : Bool} {bytes more : List UInt8} {e : Encoding}
  {err : DecodeError}

lemma length_le_of_scan (h : scan mode strictLock bytes = .ok e) :
    e.length ≤ min maxLength bytes.length :=
  position_of_run_le (c := .start bytes) (Nat.zero_le _) (scan_eq_ok_iff.mp h)

lemma scan_append_of_ok (h : scan mode strictLock bytes = .ok e) :
    scan mode strictLock (bytes ++ more) = .ok e := by
  have hlen := length_le_of_scan h
  have hrest : (start bytes).rest <+: (start (bytes ++ more)).rest := by simp
  have hrun := run_transport steady_program (Nat.zero_le _) hrest
    (by simp [start]; omega) (scan_eq_ok_iff.mp h)
  simpa [scan_eq_ok_iff, start, advance] using hrun

lemma scan_append_of_error (he : err.cause ≠ .truncated)
    (h : scan mode strictLock bytes = .error err) :
    scan mode strictLock (bytes ++ more) = .error err :=
  scan_eq_error_iff.mpr (run_extend_of_error he (scan_eq_error_iff.mp h))

lemma opcodeOffset_le_length (h : scan mode strictLock bytes = .ok e) :
    e.opcodeOffset ≤ e.length := by
  obtain ⟨h, c, s, c', -, hs, rfl⟩ := scan_eq_ok.mp h
  exact (Nat.sub_le _ _).trans (position_le_of_run hs)

lemma extract_append (h : scan mode strictLock bytes = .ok e) (more : List UInt8) :
    e.extract mode (bytes ++ more) = e.extract mode bytes := by
  have hlen := length_le_of_scan h
  have hoff := opcodeOffset_le_length h
  have hagree : Agree (e.length - e.opcodeOffset) ⟨bytes, e.opcodeOffset⟩
      ⟨bytes ++ more, e.opcodeOffset⟩ := by
    intro i hi
    simp only [byteAt]
    rw [List.getD_append]
    omega
  exact extract_moved e hagree (by rw [position_finish_of_scan h]; omega)

lemma consumed_of_scan_truncated {n : ℕ} (h : scan mode strictLock bytes = .error ⟨.truncated, n⟩) :
    n = bytes.length ∧ bytes.length < maxLength :=
  consumed_of_truncated steady_program rfl (scan_eq_error_iff.mp h)

lemma scan_append_of_not_truncated
    (h : ∀ n, scan mode strictLock bytes ≠ .error ⟨.truncated, n⟩) (more : List UInt8) :
    scan mode strictLock (bytes ++ more) = scan mode strictLock bytes := by
  cases hs : scan mode strictLock bytes with
  | ok e => exact scan_append_of_ok hs
  | error err =>
    refine scan_append_of_error (fun he => h err.consumed ?_) hs
    rw [hs, ← he]

lemma passes_of_scan_truncated {n : ℕ}
    (h : scan mode strictLock bytes = .error ⟨.truncated, n⟩) (more : List UInt8) :
    Passes bytes.length ((program mode strictLock).run (.start (bytes ++ more))) :=
  passes_extend_of_truncated steady_program rfl (scan_eq_error_iff.mp h) more

lemma scan_take (bytes : List UInt8) :
    scan mode strictLock (bytes.take maxLength) = scan mode strictLock bytes := by
  rcases le_total bytes.length maxLength with hlen | hlen
  · rw [List.take_of_length_le hlen]
  · have h : ∀ n, scan mode strictLock (bytes.take maxLength) ≠ .error ⟨.truncated, n⟩ := by
      intro n hn
      have := (consumed_of_scan_truncated hn).2
      rw [List.length_take_of_le hlen] at this
      exact lt_irrefl _ this
    rw [← scan_append_of_not_truncated h (bytes.drop maxLength), List.take_append_drop]

lemma decode_take (bytes : List UInt8) :
    Instruction.decode mode strictLock (bytes.take maxLength) =
      Instruction.decode mode strictLock bytes := by
  unfold Instruction.decode
  cases h : scan mode strictLock (bytes.take maxLength) with
  | error err => rw [← scan_take, h]; rfl
  | ok e =>
    have := extract_append h (bytes.drop maxLength)
    rw [List.take_append_drop] at this
    rw [← scan_take, h]
    exact congrArg Except.ok this.symm

def IsInstruction (mode : Mode) (strictLock : Bool) (bytes : List UInt8) : Prop :=
  ∃ e, scan mode strictLock bytes = .ok e ∧ e.length = bytes.length

lemma eq_nil_of_isInstruction (h : IsInstruction mode strictLock bytes)
    (h' : IsInstruction mode strictLock (bytes ++ more)) : more = [] := by
  obtain ⟨e, he, hlen⟩ := h
  obtain ⟨e', he', hlen'⟩ := h'
  obtain rfl : e = e' := by simpa [scan_append_of_ok he] using he'
  rw [hlen, List.length_append] at hlen'
  exact List.length_eq_zero_iff.mp (by omega)

theorem scan_append (mode : Mode) (strictLock : Bool) (bytes more : List UInt8) :
    ((∀ n, scan mode strictLock bytes ≠ .error ⟨.truncated, n⟩) →
      scan mode strictLock (bytes ++ more) = scan mode strictLock bytes ∧
        ∀ e, scan mode strictLock bytes = .ok e →
          e.extract mode (bytes ++ more) = e.extract mode bytes) ∧
    (∀ n, scan mode strictLock bytes = .error ⟨.truncated, n⟩ →
      n = bytes.length ∧ bytes.length < maxLength ∧
        (∀ e, scan mode strictLock (bytes ++ more) = .ok e → bytes.length < e.length) ∧
          ∀ err, scan mode strictLock (bytes ++ more) = .error err →
            bytes.length ≤ err.consumed) ∧
    (∀ e, scan mode strictLock bytes = .ok e →
      1 ≤ e.length ∧ e.length ≤ min maxLength bytes.length ∧
        (e.extract mode bytes).length = e.length) ∧
    (IsInstruction mode strictLock bytes → IsInstruction mode strictLock (bytes ++ more) →
      more = []) ∧
    scan mode strictLock (bytes.take maxLength) = scan mode strictLock bytes ∧
      Instruction.decode mode strictLock (bytes.take maxLength) =
        Instruction.decode mode strictLock bytes := by
  refine ⟨fun h => ⟨scan_append_of_not_truncated h more, fun e he => extract_append he more⟩,
    fun n h => ?_, fun e h => ⟨length_pos h, length_le_of_scan h, rfl⟩, eq_nil_of_isInstruction,
    scan_take bytes, decode_take bytes⟩
  obtain ⟨hn, hlen⟩ := consumed_of_scan_truncated h
  have hpass := passes_of_scan_truncated h more
  refine ⟨hn, hlen, fun e he => ?_, fun err he => ?_⟩
  · rwa [scan_eq_ok_iff.mp he] at hpass
  · rwa [scan_eq_error_iff.mp he] at hpass

end Encoding

end X86
