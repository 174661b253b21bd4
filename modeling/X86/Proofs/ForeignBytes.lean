import Mathlib
import X86.Proofs.WellFormed

/-! Extraction from bytes that are not those that were scanned, and in another mode. -/

namespace X86

open Cursor

variable {mode : Mode} {strictLock : Bool} {bytes : List UInt8} {e : Encoding}

lemma Cursor.byteAt_append_zeros (bytes : List UInt8) (position n i : ℕ) :
    byteAt ⟨bytes ++ List.replicate n 0, position⟩ i = byteAt ⟨bytes, position⟩ i := by
  simp only [byteAt, List.getD_eq_getElem?_getD, List.getElem?_append]
  split <;> rename_i hlen
  · rfl
  · rw [List.getElem?_eq_none (Nat.le_of_not_lt hlen), List.getElem?_replicate]
    split <;> rfl

namespace Encoding

lemma extract_append_zeros (mode : Mode) (bytes : List UInt8) (e : Encoding) (n : ℕ) :
    e.extract mode (bytes ++ List.replicate n 0) = e.extract mode bytes := by
  have hmoved : (e.moved e.opcodeOffset e.length).extract mode (bytes ++ List.replicate n 0) =
      { e.extract mode bytes with length := e.length } :=
    e.extract_moved (fun i _ => (byteAt_append_zeros bytes e.opcodeOffset n i).symm)
      (Nat.le_add_left _ _)
  exact hmoved

/-- Of any bytes and in any mode, a scanned encoding makes an instruction, of which nothing but the
operands depends on them. The operands are those of the shapes that the bytes have an operand for,
and bytes that are missing count as zeros. -/
theorem extract_of_scan (he : scan mode strictLock bytes = .ok e) (mode' : Mode)
    (bytes' : List UInt8) :
    e.extract mode' bytes' =
        { e.extract mode bytes with operands := (e.extract mode' bytes').operands } ∧
      (e.extract mode' bytes').operands.length ≤ 4 ∧
      List.Forall₂ OperandShape.Fits (e.shapes.filter (Fields.read mode' bytes' e).1.present)
        (e.extract mode' bytes').operands ∧
      ∀ n, e.extract mode' (bytes' ++ List.replicate n 0) = e.extract mode' bytes' := by
  have hfits : List.Forall₂ OperandShape.Fits
      (e.shapes.filter (Fields.read mode' bytes' e).1.present)
      (e.extract mode' bytes').operands := by
    rw [extract_operands]
    exact Fields.fits_operands_present e.shapes
  obtain ⟨l, hleaf, hentry⟩ := exists_leaf_of_scan OpcodeMap.nameable_of_table he
  have hlength := calc (e.extract mode' bytes').operands.length
    _ = (e.shapes.filter (Fields.read mode' bytes' e).1.present).length := hfits.length_eq.symm
    _ ≤ e.shapes.length := List.length_filter_le _ _
    _ ≤ e.entry.operands.length := e.length_shapes_le
    _ ≤ 4 := hentry ▸ hleaf.length
  exact ⟨rfl, hlength, hfits, e.extract_append_zeros mode' bytes'⟩

theorem extract_of_scan_lea : ∃ e, scan .bits64 true [0x8D, 0x43, 0x08] = .ok e ∧
    e.extract .bits32 [0x8D, 0xC3] = ⟨.general .LEA, false, 3, none, .none, .dword, .qword,
      [.register ⟨.gpr, .dword, 0⟩]⟩ ∧
    e.extract .bits32 ([0x8D] ++ List.replicate 2 0) = ⟨.general .LEA, false, 3, none, .none,
      .dword, .qword, [.register ⟨.gpr, .dword, 0⟩,
        .memory ⟨.unsized, some ⟨.gpr, .qword, 0⟩, none, 1, 0⟩]⟩ := by
  obtain ⟨e, he, hform, hshort⟩ : ∃ e, scan .bits64 true [0x8D, 0x43, 0x08] = .ok e ∧
      e.extract .bits32 [0x8D, 0xC3] = ⟨.general .LEA, false, 3, none, .none, .dword, .qword,
        [.register ⟨.gpr, .dword, 0⟩]⟩ ∧
      e.extract .bits32 [0x8D] = ⟨.general .LEA, false, 3, none, .none, .dword, .qword,
        [.register ⟨.gpr, .dword, 0⟩,
          .memory ⟨.unsized, some ⟨.gpr, .qword, 0⟩, none, 1, 0⟩]⟩ := ⟨_, rfl, rfl, rfl⟩
  obtain ⟨-, -, -, hzeros⟩ := extract_of_scan he .bits32 [0x8D]
  exact ⟨e, he, hform, (hzeros 2).trans hshort⟩

end Encoding

end X86
