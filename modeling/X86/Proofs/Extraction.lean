import Mathlib
import X86.Proofs.Readers
import X86.Proofs.Similarity

/-! Extraction looks at nothing but the bytes of the instruction, wherever they stand. -/

namespace X86

open Cursor

variable {mode : Mode}

namespace Encoding

def moved (e : Encoding) (offset length : ℕ) : Encoding :=
  { e with opcodeOffset := offset, length := length }

/-- The operands that are read: none of an exchange of the accumulator with itself. -/
def shapes (e : Encoding) : List OperandShape := if e.isNop then [] else e.entry.operands

lemma length_shapes_le (e : Encoding) : e.shapes.length ≤ e.entry.operands.length := by
  unfold shapes
  split
  · exact Nat.zero_le _
  · exact le_rfl

def finish (mode : Mode) (bytes : List UInt8) (e : Encoding) : Cursor :=
  ((Fields.read mode bytes e).1.operands e.shapes (Fields.read mode bytes e).2).2

lemma extract_operands (bytes : List UInt8) (e : Encoding) : (e.extract mode bytes).operands =
    ((Fields.read mode bytes e).1.operands e.shapes (Fields.read mode bytes e).2).1 := by
  unfold shapes
  split
  · exact if_pos ‹_›
  · exact if_neg ‹_›

end Encoding

namespace Fields

lemma reads_behindModRM (e : Encoding) (o : UInt8) (m : ModRM) :
    Reads (behindModRM mode e o m) := by
  unfold behindModRM
  split
  · exact Reads.pure _
  · exact (e.reads_address m).map fun a => Fields.mk mode e o m (some a)

lemma reads_behindOpcode (e : Encoding) (o : UInt8) : Reads (behindOpcode mode e o) := by
  unfold behindOpcode
  split
  · exact (reads_readUnsigned 1).bind fun b =>
      reads_behindModRM e o (ModRM.ofByte (UInt8.ofNat b))
  · exact Reads.pure _

variable {e : Encoding} {c : Cursor}

lemma encoding_behindOpcode (o : UInt8) : (behindOpcode mode e o c).1.encoding = e := by
  unfold behindOpcode behindModRM
  split
  · dsimp only
    split <;> rfl
  · rfl

lemma mode_behindOpcode (o : UInt8) : (behindOpcode mode e o c).1.mode = mode := by
  unfold behindOpcode behindModRM
  split
  · dsimp only
    split <;> rfl
  · rfl

end Fields

namespace Encoding

def readBehind (mode : Mode) (e : Encoding) (o : UInt8) (c : Cursor) : List Operand × Cursor :=
  match Fields.behindOpcode mode e o c with
  | (x, c) => x.operands e.shapes c

variable {bytes bytes' : List UInt8} {offset length n : ℕ}

lemma reads_readBehind (e : Encoding) (o : UInt8) : Reads (e.readBehind mode o) :=
  (Fields.reads_behindOpcode e o).bind fun x => x.reads_operands e.shapes

lemma shapes_congr {e f : Encoding} (h : e.Similar f) : e.shapes = f.shapes := by
  rw [shapes, shapes, h.isNop, h.entry]

lemma readBehind_congr {mode' : Mode} {e f : Encoding} (h : e.Similar f) (hv : e.vex = f.vex)
    (hm : mode.isLong = mode'.isLong) (o : UInt8) (c : Cursor) :
    e.readBehind mode o c = f.readBehind mode' o c := by
  obtain ⟨hx, hc⟩ := Fields.Similar.behindOpcode h hm o c
  simp only [readBehind, shapes_congr h, hc]
  refine hx.operands (fun _ => ?_) _
  simp only [Fields.vexNumber?, Fields.encoding_behindOpcode, hv]

lemma similar_moved (e : Encoding) (offset length : ℕ) : e.Similar (e.moved offset length) :=
  ⟨rfl, rfl, rfl, rfl, rfl, rfl⟩

lemma readBehind_eq (bytes : List UInt8) (e : Encoding) :
    e.readBehind mode (bytes.getD e.opcodeOffset 0) ⟨bytes, e.operandOffset⟩ =
      ((e.extract mode bytes).operands, e.finish mode bytes) :=
  Prod.ext (extract_operands bytes e).symm rfl

lemma extract_eq (mode : Mode) (bytes : List UInt8) (e : Encoding) : e.extract mode bytes =
    ⟨e.mnemonic, e.isVex, e.length, e.segment, e.flags, e.operandSize, e.addressSize,
      (e.readBehind mode (bytes.getD e.opcodeOffset 0) ⟨bytes, e.operandOffset⟩).1⟩ := by
  rw [readBehind_eq]
  rfl

lemma extract_moved (e : Encoding) (h : Agree n ⟨bytes, e.opcodeOffset⟩ ⟨bytes', offset⟩)
    (hn : (e.finish mode bytes).position ≤ e.opcodeOffset + n) :
    (e.moved offset length).extract mode bytes' =
      { e.extract mode bytes with length := length } := by
  obtain ⟨k, hk, hd⟩ := @reads_readBehind mode e (bytes.getD e.opcodeOffset 0)
    ⟨bytes, e.operandOffset⟩
  rw [readBehind_eq] at hk hd
  simp only at hk hd
  rw [hk] at hn
  have hlen : k + 1 ≤ n := by simp [operandOffset] at hn; omega
  have hop : bytes'.getD offset 0 = bytes.getD e.opcodeOffset 0 :=
    (h 0 (by omega)).symm
  have hbehind : Agree k ⟨bytes, e.operandOffset⟩ ⟨bytes', offset + 1⟩ :=
    (h.mono (Nat.add_comm 1 k ▸ hlen)).advance
  rw [extract_eq, ← readBehind_congr (similar_moved e offset length) rfl rfl]
  change Instruction.mk _ _ _ _ _ _ _ (readBehind mode e (bytes'.getD offset 0)
    ⟨bytes', offset + 1⟩).1 = _
  rw [hop, hd _ hbehind]
  rfl

lemma extract_congr {mode' : Mode} (hm : mode.isLong = mode'.isLong) (bytes : List UInt8)
    (e : Encoding) : e.extract mode bytes = e.extract mode' bytes := by
  rw [extract_eq, extract_eq, readBehind_congr (Similar.refl e) rfl hm]

end Encoding

lemma Instruction.decode_eq_ok {strictLock : Bool} {bytes : List UInt8} {i : Instruction} :
    decode mode strictLock bytes = .ok i ↔
      ∃ e, Encoding.scan mode strictLock bytes = .ok e ∧ e.extract mode bytes = i := by
  unfold decode
  cases Encoding.scan mode strictLock bytes <;> simp [Except.map]

lemma Instruction.decode_eq_error {strictLock : Bool} {bytes : List UInt8} {err : DecodeError} :
    decode mode strictLock bytes = .error err ↔
      Encoding.scan mode strictLock bytes = .error err := by
  unfold decode
  cases Encoding.scan mode strictLock bytes <;> simp [Except.map]

end X86
