import Mathlib
import X86.Encoding.Operands
import X86.Proofs.LittleEndian
import X86.Proofs.ScanRuns

namespace X86

namespace Cursor

variable {α β : Type} {c d : Cursor} {n k : ℕ}

def byteAt (c : Cursor) (i : ℕ) : UInt8 := c.bytes.getD (c.position + i) 0

def Agree (n : ℕ) (c d : Cursor) : Prop := ∀ i < n, c.byteAt i = d.byteAt i

lemma byteAt_advance (i : ℕ) : (c.advance n).byteAt i = c.byteAt (n + i) := by
  simp [byteAt, advance, Nat.add_assoc]

lemma Agree.mono (h : Agree n c d) (hk : k ≤ n) : Agree k c d := fun i hi => h i (hi.trans_le hk)

lemma Agree.advance (h : Agree (n + k) c d) : Agree k (c.advance n) (d.advance n) := by
  intro i hi
  rw [byteAt_advance, byteAt_advance]
  exact h _ (Nat.add_lt_add_left hi n)

/-- A reader moves the cursor on, and what it reads depends only on the bytes that it passes. -/
def Reads (f : Cursor → α × Cursor) : Prop :=
  ∀ c, ∃ k, (f c).2 = c.advance k ∧ ∀ d, Agree k c d → f d = ((f c).1, d.advance k)

lemma Reads.pure (a : α) : Reads fun c => (a, c) := fun _ => ⟨0, rfl, fun _ _ => rfl⟩

lemma Reads.bind {f : Cursor → α × Cursor} {g : α → Cursor → β × Cursor} (hf : Reads f)
    (hg : ∀ a, Reads (g a)) : Reads fun c => match f c with | (a, c) => g a c := by
  intro c
  obtain ⟨k, hk, hfd⟩ := hf c
  obtain ⟨l, hl, hgd⟩ := hg (f c).1 (c.advance k)
  refine ⟨k + l, by simp [hk, hl], fun d h => ?_⟩
  have hd := hgd (d.advance k) (h.advance)
  simp only [hfd d (h.mono (Nat.le_add_right k l)), hd, hk, advance_advance]

lemma Reads.map {f : Cursor → α × Cursor} (hf : Reads f) (h : α → β) :
    Reads fun c => match f c with | (a, c) => (h a, c) :=
  hf.bind fun a => Reads.pure (h a)

lemma reads_readUnsigned (n : ℕ) : Reads fun c => c.readUnsigned n := by
  intro c
  refine ⟨n, rfl, fun d h => ?_⟩
  have : littleEndian ((d.bytes.drop d.position).take n) =
      littleEndian ((c.bytes.drop c.position).take n) :=
    littleEndian_take_congr fun i hi => by simpa [byteAt] using (h i hi).symm
  simp [readUnsigned, this]

lemma reads_readSigned (n : ℕ) : Reads fun c => c.readSigned n :=
  (reads_readUnsigned n).map fun v => Int.bmod v (1 <<< (8 * n))

lemma reads_readField (n : ℕ) : Reads fun c => c.readField n := by
  unfold readField
  split
  · exact reads_readSigned n
  · exact Reads.pure 0

end Cursor

open Cursor

namespace Encoding

variable {mode : Mode}

lemma reads_sibAddress (e : Encoding) (m : ModRM) (s : Sib) : Reads (e.sibAddress m s) :=
  (reads_readField (if s.hasDisp32 m.mod then 4 else m.dispLength32)).map _

lemma reads_address32 (e : Encoding) (m : ModRM) : Reads (e.address32 mode m) := by
  unfold address32
  cases m.addressBase with
  | register => exact Reads.pure _
  | base n => exact (reads_readField m.dispLength32).map _
  | disp32 => exact (reads_readField 4).map _
  | sib =>
    exact (reads_readUnsigned 1).bind fun b => reads_sibAddress e m (Sib.ofByte (UInt8.ofNat b))

lemma reads_address (e : Encoding) (m : ModRM) : Reads (e.address mode m) := by
  unfold address
  split
  · exact (reads_readField _).map _
  · exact reads_address32 e m

end Encoding

namespace Fields

lemma reads_operand (x : Fields) (s : OperandShape) : Reads fun c => x.operand c s := by
  let field (s : OperandShape) :=
    reads_readField (s.trailingBytes x.encoding.operandSize x.encoding.addressSize)
  cases s
  case immediate w =>
    exact (field (.immediate w)).map fun v => some (Operand.immediate v (x.immediateSize w))
  case signedByte w => exact (reads_readField 1).map fun v => some (Operand.immediate v (x.size w))
  case relativeByte => exact (reads_readField 1).map fun d => some (Operand.short d)
  case relative => exact (field .relative).map fun d => some (Operand.near x.encoding.operandSize d)
  case farAddress =>
    let w : Size := if x.encoding.operandSize = .word then .word else .dword
    exact (reads_readUnsigned w.bytes).bind fun o =>
      (reads_readUnsigned 2).map fun n => some (Operand.far w n o)
  case direct w =>
    exact (field (.direct w)).map fun d => some (Operand.memory (.direct (x.size w) d))
  case vectorTail =>
    exact (reads_readUnsigned 1).map fun b =>
      some (x.vector .vector (if x.mode.isLong then b / 16 else b / 16 % 8))
  all_goals exact Reads.pure _

lemma reads_operands (x : Fields) (ss : List OperandShape) : Reads (x.operands ss) := by
  induction ss with
  | nil => exact Reads.pure []
  | cons s ss ih => exact (reads_operand x s).bind fun o => ih.map fun os => o.toList ++ os

end Fields

end X86
