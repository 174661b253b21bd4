import Mathlib
import X86.Encoding.Operands

/-! What the operands of an encoding depend on: neither its mode as such nor its VEX prefix as such.
-/

namespace X86

open Cursor

variable {mode mode' : Mode} {e f : Encoding} {x y : Fields} {c : Cursor} {s : OperandShape}

/-- Two encodings agree in what their operands depend on, apart from the register of a VEX
prefix. -/
structure Encoding.Similar (e f : Encoding) : Prop where
  entry : e.entry = f.entry
  hasModRM : e.hasModRM = f.hasModRM
  rex : e.rex = f.rex
  vexLong : e.vexLong = f.vexLong
  operandSize : e.operandSize = f.operandSize
  addressSize : e.addressSize = f.addressSize

structure Fields.Similar (x y : Fields) : Prop where
  mode : x.mode.isLong = y.mode.isLong
  encoding : x.encoding.Similar y.encoding
  opcode : x.opcode = y.opcode
  modrm : x.modrm = y.modrm
  memory : x.memory = y.memory

lemma Width.resolve_congr {k k' : SizeContext} (hm : k.mode.isLong = k'.mode.isLong)
    (hz : k.operandSize = k'.operandSize) (hw : k.wide = k'.wide) (hl : k.vexLong = k'.vexLong)
    (w : Width) : w.resolve k = w.resolve k' := by
  cases w <;> simp only [resolve, hm, hz, hw, hl]

namespace Encoding.Similar

lemma refl (e : Encoding) : e.Similar e := ⟨rfl, rfl, rfl, rfl, rfl, rfl⟩

variable (h : e.Similar f)

include h

lemma rexBit : e.rexBit = f.rexBit := by
  funext bit
  rw [Encoding.rexBit, Encoding.rexBit, h.rex]

lemma addressRegister : e.addressRegister = f.addressRegister := by
  funext n
  rw [Encoding.addressRegister, Encoding.addressRegister, h.addressSize]

lemma mnemonic : e.mnemonic = f.mnemonic := by
  simp only [Encoding.mnemonic, h.entry, h.rexBit, h.operandSize, h.addressSize]

lemma isNop : e.isNop = f.isNop := by
  simp only [Encoding.isNop, h.mnemonic, h.entry]

lemma address (hm : mode.isLong = mode'.isLong) (m : ModRM) (c : Cursor) :
    e.address mode m c = f.address mode' m c := by
  simp only [Encoding.address, address32, sibAddress, h.addressSize, h.rexBit, h.addressRegister,
    hm]

end Encoding.Similar

namespace Fields

namespace Similar

section

variable (h : x.Similar y)

include h

lemma size : x.size = y.size := by
  funext w
  apply Width.resolve_congr h.mode h.encoding.operandSize
  · exact congrFun h.encoding.rexBit Rex.w
  · exact h.encoding.vexLong

lemma regNumber : x.regNumber = y.regNumber := by
  rw [Fields.regNumber, Fields.regNumber, h.modrm, h.encoding.rexBit]

lemma rmNumber : x.rmNumber = y.rmNumber := by
  rw [Fields.rmNumber, Fields.rmNumber, h.modrm, h.encoding.rexBit]

lemma opcodeNumber : x.opcodeNumber = y.opcodeNumber := by
  rw [Fields.opcodeNumber, Fields.opcodeNumber, h.opcode, h.encoding.rexBit]

lemma general : x.general = y.general := by
  funext w n
  rw [Fields.general, Fields.general, h.size, h.encoding.rex]

lemma vector : x.vector = y.vector := by
  funext w n
  rw [Fields.vector, Fields.vector, h.size]

lemma memoryAt : x.memoryAt = y.memoryAt := by
  funext z
  rw [Fields.memoryAt, Fields.memoryAt, h.memory]

lemma memoryOr : x.memoryOr = y.memoryOr := by
  funext w o
  rw [Fields.memoryOr, Fields.memoryOr, h.memoryAt, h.size]

lemma immediateSize : x.immediateSize = y.immediateSize := by
  funext w
  cases w <;> simp only [Fields.immediateSize, h.size, h.encoding.operandSize]

lemma operand (hv : s.usesVexRegister = true → x.vexNumber? = y.vexNumber?) (c : Cursor) :
    x.operand c s = y.operand c s := by
  cases s with
  | vectorVex w => simp only [Fields.operand, field?, hv rfl, h.vector]
  | generalVex w => simp only [Fields.operand, field?, hv rfl, h.general]
  | _ =>
    simp only [Fields.operand, field?, h.size, h.regNumber, h.rmNumber, h.opcodeNumber, h.general,
      h.vector, h.memoryAt, h.memoryOr, h.immediateSize, h.modrm, h.mode,
      h.encoding.operandSize, h.encoding.addressSize]

lemma operands {ss : List OperandShape}
    (hv : ss.any OperandShape.usesVexRegister = true → x.vexNumber? = y.vexNumber?) (c : Cursor) :
    x.operands ss c = y.operands ss c := by
  induction ss generalizing c with
  | nil => rfl
  | cons s ss ih =>
    simp only [List.any_cons, Bool.or_eq_true] at hv
    have ih := ih fun hs => hv (Or.inr hs)
    simp only [Fields.operands, h.operand (fun hs => hv (Or.inl hs)), ih]

end

lemma behindModRM (h : e.Similar f) (hm : mode.isLong = mode'.isLong) (o : UInt8) (m : ModRM)
    (c : Cursor) : (behindModRM mode e o m c).1.Similar (behindModRM mode' f o m c).1 ∧
      (Fields.behindModRM mode e o m c).2 = (Fields.behindModRM mode' f o m c).2 := by
  simp only [Fields.behindModRM, h.entry, h.address hm]
  split
  · exact ⟨⟨hm, h, rfl, rfl, rfl⟩, rfl⟩
  · exact ⟨⟨hm, h, rfl, rfl, rfl⟩, rfl⟩

lemma behindOpcode (h : e.Similar f) (hm : mode.isLong = mode'.isLong) (o : UInt8) (c : Cursor) :
    (behindOpcode mode e o c).1.Similar (behindOpcode mode' f o c).1 ∧
      (Fields.behindOpcode mode e o c).2 = (Fields.behindOpcode mode' f o c).2 := by
  simp only [Fields.behindOpcode, h.hasModRM]
  split
  · exact behindModRM h hm o _ _
  · exact ⟨⟨hm, h, rfl, rfl, rfl⟩, rfl⟩

end Similar

end Fields

end X86
