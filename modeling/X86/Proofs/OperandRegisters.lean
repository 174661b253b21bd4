import Mathlib
import X86.Encoding.Operands
import X86.Proofs.Trailing

/-! Operands name registers that exist, at widths that are set. -/

namespace X86

open Cursor

namespace Register

variable {r : Register}

lemma question_notMem_names (f : RegisterFile) (w : Size) : "?" ∉ names f w := by
  cases f <;> cases w <;> decide

lemma index_lt_length_names (h : r.valid = true) (hf : r.file ≠ .special) :
    r.index < (names r.file r.width).length := by
  obtain ⟨f, w, i⟩ := r
  cases f <;> cases w <;>
    simp_all [valid, names, byteNames, wordNames, dwordNames, qwordNames, segmentNames, numbered]

lemma specialName_ne (i : ℕ) (w : Size) : specialName i w ≠ "?" := by
  cases w <;> simp only [specialName] <;> split <;> decide

lemma name_ne_of_valid (h : r.valid = true) : r.name ≠ "?" := by
  by_cases hf : r.file = .special
  · simp only [name, hf]
    exact specialName_ne _ _
  · have hi := index_lt_length_names h hf
    have hname : r.name = (names r.file r.width)[r.index] := by
      rw [← List.getD_eq_getElem _ "?" hi]
      cases hr : r.file <;> simp_all [name]
    rw [hname]
    exact fun hq => question_notMem_names _ _ (hq ▸ List.getElem_mem hi)

def generalSizes : List Size := [.byte, .word, .dword, .qword]

lemma valid_gpr {w : Size} {n : ℕ} {rex : Bool} (hw : w ∈ generalSizes) (hn : n < 16) :
    (gpr w n rex).valid = true := by
  simp only [generalSizes, List.mem_cons, List.not_mem_nil, or_false] at hw
  simp only [gpr, highByteBase]
  rcases hw with rfl | rfl | rfl | rfl <;> split <;> simp_all [valid] <;> omega

@[simp] lemma width_gpr (w : Size) (n : ℕ) (rex : Bool) : (gpr w n rex).width = w := by
  simp only [gpr]
  split <;> rfl

end Register

lemma Size.IsGeneral.mem_generalSizes {z : Size} (hz : z.IsGeneral) :
    z ∈ Register.generalSizes := by
  rcases hz with rfl | rfl | rfl <;> decide

namespace Width

variable {k : SizeContext}

def isGeneral : Width → Bool
  | byte | word | dword | qword | operand | general | atMostDword | native => true
  | _ => false

lemma resolve_mem_generalSizes (hk : k.operandSize.IsGeneral) {w : Width}
    (hw : w.isGeneral = true) : w.resolve k ∈ Register.generalSizes := by
  cases w with
  | byte | word | dword | qword => simp [resolve, Register.generalSizes]
  | operand => exact hk.mem_generalSizes
  | general | atMostDword | native => simp only [resolve]; split <;> decide
  | _ => cases hw

lemma resolve_ne_unset (hk : k.operandSize.IsGeneral) (w : Width) : w.resolve k ≠ .unset := by
  cases w with
  | operand => rcases hk with h | h | h <;> simp [resolve, h]
  | _ => simp only [resolve]; (try split) <;> decide

lemma vexLong_of_resolve (hk : k.operandSize.IsGeneral) {w : Width}
    (hw : w.resolve k = .ymmword) : k.vexLong = true := by
  cases w with
  | operand => rcases hk with h | h | h <;> simp [resolve, h] at hw
  | vector => by_contra h; simp [resolve, h] at hw
  | _ => simp only [resolve] at hw; (try split at hw) <;> cases hw

end Width

def Memory.registers (m : Memory) : List Register := m.base.toList ++ m.index.toList

structure Memory.WellFormed (addressSize : Size) (m : Memory) : Prop where
  valid : ∀ r ∈ m.registers, r.valid = true
  width : ∀ r ∈ m.registers, r.width = addressSize
  scale : m.scale ∈ [1, 2, 4, 8]

def Operand.registers : Operand → List Register
  | register r => [r]
  | memory m => m.registers
  | _ => []

structure Operand.WellFormed (addressSize : Size) (long : Bool) (o : Operand) : Prop where
  valid : ∀ r ∈ o.registers, r.valid = true
  width : o.width ≠ .unset
  ymmword : o.width = .ymmword → long = true
  memory : ∀ m ∈ o.memory?, m.WellFormed addressSize

namespace Operand

variable {z : Size} {long : Bool}

lemma wellFormed_register {r : Register} (hr : r.valid = true) (hw : r.width ≠ .unset)
    (hl : r.width = .ymmword → long = true) : (register r).WellFormed z long :=
  ⟨by simpa [registers], hw, hl, by simp [memory?]⟩

lemma wellFormed_memory {m : Memory} (hm : m.WellFormed z) (hw : m.width ≠ .unset)
    (hl : m.width = .ymmword → long = true) : (memory m).WellFormed z long :=
  ⟨hm.valid, hw, hl, by simpa [memory?]⟩

lemma wellFormed_constant {o : Operand} (ho : o.registers = []) (hm : o.isMemory = false)
    (hw : o.width ≠ .unset) (hl : o.width = .ymmword → long = true) : o.WellFormed z long := by
  refine ⟨by simp [ho], hw, hl, ?_⟩
  cases o with
  | memory m => cases hm
  | _ => simp [memory?]

end Operand

lemma extended_lt (n : Fin 8) (b : Bool) : extended n b < 16 := by
  simp only [extended]
  split <;> omega

namespace ModRM

lemma mem_pair16 {m : ModRM} {n : ℕ} (hn : n ∈ m.pair16.1 ∨ n ∈ m.pair16.2) : n < 8 := by
  simp only [pair16] at hn
  split at hn
  · simp at hn
  · split at hn <;> (try split at hn) <;> simp_all <;> omega

end ModRM

lemma Sib.factor_mem (s : Sib) : s.factor ∈ [1, 2, 4, 8] := by
  have hall : ∀ k : Fin 4, 1 <<< k.val ∈ [1, 2, 4, 8] := by decide
  exact hall s.scale

namespace Encoding

variable {mode : Mode} {e : Encoding} {r : Register}

inductive IsAddressRegister (mode : Mode) (e : Encoding) : Register → Prop
  | word {n : ℕ} : e.addressSize = .word → n < 8 → IsAddressRegister mode e (.gpr .word n false)
  | ip : mode.isLong = true → IsAddressRegister mode e (.ip e.addressSize)
  | numbered (field : Fin 8) (bit : Rex → Bool) :
    IsAddressRegister mode e (e.addressRegister (extended field (e.rexBit bit)))

namespace IsAddressRegister

lemma valid (hr : IsAddressRegister mode e r) (he : e.Sized) : r.valid = true := by
  cases hr with
  | word hz hn => exact Register.valid_gpr (by decide) (by omega)
  | ip => rfl
  | numbered => exact Register.valid_gpr he.addressSize.mem_generalSizes (extended_lt _ _)

lemma width (hr : IsAddressRegister mode e r) : r.width = e.addressSize := by
  cases hr with
  | word hz hn => rw [Register.width_gpr, hz]
  | ip => rfl
  | numbered => exact Register.width_gpr _ _ _

end IsAddressRegister

lemma isAddressRegister_sibAddress (m : ModRM) (s : Sib) (c : Cursor) :
    ∀ r ∈ (e.sibAddress m s c).1.registers, IsAddressRegister mode e r := by
  intro r hr
  simp only [sibAddress, Memory.registers, Sib.baseNumber, Sib.indexNumber, List.mem_append,
    Option.mem_toList, Option.map_eq_some_iff] at hr
  rcases hr with ⟨n, hn, rfl⟩ | ⟨n, hn, rfl⟩
  · split at hn <;> cases hn
    exact .numbered _ _
  · split at hn <;> cases hn
    exact .numbered _ _

lemma isAddressRegister_address32 (m : ModRM) (c : Cursor) :
    ∀ r ∈ (e.address32 mode m c).1.registers, IsAddressRegister mode e r := by
  intro r hr
  rw [address32] at hr
  cases hb : m.addressBase with
  | register => simp [hb, Memory.direct, Memory.registers] at hr
  | base n =>
    simp only [hb, Memory.registers, Option.toList_some, Option.toList_none, List.append_nil,
      List.mem_singleton] at hr
    rw [hr]
    exact .numbered _ _
  | disp32 =>
    simp only [hb, Memory.registers, Option.toList_none, List.append_nil, Option.mem_toList,
      Option.ite_none_right_eq_some, Option.some.injEq] at hr
    rw [← hr.2]
    exact .ip hr.1
  | sib =>
    rw [hb] at hr
    exact isAddressRegister_sibAddress m _ _ r hr

lemma isAddressRegister_address (m : ModRM) (c : Cursor) :
    ∀ r ∈ (e.address mode m c).1.registers, IsAddressRegister mode e r := by
  intro r hr
  rw [address] at hr
  split at hr <;> rename_i hz
  · simp only [Memory.registers, ModRM.memory16, List.mem_append, Option.mem_toList,
      Option.map_eq_some_iff] at hr
    rcases hr with ⟨n, hn, rfl⟩ | ⟨n, hn, rfl⟩
    · exact .word hz (ModRM.mem_pair16 (Or.inl hn))
    · exact .word hz (ModRM.mem_pair16 (Or.inr hn))
  · exact isAddressRegister_address32 m c r hr

lemma scale_address (m : ModRM) (c : Cursor) : (e.address mode m c).1.scale ∈ [1, 2, 4, 8] := by
  rw [address]
  split
  · simp [ModRM.memory16]
  · rw [address32]
    cases m.addressBase with
    | sib =>
      simp only [sibAddress]
      split
      · exact Sib.factor_mem _
      · decide
    | _ => simp [Memory.direct]

lemma wellFormed_address (he : e.Sized) (m : ModRM) (c : Cursor) :
    (e.address mode m c).1.WellFormed e.addressSize where
  valid r hr := (isAddressRegister_address m c r hr).valid he
  width r hr := (isAddressRegister_address m c r hr).width
  scale := scale_address m c

end Encoding

end X86
