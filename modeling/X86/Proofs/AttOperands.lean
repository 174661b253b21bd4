import Mathlib
import X86.Proofs.Legibility
import X86.Proofs.OperandText

/-! The registers among the operands, read back from the text that marks each of them. -/

namespace X86

variable {i j : Instruction} {m : Memory} {o : Operand} {r : Register} {cs : List Char}

def Operand.register? : Operand → Option Register
  | register r => some r
  | _ => none

def Instruction.registerOperands (i : Instruction) : List Register :=
  i.operands.filterMap Operand.register?

lemma Mnemonic.isTransfer_of_isFar {m : Mnemonic} (hm : m.isFar = true) : m.isTransfer = true := by
  rw [isFar.eq_def] at hm
  split at hm
  · rfl
  · rfl
  · cases hm

namespace Register

def common : List Register :=
  (List.range 20).map (Register.mk .gpr .byte) ++
    [Size.word, .dword, .qword].flatMap (fun w => (List.range 16).map (Register.mk .gpr w)) ++
    (List.range 6).map segment

def ofName? (t : String) : Option Register := common.find? (·.name == t)

lemma ofName?_name (hr : r ∈ common) : ofName? r.name = some r := by
  have hall : ∀ r ∈ common, ofName? r.name = some r := by decide +kernel
  exact hall r hr

lemma mem_common (hr : r.valid = true)
    (hf : r.file = .gpr ∨ r.file = .segment ∧ r.width = .word) : r ∈ common := by
  rcases r with ⟨file, width, n⟩
  rcases hf with rfl | ⟨rfl, rfl⟩
  · cases width <;> simp_all [valid, common]
  · simp_all [valid, common, segment]

lemma file_ne_fpu_of_mem_common : ∀ r ∈ common, r.file ≠ .fpu := by decide

lemma file_ne_fpu_of_mem_addressRegisters : ∀ r ∈ addressRegisters, r.file ≠ .fpu := by decide

end Register

namespace Format.Att

def marks : Marks Char := ⟨',', '(', ')', by decide, by decide⟩

def operandChars (i : Instruction) (o : Operand) : List Char := Piece.chars (operand {} i o)

def register? : List Char → Option Register
  | '%' :: cs => if Plain cs then Register.ofName? (String.ofList cs) else none
  | _ => none

lemma closed_of_plain (h : Plain cs) : marks.Closed cs :=
  .of_notMem (h.notMem (by decide)) (h.notMem (by decide))

lemma closed_singleton {c : Char} (hc : c ∉ [',', '(']) : marks.Closed [c] :=
  .singleton (fun h => hc (by simp [h, marks])) fun h => hc (by simp [h, marks])

lemma chars_register (r : Register) : Piece.chars [register r] = '%' :: r.name.toList := by
  rw [Piece.chars_singleton, register, String.toList_append]
  rfl

lemma closed_of_mem_names (f : RegisterFile) (w : Size) :
    ∀ t ∈ Register.names f w, marks.Closed t.toList := by
  intro t ht
  by_cases hf : f = .fpu
  -- in `st(n)` the parentheses are a pair of their own
  · subst hf
    obtain ⟨u, hu, rfl⟩ := List.mem_map.mp ht
    obtain ⟨n, -, rfl⟩ := List.mem_map.mp hu
    have hdigits : ')' ∉ n.repr.toList := (Number.plain_repr n).notMem (by decide)
    have hst : marks.Closed ['s', 't'] := closed_of_plain (by decide)
    have hname : ("st(" ++ toString n ++ ")").toList =
        ['s', 't'] ++ '(' :: (n.repr.toList ++ [')']) := by
      rw [String.toList_append, String.toList_append, List.append_assoc]
      rfl
    rw [hname]
    exact hst.append (.parentheses hdigits)
  · exact closed_of_plain (Register.plain_of_mem_names hf w t ht)

lemma closed_name (r : Register) : marks.Closed r.name.toList :=
  r.name_induction (P := fun t => marks.Closed t.toList) (closed_of_plain (by decide))
    (closed_of_mem_names _ _) fun n w => closed_of_plain (Register.plain_specialName n w)

lemma closed_register (r : Register) : marks.Closed (Piece.chars [register r]) := by
  rw [chars_register]
  exact (closed_singleton (by decide)).append (closed_name r)

lemma closed_segment (i : Instruction) : marks.Closed (Piece.chars (segment i)) := by
  rw [segment]
  cases i.segment with
  | none => exact .nil
  | some s =>
    rw [Piece.chars_cons, ← Piece.chars_singleton (register s)]
    exact (closed_register s).append (closed_singleton (by decide))

lemma closing_notMem_register (hr : r.file ≠ .fpu) : ')' ∉ Piece.chars [register r] := by
  rw [chars_register, List.mem_cons, not_or]
  exact ⟨by decide, (Register.plain_name hr).notMem (by decide)⟩

lemma chars_memory (i : Instruction) (m : Memory) : Piece.chars (memory i m) =
    Piece.chars (segment i) ++ if m.isAbsolute then (absoluteText i m).toList
      else Piece.chars (displacement m) ++
        '(' :: (Piece.chars (base m) ++ Piece.chars (index m) ++ [')']) := by
  rw [memory, Piece.chars_append]
  split
  · rw [Piece.chars_singleton]
  · simp only [Piece.chars_append, Piece.chars_singleton, List.append_assoc]
    rfl

lemma closed_displacement (m : Memory) : marks.Closed (Piece.chars (displacement m)) := by
  rw [displacement]
  split
  · exact .nil
  · obtain ⟨sign, hsign, cs, hcs, htext⟩ := Number.displacement_eq m.displacement
    rw [Piece.chars_singleton, htext]
    refine .append ?_ (closed_of_plain hcs)
    fin_cases hsign
    · exact .nil
    · exact closed_singleton (by decide)

lemma closing_notMem_base (hm : (Operand.memory m).Legible i) : ')' ∉ Piece.chars (base m) := by
  rw [base]
  cases hb : m.base with
  | none => exact List.not_mem_nil
  | some b =>
    have hmem := hm.1 b (by simp [Memory.registers, hb])
    exact closing_notMem_register (Register.file_ne_fpu_of_mem_addressRegisters b hmem)

lemma closing_notMem_index (hm : (Operand.memory m).Legible i) : ')' ∉ Piece.chars (index m) := by
  rw [index]
  cases hx : m.index with
  | none => exact List.not_mem_nil
  | some x =>
    have hmem := hm.1 x (by simp [Memory.registers, hx])
    have hname := closing_notMem_register (Register.file_ne_fpu_of_mem_addressRegisters x hmem)
    have hscale : ')' ∉ m.scale.repr.toList := (Number.plain_repr _).notMem (by decide)
    rw [Piece.chars_singleton] at hname
    rw [Nat.toList_repr] at hscale
    simp [Piece.chars_cons, Piece.chars_nil, hname, hscale]

lemma closed_memory (hm : (Operand.memory m).Legible i) :
    marks.Closed (Piece.chars (memory i m)) := by
  rw [chars_memory]
  refine (closed_segment i).append ?_
  split
  · exact closed_of_plain (Number.plain_hex _)
  · refine (closed_displacement m).append (.parentheses ?_)
    rw [List.mem_append, not_or]
    exact ⟨closing_notMem_base hm, closing_notMem_index hm⟩

lemma closed_relative (i : Instruction) (d : ℤ) :
    marks.Closed (Piece.chars [relative {} i "." d]) := by
  obtain ⟨sign, hsign, cs, hcs, htext⟩ :=
    Number.offset_eq (Int.bmod (i.length + d) (1 <<< 64))
  have hchars : Piece.chars [relative {} i "." d] = ['.'] ++ (sign ++ cs) := by
    rw [Piece.chars_singleton, ← htext]
    exact String.toList_append
  have hsigned : marks.Closed sign := by
    fin_cases hsign
    · exact .nil
    · exact closed_singleton (by decide)
    · exact closed_singleton (by decide)
  rw [hchars]
  exact (closed_singleton (by decide)).append (hsigned.append (closed_of_plain hcs))

lemma closed_operand (ho : o.Legible i) (hfar : ∀ w s t, o ≠ .far w s t) :
    marks.Closed (operandChars i o) := by
  have hindirection : marks.Closed (Piece.chars (indirection i o)) := by
    rw [indirection]
    split
    · exact closed_singleton (by decide)
    · exact .nil
  rw [operandChars, operand.eq_def, Piece.chars_append]
  apply hindirection.append
  cases o with
  | register r => exact closed_register r
  | immediate v w =>
    rw [Piece.chars_singleton, String.toList_append]
    exact (closed_singleton (by decide)).append (closed_of_plain (Number.plain_hex _))
  | memory m => exact closed_memory ho
  | short d => exact closed_relative i d
  | near w d => exact closed_relative i d
  | far w s t => exact absurd rfl (hfar w s t)

lemma register?_eq_none_of_mem {c : Char} (hc : isPlain c = false) (hmark : c ≠ '%')
    (h : c ∈ cs) : register? cs = none := by
  rw [register?.eq_def]
  split
  · rename_i cs
    rw [List.mem_cons, or_iff_right hmark] at h
    exact if_neg fun hplain => hplain.notMem hc h
  · rfl

lemma register?_of_plain (h : Plain cs) : register? cs = none := by
  rw [register?.eq_def]
  split
  · exact absurd List.mem_cons_self (h.notMem (by decide))
  · rfl

lemma register?_memory (i : Instruction) (m : Memory) :
    register? (Piece.chars (memory i m)) = none := by
  rw [chars_memory, segment]
  cases i.segment with
  | some s =>
    apply register?_eq_none_of_mem (c := ':') (by decide) (by decide)
    simp [Piece.chars_cons]
  | none =>
    rw [Piece.chars_nil, List.nil_append]
    split
    · exact register?_of_plain (Number.plain_hex _)
    · apply register?_eq_none_of_mem (c := '(') (by decide) (by decide)
      simp

lemma register?_relative (i : Instruction) (d : ℤ) :
    register? (Piece.chars [relative {} i "." d]) = none := by
  rw [Piece.chars_singleton]
  change register? ("." ++ Number.offset _).toList = none
  rw [String.toList_append]
  rfl

lemma register?_operand (hi : i.mnemonic.isTransfer = false)
    (ho : ∀ r ∈ o.register?, r ∈ Register.common) : register? (operandChars i o) = o.register? := by
  have hindirection : indirection i o = [] := by
    rw [indirection, hi]
    rfl
  rw [operandChars, operand.eq_def, hindirection, List.nil_append]
  cases o with
  | register r =>
    have hr := ho r rfl
    have hplain := Register.plain_name (Register.file_ne_fpu_of_mem_common r hr)
    rw [chars_register, register?, if_pos hplain, String.ofList_toList, Register.ofName?_name hr]
    rfl
  | memory m => exact register?_memory i m
  | immediate v w =>
    rw [Piece.chars_singleton, String.toList_append]
    rfl
  | far w s t =>
    rw [Piece.chars_cons, String.toList_append]
    rfl
  | short d => exact register?_relative i d
  | near w d => exact register?_relative i d

end Format.Att

structure Instruction.Common (i : Instruction) : Prop where
  legible : i.Legible
  transfer : i.mnemonic.isTransfer = false
  registers : ∀ r ∈ i.registerOperands, r ∈ Register.common

namespace Instruction

open Format.Att

lemma operandChars_att (i : Instruction) : i.operandChars .att =
    [','].intercalate (i.operands.reverse.map (Format.Att.operandChars i)) := by
  rw [operandChars, Dialect.operands, Format.Att.operands, Piece.chars_separated, List.map_map]
  rfl

lemma parts_operandChars (hi : i.Common) (hne : i.operands ≠ []) :
    marks.parts false (i.operandChars .att) =
      i.operands.reverse.map (Format.Att.operandChars i) := by
  rw [operandChars_att]
  refine Marks.parts_intercalate (k := marks) (by simpa using hne) fun cs hcs => ?_
  obtain ⟨o, ho, rfl⟩ := List.mem_map.mp hcs
  have hlegible := hi.legible.operands o (List.mem_reverse.mp ho)
  refine closed_operand hlegible ?_
  rintro w s t rfl
  have htransfer := Mnemonic.isTransfer_of_isFar hlegible.2
  rw [hi.transfer] at htransfer
  cases htransfer

lemma registerOperands_of_parts (hi : i.Common) :
    (i.operands.reverse.map (Format.Att.operandChars i)).filterMap register? =
      i.registerOperands.reverse := by
  rw [List.filterMap_map, List.filterMap_reverse, registerOperands]
  congr 1
  refine List.filterMap_congr fun o ho => ?_
  refine register?_operand hi.transfer fun r hr => ?_
  exact hi.registers r (List.mem_filterMap.mpr ⟨o, ho, hr⟩)

lemma registerOperands_eq_of_operandChars (hi : i.Common) (hj : j.Common) (hine : i.operands ≠ [])
    (hjne : j.operands ≠ []) (h : i.operandChars .att = j.operandChars .att) :
    i.registerOperands = j.registerOperands := by
  have hparts : (marks.parts false (i.operandChars .att)).filterMap register? =
      (marks.parts false (j.operandChars .att)).filterMap register? := by rw [h]
  rwa [parts_operandChars hi hine, parts_operandChars hj hjne, registerOperands_of_parts hi,
    registerOperands_of_parts hj, List.reverse_inj] at hparts

end Instruction

end X86
