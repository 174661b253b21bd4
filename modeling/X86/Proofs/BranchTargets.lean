import Mathlib
import X86.Proofs.Legibility

/-! Relative branches: their targets, and the two forms in which their text names them. -/

namespace X86

open Numeral Reading

variable {mode : Mode} {strictLock : Bool} {bytes : List UInt8} {i : Instruction} {o : Operand}
  {d : ℤ} {dialect : Dialect} {options : FormatOptions}

def OperandShape.isDistance : OperandShape → Bool
  | relativeByte | relative => true
  | _ => false

def Entry.Branches (e : Entry) : Prop :=
  e.operands.any OperandShape.isDistance = true → e.operands.length ≤ 1 ∧ e.longSize = .always

instance (e : Entry) : Decidable e.Branches :=
  inferInstanceAs (Decidable (e.operands.any OperandShape.isDistance = true →
    e.operands.length ≤ 1 ∧ e.longSize = .always))

lemma OpcodeMap.branches_of_table (m : OpcodeMap) :
    ∀ t ∈ m.table, ∀ l ∈ t.leaves {}, l.entry.Branches := by
  cases m <;> decide +kernel

namespace Fields

variable {x : Fields} {shape : OperandShape} {c : Cursor}

lemma distance?_field? (shape : OperandShape) : (x.field? shape).bind Operand.distance? = none := by
  cases hm : x.memory <;> cases shape <;>
    simp [field?, memoryOr, memoryAt, hm, Operand.distance?, vector, general, stack, mmx, bound]

lemma isDistance_of_distance? (ho : o ∈ (x.operand c shape).1) (hd : o.distance? = some d) :
    shape.isDistance = true := by
  cases ht : shape.trails with
  | false =>
    rw [operand_of_not_trails ht] at ho
    have ho : x.field? shape = some o := ho
    have hnone := x.distance?_field? shape
    rw [ho, Option.bind_some, hd] at hnone
    cases hnone
  | true =>
    cases shape with
    | relativeByte | relative => rfl
    | immediate w | signedByte w | farAddress | direct w | vectorTail =>
      obtain rfl := Option.some.inj ho
      cases hd
    | _ => cases ht

end Fields

lemma Operand.Legible.distance (ho : o.Legible i) (hd : o.distance? = some d) :
    -(2 ^ 63) ≤ i.length + d ∧ i.length + d < 2 ^ 63 := by
  cases o with
  | short d' | near w d' =>
    obtain rfl : d' = d := Option.some.inj hd
    exact ho
  | _ => cases hd

namespace Instruction

lemma targetBits_of_isGeneral (hz : i.operandSize.IsGeneral) :
    i.targetBits = i.operandSize.bits := by
  rcases hz with h | h | h <;> simp [targetBits, h, Size.bits]

lemma branch_of_distance? (hi : decode mode strictLock bytes = .ok i) (ho : o ∈ i.operands)
    (hd : o.distance? = some d) :
    i.operands = [o] ∧ i.targetBits = i.operandSize.bits ∧
      (mode = .bits64 → i.operandSize = .qword) := by
  obtain ⟨e, he, rfl⟩ := decode_eq_ok.mp hi
  have hdistance : e.entry.operands.any OperandShape.isDistance = true := by
    rw [Encoding.extract_operands] at ho
    obtain ⟨shape, hshape, c, ho⟩ := Fields.exists_of_mem_operands ho
    exact List.any_eq_true.mpr ⟨shape, Encoding.mem_operands_of_shapes hshape,
      Fields.isDistance_of_distance? ho hd⟩
  obtain ⟨hone, hlong⟩ := Encoding.entry_of_scan OpcodeMap.branches_of_table he hdistance
  refine ⟨?_, targetBits_of_isGeneral (Encoding.sized_of_scan he).operandSize, fun hmode => ?_⟩
  · have hlength := (e.length_operands_le mode bytes).trans hone
    obtain ⟨o', ho'⟩ := List.length_eq_one_iff.mp
      (le_antisymm hlength (List.length_pos_of_mem ho))
    rw [ho', List.mem_singleton] at ho
    rw [ho', ho]
  · obtain ⟨h, c, s, c', -, -, rfl⟩ := Encoding.scan_eq_ok.mp he
    have hlong : s.entry.longSize = .always := hlong
    change s.operandSize mode h = .qword
    rw [Selection.operandSize, hmode, hlong]
    rfl

lemma branchTarget?_eq_none (h : ∀ o ∈ i.operands, o.distance? = none) (a : ℕ) :
    i.branchTarget? a = none := by
  rw [branchTarget?, List.findSome?_eq_none_iff.mpr h, Option.map_none]

lemma exists_branchTarget? (hops : i.operands = [o]) (hd : o.distance? = some d) (a : ℕ) :
    ∃ target : ℕ, i.branchTarget? a = some target ∧
      (target : ℤ) = (a + i.length + d) % 2 ^ i.targetBits := by
  have htarget : i.branchTarget? a =
      some ((a + i.length + d : ℤ) % (1 <<< i.targetBits : ℕ)).toNat := by
    simp [branchTarget?, hops, hd]
  refine ⟨_, htarget, ?_⟩
  rw [Nat.one_shiftLeft, Nat.cast_pow, Nat.cast_ofNat]
  exact Int.toNat_of_nonneg (Int.emod_nonneg _ (by positivity))

end Instruction

def Dialect.here : Dialect → Char
  | intel => '$'
  | att => '.'

namespace Token

def relative? : Token → Option String
  | semantic .relative t => some t
  | _ => none

def relatives (ts : List Token) : List String := ts.filterMap relative?

lemma relatives_ofPiece (p : Piece) :
    relatives (ofPiece p) = if p.kind = .relative then [p.text] else [] := by
  obtain ⟨kind, t⟩ := p
  cases kind with
  | separator =>
    rw [if_neg (by simp), ofPiece, ofSeparator]
    split_ifs <;> rfl
  | symbol =>
    rw [if_neg (by simp), ofPiece, ofSymbol]
    split_ifs <;> rfl
  | _ => rfl

lemma relatives_ofPieces (ps : List Piece) :
    relatives (ofPieces ps) = (ps.filter (·.kind = .relative)).map Piece.text := by
  induction ps with
  | nil => rfl
  | cons p ps ih =>
    rw [relatives] at ih ⊢
    rw [ofPieces, List.flatMap_cons, List.filterMap_append, ← ofPieces, ih]
    change relatives (ofPiece p) ++ _ = _
    rw [relatives_ofPiece]
    by_cases hp : p.kind = .relative <;> simp [hp]

end Token

namespace Instruction

def relatives (dialect : Dialect) (options : FormatOptions) (i : Instruction) : List String :=
  Token.relatives (Token.ofPieces (i.render dialect options))

lemma filter_relative_prefixes (i : Instruction) :
    (Format.prefixes i).filter (·.kind = .relative) = [] := by
  rw [List.filter_eq_nil_iff, Format.prefixes]
  intro p hp
  obtain ⟨x, -, hp⟩ := List.mem_flatMap.mp hp
  dsimp only at hp
  split at hp
  · rcases List.mem_pair.mp hp with rfl | rfl <;> simp
  · cases hp

lemma operands_of_distance? (hops : i.operands = [o]) (hd : o.distance? = some d) :
    dialect.operands options i =
      [Format.relative options i (String.singleton dialect.here) d] := by
  cases o with
  | short d' | near w d' =>
    obtain rfl : d' = d := Option.some.inj hd
    cases dialect with
    | intel =>
      rw [Dialect.operands, Format.Intel.operands, hops]
      rfl
    | att =>
      simp [Dialect.operands, Format.Att.operands, Format.separated, hops, Format.Att.operand,
        Format.Att.indirection, Operand.isRegister, Operand.isMemory]
      rfl
  | _ => cases hd

lemma relatives_of_distance? (hops : i.operands = [o]) (hd : o.distance? = some d)
    (hfull : options.mnemonicOnly = false) : i.relatives dialect options =
      [(Format.relative options i (String.singleton dialect.here) d).text] := by
  have hkind : (Format.relative options i (String.singleton dialect.here) d).kind = .relative := by
    rw [Format.relative]
    split <;> rfl
  have hempty : i.operands.isEmpty = false := by rw [hops]; rfl
  rw [relatives, Token.relatives_ofPieces, render, if_neg (by simp [hfull]), hempty,
    operands_of_distance? hops hd, List.filter_append, filter_relative_prefixes]
  simp [Format.mnemonic, hkind]

/-- A relative branch has one operand, and its target is the sum of its address, its length and its
distance at the operand size. Either dialect writes the target, or where the address is not known
its distance from the branch itself. Nothing else has a target. -/
theorem branch_of_decode (hi : decode mode strictLock bytes = .ok i) :
    ((∀ o ∈ i.operands, o.distance? = none) → ∀ a, i.branchTarget? a = none) ∧
      ∀ o ∈ i.operands, ∀ d, o.distance? = some d →
        i.operands = [o] ∧ i.targetBits = i.operandSize.bits ∧
        (mode = .bits64 → i.operandSize = .qword) ∧
        (∀ a : ℕ, ∃ target : ℕ, i.branchTarget? a = some target ∧
          (target : ℤ) = (a + i.length + d) % 2 ^ i.targetBits ∧
          ∀ dialect, ∀ options : FormatOptions, options.mnemonicOnly = false → ∃ t,
            i.relatives dialect { options with address := some a } = [t] ∧
            number? t.toList = some target) ∧
        ∀ dialect, ∀ options : FormatOptions, options.mnemonicOnly = false → ∃ t cs r,
          i.relatives dialect { options with address := none } = [t] ∧
          behind? dialect.here t = some cs ∧ offset? cs = some r ∧ (cs = [] ↔ r = 0) ∧
          ∀ a : ℕ, ∀ target ∈ i.branchTarget? a, (target : ℤ) = (a + r) % 2 ^ i.targetBits := by
  refine ⟨branchTarget?_eq_none, fun o ho d hd => ?_⟩
  obtain ⟨hops, hbits, hlong⟩ := branch_of_distance? hi ho hd
  refine ⟨hops, hbits, hlong, fun a => ?_, fun dialect options hfull => ?_⟩
  · obtain ⟨target, htarget, hvalue⟩ := exists_branchTarget? hops hd a
    refine ⟨target, htarget, hvalue, fun dialect options hfull => ?_⟩
    refine ⟨_, relatives_of_distance? hops hd hfull, ?_⟩
    simp only [Format.relative, Option.bind_some, htarget]
    exact Number.number?_hex target
  · obtain ⟨hlow, hhigh⟩ := ((legible_of_decode hi).operands o ho).distance hd
    refine ⟨_, _, i.length + d, relatives_of_distance? hops hd hfull,
      behind?_relative _ dialect.here (by cases dialect <;> rfl) hlow hhigh,
      Number.offset?_offset _, Number.toList_offset_eq_nil, fun a target htarget => ?_⟩
    obtain ⟨target', htarget', hvalue⟩ := exists_branchTarget? hops hd a
    obtain rfl : target' = target := Option.some.inj (htarget'.symm.trans htarget)
    rw [hvalue, add_assoc]

theorem branch_of_decode_jmp : ∃ i, decode .bits16 false [0xE9, 0xF0, 0xFF] = .ok i ∧
    i.operands = [.near .word (-16)] ∧ i.branchTarget? 8 = some 0xFFFB ∧
    ∃ t, i.relatives .intel { address := some 8 } = [t] ∧ number? t.toList = some 0xFFFB := by
  have hi : decode .bits16 false [0xE9, 0xF0, 0xFF] = .ok ⟨.general .JMP, false, 3, none, .none,
    .word, .word, [.near .word (-16)]⟩ := rfl
  obtain ⟨-, hbranch⟩ := branch_of_decode hi
  obtain ⟨hops, -, -, htargets, -⟩ := hbranch _ List.mem_cons_self (-16) rfl
  obtain ⟨target, htarget, hvalue, htext⟩ := htargets 8
  obtain rfl : target = 0xFFFB := by
    norm_num [targetBits] at hvalue
    omega
  exact ⟨_, hi, hops, htarget, htext .intel {} rfl⟩

end Instruction

end X86
