import Mathlib
import X86.OpcodeRecord

namespace X86

namespace OperandShape

def addressed : OperandShape → Bool
  | rm _ | rmSplit _ _ | memory _ | vectorRm _ | mmxRm _ | boundRm => true
  | _ => false

def trails : OperandShape → Bool
  | immediate _ | signedByte _ | relativeByte | relative | farAddress | direct _ | vectorTail =>
    true
  | _ => false

def isDirect : OperandShape → Bool
  | direct _ => true
  | _ => false

lemma trailingBytes_of_not_trails {s : OperandShape} (hs : s.trails = false) (z a : Size) :
    s.trailingBytes z a = 0 := by
  cases s with
  | immediate w | signedByte w | relativeByte | relative | farAddress | direct w | vectorTail =>
    cases hs
  | _ => rfl

lemma not_trails_of_addressed {s : OperandShape} (hs : s.addressed = true) : s.trails = false := by
  cases s with
  | rm w | rmSplit w v | memory w | vectorRm w | mmxRm w | boundRm => rfl
  | _ => cases hs

end OperandShape

/-- An entry has an operand for the address in its ModR/M byte, and no other address. -/
@[mk_iff]
structure Leaf.Consistent (l : Leaf) : Prop where
  addressed : l.hasMemoryForm = true → l.entry.alwaysRegister = false →
    l.entry.operands.any OperandShape.addressed = true
  direct : l.usesModRM = true → l.entry.operands.any OperandShape.isDirect = false
  register : l.entry.alwaysRegister = true → l.entry.operands.any OperandShape.memoryOnly = false
  exchange : l.entry.exception = .exchangeOrNop →
    l.usesModRM = false ∧ l.entry.operands.any OperandShape.trails = false

instance (l : Leaf) : Decidable l.Consistent := decidable_of_iff _ (Leaf.consistent_iff l).symm

lemma OpcodeMap.consistent_of_table (m : OpcodeMap) :
    ∀ t ∈ m.table, ∀ l ∈ t.leaves {}, l.Consistent := by
  cases m <;> decide +kernel

lemma Opcode.forall_tree {P : DecodeTree → Prop} (hundefined : P .undefined)
    (htable : ∀ m : OpcodeMap, ∀ t ∈ m.table, P t) (o : Opcode) : P o.tree := by
  unfold Opcode.tree
  rcases lt_or_ge o.byte.toNat o.map.table.length with hb | hb
  · rw [List.getD_eq_getElem _ _ hb]
    exact htable o.map _ (List.getElem_mem hb)
  · rwa [List.getD_eq_default _ _ hb]

lemma Opcode.forall_leaves {P : Leaf → Prop}
    (hP : ∀ m : OpcodeMap, ∀ t ∈ m.table, ∀ l ∈ t.leaves {}, P l) {o : Opcode} {l : Leaf}
    (hl : l ∈ o.tree.leaves {}) : P l :=
  forall_tree (P := fun t => ∀ l ∈ t.leaves {}, P l) (by simp [DecodeTree.leaves]) hP o l hl

lemma Opcode.consistent_of_leaves {o : Opcode} {l : Leaf} (hl : l ∈ o.tree.leaves {}) :
    l.Consistent :=
  forall_leaves OpcodeMap.consistent_of_table hl

end X86
