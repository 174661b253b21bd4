import Mathlib
import X86.Dispatch
import X86.Proofs.TableWrites

/-! The table unfolds into the tree under each opcode: a link leads from the place of a tree to the
places of its branches, with at most four links on the way to a leaf. -/

namespace X86

def DecodeTree.atRm : DecodeTree → ℕ → DecodeTree
  | byRm next, i => next (Fin.ofNat 8 i)
  | t, _ => t

namespace Selector

def isAskedBy : Selector → DecodeTree → Bool
  | reg, .byReg _ => true
  | form, .byForm _ _ => true
  | rm, .byRm _ => true
  | slot, .bySlot _ => true
  | escape, .byForm (.byReg _) (.byReg _) => true
  | mode, .byMode _ _ => true
  | vex, .byVex _ _ => true
  | vexLength, .byVexLength _ _ => true
  | _, _ => false

inductive Asks : Selector → DecodeTree → Prop
  | reg (next : Fin 8 → DecodeTree) : Asks reg (.byReg next)
  | form (memory register : DecodeTree) : Asks form (.byForm memory register)
  | rm (next : Fin 8 → DecodeTree) : Asks rm (.byRm next)
  | slot (next : PrefixSlot → DecodeTree) : Asks slot (.bySlot next)
  | escape (memory register : Fin 8 → DecodeTree) :
    Asks escape (.byForm (.byReg memory) (.byReg register))
  | mode (legacy long : DecodeTree) : Asks mode (.byMode legacy long)
  | vex (legacy extended : DecodeTree) : Asks vex (.byVex legacy extended)
  | vexLength (short long : DecodeTree) : Asks vexLength (.byVexLength short long)

lemma asks_of_isAskedBy {s : Selector} {tree : DecodeTree} (hs : s.isAskedBy tree = true) :
    s.Asks tree := by
  rw [isAskedBy.eq_def] at hs
  split at hs
  case h_9 => cases hs
  all_goals constructor

def branch : Selector → DecodeTree → ℕ → DecodeTree
  | reg, .byReg next, i => next (Fin.ofNat 8 i)
  | form, .byForm memory register, i => if i = 0 then memory else register
  | rm, .byRm next, i => next (Fin.ofNat 8 i)
  | slot, .bySlot next, i => next (.ofNumber (Fin.ofNat 4 i))
  | escape, .byForm (.byReg memory) (.byReg register), i =>
    if i < 8 then memory (Fin.ofNat 8 i)
    else (register (Fin.ofNat 8 ((i - 8) / 8))).atRm ((i - 8) % 8)
  | mode, .byMode legacy long, i => if i = 0 then legacy else long
  | vex, .byVex legacy extended, i => if i = 0 then legacy else extended
  | vexLength, .byVexLength short long, i => if i = 0 then short else long
  | _, _, _ => .undefined

end Selector

namespace FlatTable

/-- A place where a tree is found, with a number of links at most between it and any leaf. -/
inductive Unfolds (t : FlatTable) : ℕ → ℕ → DecodeTree → Prop
  | undefined {hops place : ℕ} (h : t[place]? = some .undefined) : Unfolds t hops place .undefined
  | leaf {hops place : ℕ} {e : Entry} (h : t[place]? = some (.leaf e)) :
    Unfolds t hops place (.leaf e)
  | link {hops place base : ℕ} {s : Selector} {tree : DecodeTree}
    (h : t[place]? = some (.link s base)) (hs : s.isAskedBy tree = true)
    (hnext : ∀ i < s.span, Unfolds t hops (base + i) (s.branch tree i)) :
    Unfolds t (hops + 1) place tree

def unfoldsTo (cell : ℕ → Cell) (hops place : ℕ) (tree : DecodeTree) : Bool :=
  match cell place with
  | .undefined => !tree.isDefined
  | .leaf e =>
    match tree with
    | .leaf f => e == f
    | _ => false
  | .link s base =>
    match hops with
    | 0 => false
    | hops + 1 => s.isAskedBy tree && decide (base + s.span ≤ Block.total) &&
      (List.range s.span).all fun i => unfoldsTo cell hops (base + i) (s.branch tree i)

lemma unfolds_of_unfoldsTo {t : FlatTable} {cell : ℕ → Cell}
    (hcell : ∀ place < Block.total, t[place]? = some (cell place)) {hops place : ℕ}
    {tree : DecodeTree} (hplace : place < Block.total)
    (h : unfoldsTo cell hops place tree = true) : t.Unfolds hops place tree := by
  -- on the links that may be followed, of which the test spends one at a link
  induction hops using Nat.strong_induction_on generalizing place tree with
  | h hops ih =>
    have hat := hcell place hplace
    rw [unfoldsTo.eq_def] at h
    cases hc : cell place with
    | undefined =>
      rw [hc] at h hat
      cases tree with
      | undefined => exact .undefined hat
      | _ => cases h
    | leaf e =>
      rw [hc] at h hat
      cases tree with
      | leaf f =>
        obtain rfl : e = f := eq_of_beq h
        exact .leaf hat
      | _ => cases h
    | link s base =>
      rw [hc] at h hat
      cases hops with
      | zero => cases h
      | succ hops =>
        simp only [Bool.and_eq_true, decide_eq_true_eq, List.all_eq_true, List.mem_range] at h
        obtain ⟨⟨hs, hbase⟩, hnext⟩ := h
        exact .link hat hs fun i hi => ih hops (Nat.lt_succ_self hops) (by omega) (hnext i hi)

lemma unfoldsTo_table : (OpcodeMap.all.all fun m =>
    (m.table.zipIdx m.block.base).all fun p => unfoldsTo sorted.find 4 p.2 p.1) = true := by
  decide +kernel

lemma unfolds_opcodes (o : Opcode) : opcodes.Unfolds 4 o.place o.tree := by
  have hbyte : o.byte.toNat < o.map.table.length := by
    rw [OpcodeMap.length_table]
    exact o.byte.toNat_lt
  have hplace : o.place < Block.total := by
    have hbase : ∀ m : OpcodeMap, m.block.base + 256 ≤ Block.total := by
      intro m
      cases m <;> decide
    have := hbase o.map
    have := o.byte.toNat_lt
    rw [Opcode.place]
    omega
  have htree : o.tree = o.map.table[o.byte.toNat] := List.getD_eq_getElem _ _ hbyte
  have hmem : (o.tree, o.place) ∈ o.map.table.zipIdx o.map.block.base := by
    rw [Opcode.place, List.mk_add_mem_zipIdx_iff_getElem?, htree]
    exact List.getElem?_eq_getElem hbyte
  have hall := List.all_eq_true.mp unfoldsTo_table o.map (by cases o.map <;> decide)
  exact unfolds_of_unfoldsTo (fun _ => getElem?_opcodes) hplace (List.all_eq_true.mp hall _ hmem)

end FlatTable

end X86
