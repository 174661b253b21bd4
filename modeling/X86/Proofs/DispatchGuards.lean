import Mathlib
import X86.Proofs.TableTrees

/-! The guards of the walks through the table never stop one: a leaf is reached behind four links at
most, inside the table. So both walks do without them, and find what is in the trees. -/

namespace X86

variable {t : FlatTable} {hops place room : ℕ} {tree : DecodeTree} {s : Selector}

lemma DecodeTree.eq_undefined_of_isDefined (h : tree.isDefined = false) : tree = .undefined := by
  cases tree with
  | undefined => rfl
  | _ => cases h

structure Choice where
  modrm : ModRM
  slot : PrefixSlot
  long : Bool
  vex : Bool
  vexLong : Bool

namespace Selector

def index (c : Choice) : Selector → ℕ
  | reg => c.modrm.reg
  | form => c.modrm.isRegister.toNat
  | rm => c.modrm.rm
  | slot => c.slot.number
  | escape => c.modrm.escapeIndex
  | mode => c.long.toNat
  | vex => c.vex.toNat
  | vexLength => c.vexLong.toNat

end Selector

lemma PrefixSlot.number_lt (s : PrefixSlot) : s.number < 4 := by
  cases s <;> decide

lemma ModRM.escapeIndex_lt (m : ModRM) : m.escapeIndex < 72 := by
  have := m.reg.isLt
  have := m.rm.isLt
  rw [escapeIndex]
  split <;> omega

lemma Selector.index_lt_span (c : Choice) (s : Selector) : s.index c < s.span := by
  cases s with
  | reg => exact c.modrm.reg.isLt
  | form => exact Bool.toNat_lt _
  | rm => exact c.modrm.rm.isLt
  | slot => exact c.slot.number_lt
  | escape => exact c.modrm.escapeIndex_lt
  | mode => exact Bool.toNat_lt _
  | vex => exact Bool.toNat_lt _
  | vexLength => exact Bool.toNat_lt _

namespace FlatTable

inductive Reaches (t : FlatTable) (c : Choice) : ℕ → ℕ → Cell → Prop
  | here {place : ℕ} {cell : Cell} (h : t[place]? = some cell) (hcell : cell.isLink = false) :
    Reaches t c 0 place cell
  | there {hops place base : ℕ} {s : Selector} {cell : Cell} (h : t[place]? = some (.link s base))
    (hnext : Reaches t c hops (base + s.index c) cell) : Reaches t c (hops + 1) place cell

lemma Unfolds.exists_reaches (ht : t.Unfolds hops place tree) (c : Choice) :
    ∃ k ≤ hops, ∃ cell, t.Reaches c k place cell := by
  induction ht with
  | undefined h => exact ⟨0, Nat.zero_le _, _, .here h rfl⟩
  | leaf h => exact ⟨0, Nat.zero_le _, _, .here h rfl⟩
  | link h hs hnext ih =>
    obtain ⟨k, hk, cell, hcell⟩ := ih _ (Selector.index_lt_span c _)
    exact ⟨k + 1, Nat.succ_le_succ hk, cell, .there h hcell⟩

lemma Unfolds.isDefinedAt (ht : t.Unfolds hops place tree) :
    t.isDefinedAt place = tree.isDefined := by
  cases ht with
  | undefined h => rw [FlatTable.isDefinedAt, h]; rfl
  | leaf h => rw [FlatTable.isDefinedAt, h]; rfl
  | link h hs hnext =>
    rw [FlatTable.isDefinedAt, h]
    cases Selector.asks_of_isAskedBy hs <;> rfl

end FlatTable

section

variable {mode : Mode} {h : Head} {k : ℕ → Option ModRM → Option PrefixSlot → Scan Selection}
  {defined : PrefixSlot → Bool}

lemma DecodeTree.select_atRm (tree : DecodeTree) (m : ModRM) (sl : Option PrefixSlot) :
    (tree.atRm m.rm).select mode h (some m) sl = tree.select mode h (some m) sl := by
  cases tree with
  | byRm next =>
    rw [atRm, Fin.ofNat_val_eq_self]
    rfl
  | _ => rfl

lemma PrefixSlot.ofNumber_number (s : PrefixSlot) : ofNumber (Fin.ofNat 4 s.number) = s := by
  cases s <;> rfl

lemma Head.slotWhere_eq {next : PrefixSlot → DecodeTree}
    (hdefined : ∀ slot, defined slot = (next slot).isDefined) :
    h.slotWhere defined = h.slot next := by
  obtain rfl : defined = fun slot => (next slot).isDefined := funext hdefined
  rfl

lemma select_toNat {left right : DecodeTree} (hleft : k 0 = left.select mode h)
    (hright : k 1 = right.select mode h) (b : Bool) (m : Option ModRM) (sl : Option PrefixSlot) :
    k b.toNat m sl = if b then right.select mode h m sl else left.select mode h m sl := by
  cases b with
  | false => exact congrFun (congrFun hleft m) sl
  | true => exact congrFun (congrFun hright m) sl

namespace Selector

section

variable (memory register : Fin 8 → DecodeTree)

lemma branch_escape_memory (r : Fin 8) :
    escape.branch (.byForm (.byReg memory) (.byReg register)) r = memory r := by
  rw [branch, if_pos r.isLt, Fin.ofNat_val_eq_self]

lemma branch_escape_register (r m : Fin 8) :
    escape.branch (.byForm (.byReg memory) (.byReg register)) (8 + (8 * r + m)) =
      (register r).atRm m := by
  have hquot : (8 + (8 * r.val + m.val) - 8) / 8 = r.val := by omega
  have hrest : (8 + (8 * r.val + m.val) - 8) % 8 = m.val := by omega
  rw [branch, if_neg (by omega), hquot, hrest, Fin.ofNat_val_eq_self]

lemma branch_escapeIndex (m : ModRM) :
    escape.branch (.byForm (.byReg memory) (.byReg register)) m.escapeIndex =
      if m.isRegister then (register m.reg).atRm m.rm else memory m.reg := by
  rw [ModRM.escapeIndex]
  split
  · exact branch_escape_register memory register m.reg m.rm
  · exact branch_escape_memory memory register m.reg

end

lemma scan_eq_select (hs : s.isAskedBy tree = true)
    (hk : ∀ i < s.span, k i = (s.branch tree i).select mode h)
    (hdefined : s = slot → ∀ sl, defined sl = (s.branch tree sl.number).isDefined)
    (m : Option ModRM) (sl : Option PrefixSlot) :
    s.scan mode h defined m sl k = tree.select mode h m sl := by
  cases asks_of_isAskedBy hs with
  | reg next =>
    have hnext (m : ModRM) : k m.reg = (next m.reg).select mode h := by
      rw [hk _ m.reg.isLt, branch, Fin.ofNat_val_eq_self]
    simp only [scan, DecodeTree.select, hnext]
  | form memory register =>
    have hform := select_toNat (hk 0 (by decide)) (hk 1 (by decide))
    exact congrArg (ModRM.scan m) (funext fun m => hform m.isRegister (some m) sl)
  | rm next =>
    have hnext (m : ModRM) : k m.rm = (next m.rm).select mode h := by
      rw [hk _ m.rm.isLt, branch, Fin.ofNat_val_eq_self]
    simp only [scan, DecodeTree.select, hnext]
  | slot next =>
    have hnext (sl : PrefixSlot) : slot.branch (.bySlot next) sl.number = next sl := by
      rw [branch, sl.ofNumber_number]
    have hslot : h.slotWhere defined = h.slot next :=
      Head.slotWhere_eq fun sl => by rw [hdefined rfl, hnext]
    rw [scan, DecodeTree.select, hslot, hk _ (PrefixSlot.number_lt _), hnext]
  | escape memory register =>
    refine congrArg (ModRM.scan m) (funext fun m => ?_)
    rw [hk _ m.escapeIndex_lt, branch_escapeIndex]
    cases m.isRegister with
    | false => rfl
    | true => exact DecodeTree.select_atRm _ m sl
  | mode | vex | vexLength => exact select_toNat (hk 0 (by decide)) (hk 1 (by decide)) _ m sl

end Selector

namespace FlatTable

variable {g : Guards (Scan Selection)}

lemma Unfolds.selectWithin_eq (ht : t.Unfolds hops place tree) (hroom : hops ≤ room) :
    t.selectWithin g mode h room place = tree.select mode h := by
  induction ht generalizing room with
  | undefined h =>
    funext m sl
    cases room <;> rw [selectWithin, look, h, DecodeTree.select]
  | leaf h =>
    funext m sl
    cases room <;> rw [selectWithin, look, h, DecodeTree.select]
  | link h hs hnext ih =>
    obtain ⟨room, rfl⟩ := Nat.exists_eq_succ_of_ne_zero (by omega : room ≠ 0)
    funext m sl
    rw [selectWithin, look, h]
    exact Selector.scan_eq_select hs (fun i hi => ih i hi (by omega))
      (fun hslot sl => (hnext _ (by rw [hslot]; exact sl.number_lt)).isDefinedAt) m sl

end FlatTable

end

structure Alike {α : Type} (xs ys : List α) : Prop where
  head : xs.head? = ys.head?
  mem : ∀ x, x ∈ xs ↔ x ∈ ys

namespace Alike

variable {α β : Type} {xs ys xs' ys' : List α}

lemma refl (xs : List α) : Alike xs xs := ⟨rfl, fun _ => Iff.rfl⟩

lemma trans {zs : List α} (h : Alike xs ys) (h' : Alike ys zs) : Alike xs zs :=
  ⟨h.head.trans h'.head, fun x => (h.mem x).trans (h'.mem x)⟩

lemma append (h : Alike xs ys) (h' : Alike xs' ys') : Alike (xs ++ xs') (ys ++ ys') where
  head := by rw [List.head?_append, List.head?_append, h.head, h'.head]
  mem x := by rw [List.mem_append, List.mem_append, h.mem, h'.mem]

lemma flatMap {l : List β} {f f' : β → List α} (h : ∀ b ∈ l, Alike (f b) (f' b)) :
    Alike (l.flatMap f) (l.flatMap f') := by
  induction l with
  | nil => exact refl _
  | cons b l ih =>
    obtain ⟨hb, hl⟩ := List.forall_mem_cons.mp h
    rw [List.flatMap_cons, List.flatMap_cons]
    exact hb.append (ih hl)

lemma flatMap_pair (f : β → List α) (b c : β) : Alike ([b, c].flatMap f) (f b ++ f c) := by
  rw [List.flatMap_cons, List.flatMap_singleton]
  exact refl _

lemma flatMap_const {l : List β} (hl : l ≠ []) (xs : List α) :
    Alike (l.flatMap fun _ => xs) xs where
  head := by
    obtain ⟨b, l, rfl⟩ := List.exists_cons_of_ne_nil hl
    cases xs with
    | nil => simp
    | cons x xs => rw [List.flatMap_cons, List.cons_append]; rfl
  mem x := by
    obtain ⟨b, l, rfl⟩ := List.exists_cons_of_ne_nil hl
    simp

end Alike

variable {p : DecodePath}

lemma DecodeTree.leaves_atRm (hp : p.modrm = true) (tree : DecodeTree) :
    Alike ((List.finRange 8).flatMap fun m : Fin 8 => (tree.atRm m).leaves p) (tree.leaves p) := by
  cases tree with
  | byRm next =>
    have hp' : { p with modrm := true } = p := by rw [← hp]
    simp only [atRm, Fin.ofNat_val_eq_self, leaves, hp']
    exact Alike.refl _
  | _ => exact Alike.flatMap_const (by simp) _

namespace Selector

lemma map_fst_branches (s : Selector) (p : DecodePath) :
    (s.branches p).map Prod.fst = List.range s.span := by
  cases s <;> rfl

lemma lt_span_of_mem_branches {b : ℕ × DecodePath} (hb : b ∈ s.branches p) : b.1 < s.span := by
  rw [← List.mem_range, ← map_fst_branches s p]
  exact List.mem_map_of_mem hb

def leaves (s : Selector) (tree : DecodeTree) (p : DecodePath) : List Leaf :=
  (s.branches p).flatMap fun b => (s.branch tree b.1).leaves b.2

lemma leaves_escape (memory register : Fin 8 → DecodeTree) (p : DecodePath) :
    Alike (escape.leaves (.byForm (.byReg memory) (.byReg register)) p)
      (DecodeTree.leaves (.byForm (.byReg memory) (.byReg register)) p) := by
  have hlow : List.finRange 64 = (List.finRange 8).flatMap fun r : Fin 8 =>
      (List.finRange 8).map fun m : Fin 8 => ⟨8 * r.val + m.val, by omega⟩ := by decide
  rw [leaves, branches, List.flatMap_append, List.flatMap_map, List.flatMap_map, hlow,
    List.flatMap_assoc]
  refine Alike.append (Alike.flatMap fun r _ => ?_) (Alike.flatMap fun r _ => ?_)
  · rw [branch_escape_memory]
    exact Alike.refl _
  · rw [List.flatMap_map]
    refine Alike.trans (Alike.flatMap fun m _ => ?_) (DecodeTree.leaves_atRm rfl (register r))
    have hreg : Fin.ofNat 8 ((8 * r.val + m.val) / 8) = r := by
      rw [show (8 * r.val + m.val) / 8 = r.val by omega, Fin.ofNat_val_eq_self]
    rw [branch_escape_register, hreg]
    exact Alike.refl _

lemma leaves_alike (hs : s.isAskedBy tree = true) (p : DecodePath) :
    Alike (s.leaves tree p) (tree.leaves p) := by
  cases asks_of_isAskedBy hs with
  | reg | rm =>
    simp only [leaves, branches, List.flatMap_map, branch, Fin.ofNat_val_eq_self]
    exact Alike.refl _
  | slot =>
    simp only [leaves, branches, List.flatMap_map, branch, PrefixSlot.ofNumber_number]
    exact Alike.refl _
  | escape memory register => exact leaves_escape memory register p
  | form | mode | vex | vexLength => exact Alike.flatMap_pair _ _ _

end Selector

namespace FlatTable

variable {g : Guards (List Leaf)}

lemma Unfolds.walk_alike (ht : t.Unfolds hops place tree) (hroom : hops < room) (p : DecodePath) :
    Alike (t.walk g room place p) (tree.leaves p) := by
  induction ht generalizing room p with
  | undefined h =>
    obtain ⟨room, rfl⟩ := Nat.exists_eq_succ_of_ne_zero (Nat.ne_zero_of_lt hroom)
    rw [walk, h]
    exact Alike.refl _
  | leaf h =>
    obtain ⟨room, rfl⟩ := Nat.exists_eq_succ_of_ne_zero (Nat.ne_zero_of_lt hroom)
    rw [walk, h]
    exact Alike.refl _
  | link h hs hnext ih =>
    obtain ⟨room, rfl⟩ := Nat.exists_eq_succ_of_ne_zero (Nat.ne_zero_of_lt hroom)
    rw [walk, h]
    refine Alike.trans (Alike.flatMap fun b hb => ?_) (Selector.leaves_alike hs p)
    exact ih b.1 (Selector.lt_span_of_mem_branches hb) (by omega) b.2

lemma Unfolds.walk_congr {g' : Guards (List Leaf)} {room' : ℕ} (ht : t.Unfolds hops place tree)
    (hroom : hops < room) (hroom' : hops < room') (p : DecodePath) :
    t.walk g room place p = t.walk g' room' place p := by
  induction ht generalizing room room' p with
  | undefined h =>
    obtain ⟨room, rfl⟩ := Nat.exists_eq_succ_of_ne_zero (Nat.ne_zero_of_lt hroom)
    obtain ⟨room', rfl⟩ := Nat.exists_eq_succ_of_ne_zero (Nat.ne_zero_of_lt hroom')
    rw [walk, walk, h]
  | leaf h =>
    obtain ⟨room, rfl⟩ := Nat.exists_eq_succ_of_ne_zero (Nat.ne_zero_of_lt hroom)
    obtain ⟨room', rfl⟩ := Nat.exists_eq_succ_of_ne_zero (Nat.ne_zero_of_lt hroom')
    rw [walk, walk, h]
  | link h hs hnext ih =>
    obtain ⟨room, rfl⟩ := Nat.exists_eq_succ_of_ne_zero (Nat.ne_zero_of_lt hroom)
    obtain ⟨room', rfl⟩ := Nat.exists_eq_succ_of_ne_zero (Nat.ne_zero_of_lt hroom')
    rw [walk, walk, h]
    exact List.flatMap_congr fun b hb =>
      ih b.1 (Selector.lt_span_of_mem_branches hb) (by omega) (by omega) b.2

end FlatTable

namespace OpcodeRecord

lemma ofLeaves_congr {o : Opcode} {first : Leaf} {ls ls' : List Leaf}
    (h : ∀ l, l ∈ ls ↔ l ∈ ls') : ofLeaves o first ls = ofLeaves o first ls' := by
  have hany (q : Leaf → Bool) : ls.any q = ls'.any q := by
    rw [Bool.eq_iff_iff, List.any_eq_true, List.any_eq_true]
    simp only [h]
  simp only [ofLeaves, hany]

def ofLeaves? (o : Opcode) (ls : List Leaf) : Option OpcodeRecord :=
  ls.head?.map fun first => ofLeaves o first ls

lemma ofLeaves?_of_alike {o : Opcode} {ls ls' : List Leaf} (h : Alike ls ls') :
    ofLeaves? o ls = ofLeaves? o ls' := by
  rw [ofLeaves?, ofLeaves?, h.head]
  exact congrArg (ls'.head?.map ·) (funext fun first => ofLeaves_congr h.mem)

lemma ofOpcode?_eq (o : Opcode) : ofOpcode? o = ofLeaves? o (o.tree.leaves {}) := by
  rw [ofOpcode?]
  cases o.tree.leaves {} <;> rfl

end OpcodeRecord

namespace FlatTable

section

variable {g : Guards (Scan Selection)} (hlimit : 4 ≤ g.limit)

include hlimit

lemma select_opcodes (mode : Mode) (h : Head) :
    opcodes.select g mode h = h.opcode.tree.select mode h none none := by
  rw [select, (unfolds_opcodes h.opcode).selectWithin_eq hlimit]

lemma scan_opcodes (mode : Mode) (strictLock : Bool) (bytes : List UInt8) :
    opcodes.scan g mode strictLock bytes = Encoding.scan mode strictLock bytes := by
  have hbody : opcodes.scanBody g mode strictLock = Head.scanBody mode strictLock := by
    funext h
    rw [scanBody, Head.scanBody, select_opcodes hlimit]
  rw [scan, Encoding.scan, hbody]

end

lemma record?_eq (g : Guards (List Leaf)) (o : Opcode) : t.record? g o =
    if t.isDefinedAt o.place then OpcodeRecord.ofLeaves? o (t.leaves g o) else none := by
  rw [record?]
  cases t.leaves g o <;> rfl

lemma record?_opcodes {g : Guards (List Leaf)} (hlimit : 4 ≤ g.limit) (o : Opcode) :
    opcodes.record? g o = OpcodeRecord.ofOpcode? o := by
  have hunfolds := unfolds_opcodes o
  have halike : Alike (opcodes.leaves g o) (o.tree.leaves {}) :=
    hunfolds.walk_alike (Nat.lt_succ_of_le hlimit) {}
  rw [record?_eq, OpcodeRecord.ofOpcode?_eq, hunfolds.isDefinedAt]
  cases hdefined : o.tree.isDefined with
  | false =>
    rw [if_neg Bool.false_ne_true, DecodeTree.eq_undefined_of_isDefined hdefined]
    rfl
  | true => rw [if_pos rfl, OpcodeRecord.ofLeaves?_of_alike halike]

lemma leaves_opcodes {g : Guards (List Leaf)} (hlimit : 4 ≤ g.limit) (o : Opcode) :
    opcodes.leaves g o = opcodes.leaves .survey o :=
  (unfolds_opcodes o).walk_congr (Nat.lt_succ_of_le hlimit) (by decide) {}

/-- Every opcode, with every choice, leads to a leaf behind four links at most, and no place on the
way is outside the table. So the guards of the scanner and of the survey never answer: without them,
or with any that leave room for four links, both find what they find in the trees. -/
theorem reaches_and_unguarded :
    (∀ (o : Opcode) (c : Choice), ∃ hops ≤ 4, ∃ cell, opcodes.Reaches c hops o.place cell) ∧
    (∀ g : Guards (Scan Selection), 4 ≤ g.limit → ∀ mode strictLock bytes,
      opcodes.scan g mode strictLock bytes = Encoding.scan mode strictLock bytes) ∧
    (∀ g : Guards (List Leaf), 4 ≤ g.limit → ∀ o,
      opcodes.leaves g o = opcodes.leaves .survey o ∧
        opcodes.record? g o = OpcodeRecord.ofOpcode? o) :=
  ⟨fun o c => (unfolds_opcodes o).exists_reaches c, fun _ => scan_opcodes,
    fun _ hlimit o => ⟨leaves_opcodes hlimit o, record?_opcodes hlimit o⟩⟩

theorem reaches_and_unguarded_endBranch :
    (4 ≤ Guards.scanner.limit ∧ 4 ≤ Guards.survey.limit) ∧
    (∃ hops ≤ 4, ∃ cell, opcodes.Reaches ⟨.ofByte 0xFA, .pF3, true, false, false⟩ hops
      (Opcode.place ⟨.map0F, 0x1E⟩) cell) ∧
    opcodes.scan .scanner .bits64 false [0xF3, 0x0F, 0x1E, 0xFA] =
      Encoding.scan .bits64 false [0xF3, 0x0F, 0x1E, 0xFA] ∧
    opcodes.leaves ⟨4, [], []⟩ ⟨.map0F, 0x1E⟩ = opcodes.leaves .survey ⟨.map0F, 0x1E⟩ ∧
      opcodes.record? ⟨4, [], []⟩ ⟨.map0F, 0x1E⟩ = OpcodeRecord.ofOpcode? ⟨.map0F, 0x1E⟩ :=
  ⟨by decide, reaches_and_unguarded.1 _ _, reaches_and_unguarded.2.1 _ (by decide) _ _ _,
    reaches_and_unguarded.2.2 _ (by decide) _⟩

end FlatTable

end X86
