import Mathlib
import X86.Proofs.ModeDuality
import X86.Proofs.VexPrefixes

/-! What the prefixes 66, F2, F3 and F0 do to the instruction behind them: each has one part, that
of a mandatory prefix or its own. -/

namespace X86

open Cursor Scan PrefixByte

variable {mode : Mode} {strictLock : Bool} {h : Head} {s : Selection} {m : ModRM} {c c' : Cursor}
  {P bytes : List UInt8} {e : Encoding}

def RepeatPrefix.slot : RepeatPrefix → PrefixSlot
  | repz => .pF3
  | repnz => .pF2

namespace PrefixSlot

def ofRepeat (b : UInt8) : PrefixSlot := RepeatPrefix.slot (if b = 0xF3 then .repz else .repnz)

/-- The slot that prefixes select in a row: that of the last F2 or F3 if it is defined there, or
else that of 66 if there is one and it is defined. -/
def selected (P : List UInt8) (next : PrefixSlot → DecodeTree) : PrefixSlot :=
  match (lastIn repeatBytes P).filter fun b => (next (ofRepeat b)).isDefined with
  | some b => ofRepeat b
  | none => if 0x66 ∈ P ∧ (next .p66).isDefined then .p66 else .plain

end PrefixSlot

lemma PrefixByte.eq_of_mem_lastIn {b : UInt8} (hb : b ∈ lastIn repeatBytes P) :
    b = 0xF2 ∨ b = 0xF3 := by
  simpa [repeatBytes] using mem_of_mem_lastIn hb

lemma Head.slot_eq_selected {next : PrefixSlot → DecodeTree} {r : Option Rex} (hv : h.vex = none)
    (hp : h.prefixes = { Prefixes.summary P with rex := r }) :
    h.slot next = PrefixSlot.selected P next := by
  simp only [slot, slotWhere, hv, hp, Prefixes.summary, PrefixSlot.selected]
  cases hb : lastIn repeatBytes P with
  | none => simp
  | some b =>
    rcases eq_of_mem_lastIn hb with rfl | rfl
    · cases hn : (next .pF2).isDefined <;>
        simp [Option.filter, PrefixSlot.ofRepeat, RepeatPrefix.slot, hn]
    · cases hn : (next .pF3).isDefined <;>
        simp [Option.filter, PrefixSlot.ofRepeat, RepeatPrefix.slot, hn]

namespace DecodeTree

def row? (mode : Mode) (vex : Option Vex) (m : ModRM) :
    DecodeTree → Option (PrefixSlot → DecodeTree)
  | undefined | leaf _ => none
  | byReg next => (next m.reg).row? mode vex m
  | byForm memory register =>
    if m.isRegister then register.row? mode vex m else memory.row? mode vex m
  | byRm next => (next m.rm).row? mode vex m
  | bySlot next => some next
  | byMode legacy long => if mode.isLong then long.row? mode vex m else legacy.row? mode vex m
  | byVex legacy vexed => if vex.isSome then vexed.row? mode vex m else legacy.row? mode vex m
  | byVexLength short long =>
    if vex.any Vex.long then long.row? mode vex m else short.row? mode vex m

def rowsAtMost : DecodeTree → ℕ → Bool
  | undefined, _ | leaf _, _ => true
  | byReg next, n | byRm next, n => (List.finRange 8).all fun r => (next r).rowsAtMost n
  | byForm a b, n | byMode a b, n | byVex a b, n | byVexLength a b, n =>
    a.rowsAtMost n && b.rowsAtMost n
  | bySlot _, 0 => false
  | bySlot next, n + 1 => PrefixSlot.all.all fun s => (next s).rowsAtMost n

def Reaches (t : DecodeTree) (e : Entry) : Prop := ∃ p, ∃ l ∈ t.leaves p, l.entry = e

lemma rowsAtMost_succ {t : DecodeTree} {n : ℕ} (ht : t.rowsAtMost n = true) :
    t.rowsAtMost (n + 1) = true := by
  induction t generalizing n with
  | undefined => rfl
  | leaf e => rfl
  | byReg next ih | byRm next ih =>
    exact List.all_eq_true.mpr fun r hr => ih r (List.all_eq_true.mp ht r hr)
  | bySlot next ih =>
    cases n with
    | zero => cases ht
    | succ n => exact List.all_eq_true.mpr fun s hs => ih s (List.all_eq_true.mp ht s hs)
  | byForm a b iha ihb | byMode a b iha ihb | byVex a b iha ihb | byVexLength a b iha ihb =>
    rw [rowsAtMost, Bool.and_eq_true] at ht ⊢
    exact ⟨iha ht.1, ihb ht.2⟩

variable {t t' : DecodeTree} {next : ModRM → DecodeTree} {vex : Option Vex}

lemma row?_modrm (hn : t.node mode vex = .modrm next) :
    t.row? mode vex m = (next m).row? mode vex m :=
  eq_of_modrm (f := row? mode vex m) hn (fun _ => rfl) (fun _ => rfl) fun _ _ => rfl

lemma row?_known (hn : t.node mode vex = .known t') : t.row? mode vex m = t'.row? mode vex m :=
  eq_of_known (f := row? mode vex m) hn (fun _ _ => rfl) (fun _ _ => rfl) fun _ _ => rfl

lemma rowsAtMost_modrm {n : ℕ} (hn : t.node mode vex = .modrm next) (ht : t.rowsAtMost n = true)
    (m : ModRM) : (next m).rowsAtMost n = true := by
  cases t with
  | byReg _ | byRm _ =>
    cases hn
    exact List.all_eq_true.mp ht _ (List.mem_finRange _)
  | byForm _ _ =>
    cases hn
    rw [rowsAtMost, Bool.and_eq_true] at ht
    dsimp only
    split
    · exact ht.2
    · exact ht.1
  | _ => cases hn

lemma rowsAtMost_known {n : ℕ} (hn : t.node mode vex = .known t') (ht : t.rowsAtMost n = true) :
    t'.rowsAtMost n = true := by
  cases t with
  | byMode _ _ | byVex _ _ | byVexLength _ _ =>
    cases hn
    rw [rowsAtMost, Bool.and_eq_true] at ht
    split
    · exact ht.2
    · exact ht.1
  | _ => cases hn

lemma row?_eq_none (ht : t.rowsAtMost 0 = true) : t.row? mode vex m = none := by
  induction t using node_induction mode vex with
  | undefined => rfl
  | leaf e => rfl
  | modrm t next hn ih => rw [row?_modrm hn, ih m (rowsAtMost_modrm hn ht m)]
  | slot next => cases ht
  | known t t' hn ih => rw [row?_known hn, ih (rowsAtMost_known hn ht)]

lemma slot_of_select {m? : Option ModRM} {slot : Option PrefixSlot}
    (ht : t.rowsAtMost 1 = true) (hx : m.Only m? c)
    (hs : (t.select mode h m? slot).run c = .ok (s, c')) :
    s.slot = ((t.row? mode h.vex m).map h.slot).or slot ∧
      ∀ next ∈ t.row? mode h.vex m, (next (h.slot next)).Reaches s.entry := by
  -- below the only row nothing changes the slot that was selected there
  induction t using node_induction mode h.vex generalizing m? slot c with
  | undefined => simp [select, run] at hs
  | leaf e =>
    obtain ⟨rfl, -⟩ : _ = s ∧ c = c' := by simpa [select] using hs
    exact ⟨rfl, by simp [row?]⟩
  | modrm t next hn ih =>
    rw [select_modrm hn] at hs
    obtain ⟨x, d, hd, hs⟩ := ModRM.run_scan_eq_ok.mp hs
    obtain rfl := hx x d hd
    rw [row?_modrm hn]
    exact ih x (rowsAtMost_modrm hn ht x) (ModRM.only_some _ _) hs
  | slot next ih =>
    have hnext : (next (h.slot next)).rowsAtMost 0 = true :=
      List.all_eq_true.mp ht _ (PrefixSlot.mem_all _)
    refine ⟨?_, ?_⟩
    · rw [(ih _ (rowsAtMost_succ hnext) hx hs).1, row?_eq_none hnext]
      rfl
    · rintro _ ⟨rfl⟩
      have hp : DecodePath.Follows ⟨none, none, some (h.slot next), none, none, m?.isSome⟩ mode h m?
          (some (h.slot next)) := by constructor <;> simp
      obtain ⟨-, l, hl, he, -⟩ := leaf_of_select hp hs
      exact ⟨_, l, hl, he⟩
  | known t t' hn ih =>
    rw [select_known hn] at hs
    rw [row?_known hn]
    exact ih (rowsAtMost_known hn ht) hx hs

end DecodeTree

lemma OpcodeMap.rowsAtMost_of_table (m : OpcodeMap) :
    ∀ t ∈ m.table, t.rowsAtMost 1 = true := by
  cases m <;> decide +kernel

lemma Opcode.rowsAtMost_tree (o : Opcode) : o.tree.rowsAtMost 1 = true :=
  o.forall_tree (P := fun t => t.rowsAtMost 1 = true) rfl OpcodeMap.rowsAtMost_of_table

def Flags.repeats (f : Flags) : ℕ := [rep, repz, repnz, bnd].countP f.meets

def Entry.plainSize (mode : Mode) (wide : Bool) (e : Entry) : Size :=
  if mode.isLong then if wide ∨ e.longSize ≠ .dword then .qword else .dword else mode.operandSize

def Entry.overrideSize (mode : Mode) (wide : Bool) (e : Entry) : Size :=
  if mode.isLong then if wide ∨ e.longSize = .always then .qword else .word
  else mode.otherOperandSize

namespace Selection

lemma operandSize_eq (h : Head) (s : Selection) : s.operandSize mode h =
    if h.prefixes.operandSize = true ∧ s.slot ≠ some .p66 then
      s.entry.overrideSize mode h.prefixes.wide
    else s.entry.plainSize mode h.prefixes.wide := by
  have hoverrides : s.overridesSize h = true ↔
      h.prefixes.operandSize = true ∧ s.slot ≠ some .p66 := by
    simp [overridesSize]
  simp only [operandSize, hoverrides, Entry.overrideSize, Entry.plainSize]
  cases mode.isLong with
  | false => rfl
  | true =>
    cases s.entry.longSize <;> cases h.prefixes.wide <;>
      by_cases ho : h.prefixes.operandSize = true ∧ s.slot ≠ some .p66 <;> simp [ho]

lemma repeats_flags (h : Head) (s : Selection) : (s.flags h).repeats =
    if ∀ r ∈ h.prefixes.repeated, s.slot = some r.slot then 0 else 1 := by
  have hnone : ∀ l : Bool, ((if l then Flags.lock else .none).insert .none).repeats = 0 := by
    decide
  have hone : ∀ l : Bool, ∀ f ∈ [Flags.rep, .repz, .repnz, .bnd],
      ((if l then Flags.lock else .none).insert f).repeats = 1 := by decide
  unfold flags
  cases h.prefixes.repeated with
  | none => simpa using hnone h.prefixes.lock
  | some r =>
    cases r with
    | repz =>
      by_cases hs : s.slot = some .pF3
      · simpa [hs, RepeatPrefix.slot] using hnone h.prefixes.lock
      · simp only [Option.mem_some, forall_eq', RepeatPrefix.slot, hs, if_false]
        refine hone h.prefixes.lock _ ?_
        split <;> simp
    | repnz =>
      by_cases hs : s.slot = some .pF2
      · simpa [hs, RepeatPrefix.slot] using hnone h.prefixes.lock
      · simp only [Option.mem_some, forall_eq', RepeatPrefix.slot, hs, if_false]
        refine hone h.prefixes.lock _ ?_
        split <;> simp

end Selection

structure Encoding.Roles (mode : Mode) (P : List UInt8) (wide : Bool)
    (row : Option (PrefixSlot → DecodeTree)) (e : Encoding) : Prop where
  entry : e.vex = none → ∀ next ∈ row, (next (.selected P next)).Reaches e.entry
  vex : e.isVex = true → e.flags = .none
  lock : e.flags.meets .lock = true ↔ 0xF0 ∈ P
  repeats : e.flags.repeats ≤ 1
  absent : lastIn repeatBytes P = none → e.flags.repeats = 0
  mandatory : ∀ b ∈ lastIn repeatBytes P,
    row.map (PrefixSlot.selected P) = some (.ofRepeat b) → e.flags.repeats = 0
  repeated : ∀ b ∈ lastIn repeatBytes P,
    row.map (PrefixSlot.selected P) ≠ some (.ofRepeat b) → e.flags.repeats = 1
  plain : 0x66 ∉ P ∨ row.map (PrefixSlot.selected P) = some .p66 →
    e.operandSize = e.entry.plainSize mode wide
  override : 0x66 ∈ P → row.map (PrefixSlot.selected P) ≠ some .p66 →
    e.operandSize = e.entry.overrideSize mode wide

lemma Cursor.headD_rest (c : Cursor) : c.rest.headD 0 = c.bytes.getD c.position 0 := by
  rw [rest, List.headD_eq_head?_getD, List.head?_drop, List.getD_eq_getElem?_getD]

lemma Prefixes.of_allowVex_summary (hp : (Prefixes.summary P).allowVex = true) :
    lastIn repeatBytes P = none ∧ 0x66 ∉ P ∧ 0xF0 ∉ P := by
  simp only [allowVex, summary, Bool.and_eq_true, Bool.not_eq_true', decide_eq_false_iff_not,
    Option.isNone_map, Option.isNone_iff_eq_none] at hp
  exact ⟨hp.1.2, hp.1.1.1, hp.1.1.2⟩

namespace Encoding

lemma roles_ofSelection {row : Option (PrefixSlot → DecodeTree)} {body stop : ℕ}
    (hprefixes : h.prefixes = { Prefixes.summary P with rex := h.prefixes.rex })
    (hvex : h.vex ≠ none → (Prefixes.summary P).allowVex = true)
    (hslot : s.slot = row.map h.slot)
    (hreaches : ∀ next ∈ row, (next (h.slot next)).Reaches s.entry) :
    (ofSelection mode h s body stop).Roles mode P h.prefixes.wide row := by
  have hoperand : h.prefixes.operandSize = true ↔ 0x66 ∈ P := by
    rw [hprefixes]
    simp [Prefixes.summary]
  have hlock : h.prefixes.lock = true ↔ 0xF0 ∈ P := by
    rw [hprefixes]
    simp [Prefixes.summary]
  have hrepeated : h.prefixes.repeated =
      (lastIn repeatBytes P).map fun b => if b = 0xF3 then .repz else .repnz := by
    rw [hprefixes]
    rfl
  have hselected (hv : h.vex = none) : h.slot = PrefixSlot.selected P :=
    funext fun next => Head.slot_eq_selected hv hprefixes
  -- a VEX prefix has no mandatory prefix in front of it, so that its own slot does not matter here
  have hused (hP : lastIn repeatBytes P ≠ none ∨ 0x66 ∈ P) :
      s.slot = row.map (PrefixSlot.selected P) := by
    by_cases hv : h.vex = none
    · rw [hslot, hselected hv]
    · obtain ⟨hnone, h66, -⟩ := Prefixes.of_allowVex_summary (hvex hv)
      exact absurd hP (by simp [hnone, h66])
  have hcount (b : UInt8) (hb : b ∈ lastIn repeatBytes P) : (s.flags h).repeats =
      if row.map (PrefixSlot.selected P) = some (.ofRepeat b) then 0 else 1 := by
    rw [s.repeats_flags, hrepeated, hused (Or.inl (Option.ne_none_iff_exists'.mpr ⟨b, hb⟩)),
      Option.mem_def.mp hb]
    simp [PrefixSlot.ofRepeat]
  exact {
    entry := fun hv next hnext => hselected hv ▸ hreaches next hnext
    vex := fun hv => by
      obtain ⟨hnone, -, hF0⟩ :=
        Prefixes.of_allowVex_summary (hvex (Option.isSome_iff_ne_none.mp hv))
      have hl : h.prefixes.lock = false := by simpa using mt hlock.mp hF0
      change s.flags h = .none
      rw [Selection.flags, hrepeated, hnone, hl]
      exact (by decide : Flags.none.insert .none = .none)
    lock := by
      change (s.flags h).meets .lock = true ↔ _
      rw [s.meets_lock_flags, hlock]
    repeats := by
      change (s.flags h).repeats ≤ 1
      rw [s.repeats_flags]
      split <;> decide
    absent := fun hnone => by
      change (s.flags h).repeats = 0
      rw [s.repeats_flags, hrepeated, hnone]
      simp
    mandatory := fun b hb hsel => (hcount b hb).trans (if_pos hsel)
    repeated := fun b hb hsel => (hcount b hb).trans (if_neg hsel)
    plain := fun hP => by
      change s.operandSize mode h = _
      rw [s.operandSize_eq, if_neg]
      · rfl
      · rintro ⟨h66, hne⟩
        rw [hused (Or.inr (hoperand.mp h66))] at hne
        exact hP.elim (· (hoperand.mp h66)) hne
    override := fun h66 hsel => by
      change s.operandSize mode h = _
      rw [s.operandSize_eq, if_pos ⟨hoperand.mpr h66, by rwa [hused (Or.inr h66)]⟩]
      rfl }

/-- Each of the prefixes 66, F2 and F3 either selects the instruction or does what it is for. -/
theorem roles_of_scan (he : scan mode strictLock bytes = .ok e) :
    ∃ h c, (Head.scan mode).run (.start bytes) = .ok (h, c) ∧
      e.Roles mode (bytes.takeWhile (IsLegacy mode ·)) ((Rex.inEffect mode bytes).any Rex.w)
        (h.opcode.tree.row? mode e.vex (.ofByte (bytes.getD e.operandOffset 0))) := by
  obtain ⟨lead, t, hbytes, hlead, hP⟩ := exists_lead_of_scan he
  have hrex := rex_of_scan he
  obtain ⟨h, c, s, c', hh, hs, rfl⟩ := scan_eq_ok.mp he
  refine ⟨h, c, hh, ?_⟩
  have hhead := hh
  rw [hbytes, Head.run_scan_eq_ok hP hlead] at hhead
  have hvex : h.vex ≠ none →
      (Prefixes.summary (bytes.takeWhile (IsLegacy mode ·))).allowVex = true := by
    intro hv
    cases of_run_of_yields Head.yields_ofLead hhead.2 with
    | opcode o => exact absurd rfl hv
    | vex hwith => exact hwith.1
  obtain ⟨s₀, c₀, c₁, c₂, hsel, -, hmod, -⟩ := Head.run_scanBody_eq_ok.mp hs
  -- the byte behind the opcode is the ModR/M byte, wherever one is taken
  have hmodrm : c.rest.headD 0 = bytes.getD (c.position - 1 + 1) 0 := by
    rw [Nat.sub_add_cancel (Head.position_pos_of_scan hh), headD_rest, bytes_of_run hh]
    rfl
  obtain ⟨hslot, hreaches⟩ :=
    DecodeTree.slot_of_select (Opcode.rowsAtMost_tree _) (ModRM.only_none c) hsel
  obtain ⟨-, heq, -⟩ := Selection.taken_of_withModRM hmod
  rw [hmodrm, Option.or_none] at hslot
  rw [hmodrm] at hreaches
  rw [← hrex]
  refine roles_ofSelection (Head.prefixes_of_ofLead hhead.2) hvex ?_ ?_
  · rw [heq]
    exact hslot
  · rw [heq]
    exact hreaches

theorem roles_of_scan_popcnt : ∃ e h c,
    scan .bits64 true [0x66, 0xF3, 0x0F, 0xB8, 0xC1] = .ok e ∧
      (Head.scan .bits64).run (.start [0x66, 0xF3, 0x0F, 0xB8, 0xC1]) = .ok (h, c) ∧
      e.Roles .bits64 [0x66, 0xF3] false (h.opcode.tree.row? .bits64 none (.ofByte 0xC1)) ∧
      e.operandSize = .word ∧ e.flags = .none := by
  obtain ⟨e, he, hv, ho, hz, hf⟩ : ∃ e, scan .bits64 true [0x66, 0xF3, 0x0F, 0xB8, 0xC1] = .ok e ∧
      e.vex = none ∧ e.operandOffset = 4 ∧ e.operandSize = .word ∧ e.flags = .none :=
    ⟨_, rfl, rfl, rfl, rfl, rfl⟩
  have hP : [0x66, 0xF3, 0x0F, 0xB8, 0xC1].takeWhile (IsLegacy .bits64 ·) = [0x66, 0xF3] := rfl
  have hrex : Rex.inEffect .bits64 [0x66, 0xF3, 0x0F, 0xB8, 0xC1] = none := rfl
  obtain ⟨h, c, hh, hroles⟩ := roles_of_scan he
  rw [hP, hrex, hv, ho] at hroles
  exact ⟨e, h, c, he, hh, hroles, hz, hf⟩

end Encoding

end X86
