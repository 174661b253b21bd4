import Mathlib
import X86.OpcodeRecord
import X86.Proofs.ScanRuns
import X86.Proofs.SelectionSteps

/-! An instruction that a scan selects, and the checks that it has passed. -/

namespace X86

open Scan

variable {mode : Mode} {strictLock : Bool} {h : Head} {c c' d : Cursor}

namespace ModRM

def Taken (m : Option ModRM) (c : Cursor) (m' : Option ModRM) (c' : Cursor) : Prop :=
  m' = m ∧ c' = c ∨
    m = none ∧ ∃ b, c.current = .ok b ∧ m' = some (ofByte b) ∧ c' = c.advance 1

lemma Taken.refl (m : Option ModRM) (c : Cursor) : Taken m c m c := Or.inl ⟨rfl, rfl⟩

lemma Taken.trans {m m' m'' : Option ModRM} (h : Taken m c m' d) (h' : Taken m' d m'' c') :
    Taken m c m'' c' := by
  rcases h with ⟨rfl, rfl⟩ | ⟨rfl, b, hb, rfl, rfl⟩
  · exact h'
  · rcases h' with ⟨rfl, rfl⟩ | ⟨hm, -⟩
    · exact Or.inr ⟨rfl, b, hb, rfl, rfl⟩
    · cases hm

lemma Taken.mem {m m' : Option ModRM} (h : Taken m c m' c') {x : ModRM} (hx : x ∈ m) : x ∈ m' := by
  rcases h with ⟨rfl, -⟩ | ⟨rfl, -⟩
  · exact hx
  · simp at hx

lemma run_scan_eq_ok {α : Type} {m : Option ModRM} {k : ModRM → Scan α} {a : α} :
    (ModRM.scan m k).run c = .ok (a, c') ↔
      ∃ x d, Taken m c (some x) d ∧ (k x).run d = .ok (a, c') := by
  cases m with
  | some x => simp [ModRM.scan, Taken]
  | none =>
    simp only [ModRM.scan, run_fetch_eq_ok, Taken]
    constructor
    · rintro ⟨b, hb, hk⟩
      exact ⟨ofByte b, c.advance 1, Or.inr ⟨trivial, b, hb, rfl, rfl⟩, hk⟩
    · rintro ⟨x, d, ⟨hx, -⟩ | ⟨-, b, hb, hx, rfl⟩, hk⟩
      · cases hx
      · obtain rfl : x = ofByte b := by simpa using hx
        exact ⟨b, hb, hk⟩

end ModRM

lemma PrefixSlot.mem_all (s : PrefixSlot) : s ∈ all := by
  cases s <;> decide

structure DecodePath.Follows (p : DecodePath) (mode : Mode) (h : Head) (m : Option ModRM)
    (slot : Option PrefixSlot) : Prop where
  modrm : p.modrm = m.isSome
  reg : ∀ r ∈ p.reg, ∃ x ∈ m, x.reg = r
  form : ∀ f ∈ p.isRegister, ∃ x ∈ m, x.isRegister = f
  slot : p.slot = slot
  vex : ∀ v ∈ p.vex, h.vex.isSome = v
  long : ∀ v ∈ p.long, mode.isLong = v

namespace DecodePath.Follows

variable {p : DecodePath} {m m' : Option ModRM} {slot : Option PrefixSlot}

lemma empty : ({} : DecodePath).Follows mode h none none := by
  constructor <;> simp

lemma taken {x : ModRM} (hp : p.Follows mode h m slot) (ht : ModRM.Taken m c (some x) d) :
    { p with modrm := true }.Follows mode h (some x) slot := by
  exact ⟨rfl, fun r hr => (hp.reg r hr).imp fun y hy => ⟨ht.mem hy.1, hy.2⟩,
    fun f hf => (hp.form f hf).imp fun y hy => ⟨ht.mem hy.1, hy.2⟩, hp.slot, hp.vex, hp.long⟩

variable {t t' : DecodeTree}

/-- One step down a tree, along which the path gains what was asked for. -/
lemma of_modrm {next : ModRM → DecodeTree} {x : ModRM} (hp : p.Follows mode h m slot)
    (hn : t.node mode h.vex = .modrm next) (ht : ModRM.Taken m c (some x) d) :
    ∃ p' : DecodePath, p'.Follows mode h (some x) slot ∧
      ∀ l ∈ (next x).leaves p', l ∈ t.leaves p := by
  have hp' := hp.taken ht
  cases t with
  | byReg next =>
    cases hn
    exact ⟨{ p with reg := some x.reg, modrm := true }, { hp' with reg := by simp },
      fun _ hl => List.mem_flatMap.mpr ⟨x.reg, List.mem_finRange _, hl⟩⟩
  | byForm memory register =>
    cases hn
    refine ⟨{ p with isRegister := some x.isRegister, modrm := true },
      { hp' with form := by simp }, fun l hl => ?_⟩
    cases hx : x.isRegister with
    | true => exact List.mem_append_right _ (by simpa [hx] using hl)
    | false => exact List.mem_append_left _ (by simpa [hx] using hl)
  | byRm next =>
    cases hn
    exact ⟨_, hp', fun _ hl => List.mem_flatMap.mpr ⟨x.rm, List.mem_finRange _, hl⟩⟩
  | _ => cases hn

lemma of_slot (next : PrefixSlot → DecodeTree) (s : PrefixSlot) (hp : p.Follows mode h m slot) :
    ∃ p' : DecodePath, p'.Follows mode h m (some s) ∧
      ∀ l ∈ (next s).leaves p', l ∈ (DecodeTree.bySlot next).leaves p :=
  ⟨{ p with slot := some s }, { hp with slot := rfl },
    fun _ hl => List.mem_flatMap.mpr ⟨s, PrefixSlot.mem_all s, hl⟩⟩

lemma of_known (hp : p.Follows mode h m slot) (hn : t.node mode h.vex = .known t') :
    ∃ p' : DecodePath, p'.Follows mode h m slot ∧ ∀ l ∈ t'.leaves p', l ∈ t.leaves p := by
  cases t with
  | byMode legacy long =>
    cases hn
    split <;> rename_i hm
    · exact ⟨{ p with long := some true }, { hp with long := by simpa using hm },
        fun _ => List.mem_append_right _⟩
    · exact ⟨{ p with long := some false }, { hp with long := by simpa using hm },
        fun _ => List.mem_append_left _⟩
  | byVex legacy vex =>
    cases hn
    split <;> rename_i hv
    · exact ⟨{ p with vex := some true }, { hp with vex := by simpa using hv },
        fun _ => List.mem_append_right _⟩
    · exact ⟨{ p with vex := some false }, { hp with vex := by simpa using hv },
        fun _ => List.mem_append_left _⟩
  | byVexLength short long =>
    cases hn
    split <;> rename_i hv
    · exact ⟨{ p with vex := some true },
        { hp with vex := by simpa using Option.isSome_of_any hv },
        fun _ => List.mem_append_right _⟩
    · exact ⟨p, hp, fun _ => List.mem_append_left _⟩
  | _ => cases hn

end DecodePath.Follows

lemma DecodeTree.leaf_of_select {t : DecodeTree} {m : Option ModRM} {slot : Option PrefixSlot}
    {s : Selection} {p : DecodePath} (hp : p.Follows mode h m slot)
    (hs : (t.select mode h m slot).run c = .ok (s, c')) :
    ModRM.Taken m c s.modrm c' ∧
      ∃ l ∈ t.leaves p, l.entry = s.entry ∧ l.path.Follows mode h s.modrm s.slot := by
  induction t using node_induction mode h.vex generalizing m slot p c with
  | undefined => simp [select, run] at hs
  | leaf e =>
    obtain ⟨rfl, rfl⟩ : _ = s ∧ c = c' := by simpa [select] using hs
    exact ⟨ModRM.Taken.refl m c, ⟨p, e⟩, by simp [leaves], rfl, hp⟩
  | modrm t next hn ih =>
    rw [select_modrm hn] at hs
    obtain ⟨x, d, ht, hs⟩ := ModRM.run_scan_eq_ok.mp hs
    obtain ⟨p', hp', hleaves⟩ := hp.of_modrm hn ht
    obtain ⟨ht', l, hl, hr⟩ := ih x hp' hs
    exact ⟨ht.trans ht', l, hleaves l hl, hr⟩
  | slot next ih =>
    obtain ⟨p', hp', hleaves⟩ := hp.of_slot next (h.slot next)
    obtain ⟨ht, l, hl, hr⟩ := ih _ hp' hs
    exact ⟨ht, l, hleaves l hl, hr⟩
  | known t t' hn ih =>
    rw [select_known hn] at hs
    obtain ⟨p', hp', hleaves⟩ := hp.of_known hn
    obtain ⟨ht, l, hl, hr⟩ := ih hp' hs
    exact ⟨ht, l, hleaves l hl, hr⟩

structure Leaf.Selects (l : Leaf) (mode : Mode) (h : Head) (s : Selection) : Prop where
  mem : l ∈ h.opcode.tree.leaves {}
  entry : l.entry = s.entry
  modrm : l.usesModRM = s.modrm.isSome
  reg : ∀ r ∈ l.path.reg, ∃ m ∈ s.modrm, m.reg = r
  form : ∀ f ∈ l.path.isRegister, ∃ m ∈ s.modrm, m.isRegister = f
  slot : l.path.slot = s.slot
  vex : ∀ v ∈ l.path.vex, h.vex.isSome = v
  long : ∀ v ∈ l.path.long, mode.isLong = v

namespace Selection

structure SuitsPrefixes (mode : Mode) (h : Head) (s : Selection) : Prop where
  available : s.entry.availableIn mode = true
  vexUse : s.entry.vexUse ≠ if h.vex.isSome then .never else .required
  repeated : h.vex = none → h.prefixes.repeated ≠ none → s.slot = some .plain ∨ s.slot = some .p66 →
    s.entry.mnemonic.classOf ≠ .simd
  slot : ∀ v ∈ h.vex, v.slot = .plain ∨ s.slot.isSome = true
  short : ∀ v ∈ h.vex, s.entry.shortVex = true → v.long = false
  register : ∀ v ∈ h.vex, v.register = 0 ∨ s.entry.usesVexRegister = true

structure Accepted (mode : Mode) (strictLock : Bool) (h : Head) (s : Selection) : Prop
    extends s.SuitsPrefixes mode h where
  modrm : s.entry.usesModRM = true → s.modrm.isSome = true
  fields : ∀ m ∈ s.modrm, s.fieldsAllowed h.prefixes.rex m = true
  lock : strictLock = true → h.prefixes.lock = true → s.lockAllowed = true

lemma suits_of_checkPrefixes {s : Selection} (hs : (s.checkPrefixes mode h).run c = .ok ((), c')) :
    s.SuitsPrefixes mode h ∧ c' = c := by
  unfold checkPrefixes at hs
  cases hv : h.vex with
  | none =>
    simp only [hv, run_bind_eq_ok, run_require_eq_ok] at hs
    obtain ⟨_, _, ⟨ha, rfl⟩, _, _, ⟨hr, rfl⟩, hu, rfl⟩ := hs
    refine ⟨⟨ha, by simpa [hv] using hu, ?_, by simp [hv], by simp [hv], by simp [hv]⟩, rfl⟩
    intro _ hrep hslot hc
    obtain ⟨r, hrep⟩ := Option.ne_none_iff_exists'.mp hrep
    rcases hslot with hslot | hslot <;> simp [hrep, hslot, hc] at hr
  | some v =>
    simp only [hv, run_bind_eq_ok, run_require_eq_ok] at hs
    obtain ⟨_, _, ⟨ha, rfl⟩, _, _, ⟨hu, rfl⟩, _, _, ⟨hl, rfl⟩, hr, rfl⟩ := hs
    simp only [Bool.and_eq_true, bne_iff_ne, Bool.or_eq_true, beq_iff_eq] at hu hr
    refine ⟨⟨ha, by simpa [hv] using hu.1, by simp [hv], ?_, ?_, ?_⟩, rfl⟩
    · simpa [hv] using hu.2
    · intro w hw hs
      obtain rfl : v = w := by simpa [hv] using hw
      simpa [hs] using hl
    · simpa [hv] using hr

lemma checkPrefixes_of_suits {s : Selection} (hs : s.SuitsPrefixes mode h) :
    (s.checkPrefixes mode h).run c = .ok ((), c) := by
  unfold checkPrefixes
  cases hv : h.vex with
  | none =>
    have huse : s.entry.vexUse ≠ .required := by simpa [hv] using hs.vexUse
    have hstray := hs.repeated hv
    simp only [run_bind_eq_ok, run_require_eq_ok]
    refine ⟨(), c, ⟨hs.available, rfl⟩, (), c, ⟨?_, rfl⟩, by simpa using huse, rfl⟩
    by_contra hr
    simp only [Bool.not_eq_true, Bool.not_eq_false', Bool.and_eq_true, Bool.or_eq_true,
      beq_iff_eq] at hr
    exact hstray (Option.isSome_iff_ne_none.mp hr.1.1) hr.1.2 hr.2
  | some v =>
    have huse : s.entry.vexUse ≠ .never := by simpa [hv] using hs.vexUse
    have hslot := hs.slot v hv
    have hshort := hs.short v hv
    have hregister := hs.register v hv
    simp only [run_bind_eq_ok, run_require_eq_ok]
    refine ⟨(), c, ⟨hs.available, rfl⟩, (), c, ⟨?_, rfl⟩, (), c, ⟨?_, rfl⟩, ?_, rfl⟩
    · simpa [huse] using hslot
    · cases hl : s.entry.shortVex with
      | true => simp [hshort hl]
      | false => rfl
    · simpa using hregister

lemma taken_of_withModRM {s s' : Selection} (hs : s.withModRM.run c = .ok (s', c')) :
    ModRM.Taken s.modrm c s'.modrm c' ∧ s' = { s with modrm := s'.modrm } ∧
      s'.modrm.isSome = (s.modrm.isSome || s.entry.usesModRM) := by
  unfold withModRM at hs
  split at hs <;> rename_i hm
  · obtain ⟨x, d, ht, hs⟩ := ModRM.run_scan_eq_ok.mp hs
    obtain ⟨rfl, rfl⟩ : _ = s' ∧ d = c' := by simpa using hs
    exact ⟨ht, rfl, by simp [hm]⟩
  · obtain ⟨rfl, rfl⟩ : s = s' ∧ c = c' := by simpa using hs
    exact ⟨ModRM.Taken.refl _ _, rfl, by simp [hm]⟩

def AddressTaken (addressSize : Size) (s : Selection) (c c' : Cursor) : Prop :=
  (∃ m ∈ s.modrm, s.isMemory = true ∧ (m.skipAddress addressSize).run c = .ok ((), c')) ∨
    s.isMemory = false ∧ c' = c

lemma addressTaken_of_scanAddress {s : Selection} {rex : Option Rex} {z : Size}
    (hs : (s.scanAddress rex z).run c = .ok ((), c')) :
    s.AddressTaken z c c' ∧ ∀ m ∈ s.modrm, s.fieldsAllowed rex m = true := by
  unfold scanAddress at hs
  cases hm : s.modrm with
  | none =>
    obtain rfl : c = c' := by simpa [hm] using hs
    exact ⟨Or.inr ⟨by simp [isMemory, hm], rfl⟩, by simp⟩
  | some m =>
    simp only [hm, run_bind_eq_ok, run_require_eq_ok] at hs
    obtain ⟨_, _, ⟨hf, rfl⟩, hs⟩ := hs
    refine ⟨?_, by simpa using hf⟩
    split at hs <;> rename_i hmem
    · exact Or.inl ⟨m, hm, hmem, hs⟩
    · obtain rfl : _ = c' := by simpa using hs
      exact Or.inr ⟨by simpa using hmem, rfl⟩

end Selection

def Selection.trailing (mode : Mode) (h : Head) (s : Selection) : ℕ :=
  s.entry.trailingBytes (s.operandSize mode h) (h.prefixes.effectiveAddressSize mode)

lemma Head.run_scanBody_eq_ok {s : Selection} :
    (h.scanBody mode strictLock).run c = .ok (s, c') ↔ ∃ s₀ c₀ c₁ c₂,
      (h.opcode.tree.select mode h none none).run c = .ok (s₀, c₀) ∧
      (s₀.checkPrefixes mode h).run c₀ = .ok ((), c₀) ∧ s₀.withModRM.run c₀ = .ok (s, c₁) ∧
      (s.scanAddress h.prefixes.rex (h.prefixes.effectiveAddressSize mode)).run c₁ =
        .ok ((), c₂) ∧
      (Scan.drop (s.trailing mode h)).run c₂ = .ok ((), c') ∧
      (strictLock && h.prefixes.lock && !s.lockAllowed) = false := by
  simp only [scanBody, Selection.scanRest, run_bind_eq_ok, run_require_eq_ok, run_pure,
    Except.ok.injEq, Prod.mk.injEq, Bool.not_eq_true']
  constructor
  · rintro ⟨s₀, c₀, hsel, _, d, hpre, s₁, c₁, hmod, _, c₂, haddr, _, d', hdrop, _, _,
      ⟨hlock, rfl⟩, rfl, rfl⟩
    obtain ⟨-, rfl⟩ := Selection.suits_of_checkPrefixes hpre
    exact ⟨s₀, d, c₁, c₂, hsel, hpre, hmod, haddr, hdrop, hlock⟩
  · rintro ⟨s₀, c₀, c₁, c₂, hsel, hpre, hmod, haddr, hdrop, hlock⟩
    exact ⟨s₀, c₀, hsel, (), c₀, hpre, s, c₁, hmod, (), c₂, haddr, (), c', hdrop, (), c',
      ⟨hlock, rfl⟩, rfl, rfl⟩

theorem Head.accepted_of_scanBody {s : Selection}
    (hs : (h.scanBody mode strictLock).run c = .ok (s, c')) :
    s.Accepted mode strictLock h ∧ (∃ l : Leaf, l.Selects mode h s) ∧
      ∃ c₁ c₂, ModRM.Taken none c s.modrm c₁ ∧
        s.AddressTaken (h.prefixes.effectiveAddressSize mode) c₁ c₂ ∧
        c' = c₂.advance (s.trailing mode h) ∧ c'.position ≤ c.bytes.length := by
  have hbytes := bytes_of_run hs
  obtain ⟨s₀, d₀, c₁, c₂, hsel, hpre, hmod, haddr, hdrop, hlock⟩ := run_scanBody_eq_ok.mp hs
  obtain ⟨-, hlen, rfl⟩ := run_drop_eq_ok.mp hdrop
  obtain ⟨ht, l, hl, he, hf⟩ := DecodeTree.leaf_of_select DecodePath.Follows.empty hsel
  obtain ⟨hsuits, -⟩ := Selection.suits_of_checkPrefixes hpre
  obtain ⟨ht', heq, hsome⟩ := Selection.taken_of_withModRM hmod
  obtain ⟨haddr, hfields⟩ := Selection.addressTaken_of_scanAddress haddr
  have hmem (x : ModRM) (hx : x ∈ s₀.modrm) : x ∈ s.modrm := ht'.mem hx
  have hentry : s.entry = s₀.entry := by rw [heq]
  have hslot : s.slot = s₀.slot := by rw [heq]
  refine ⟨?_, ⟨l, ?_⟩, c₁, c₂, ht.trans ht', haddr, rfl, ?_⟩
  · exact {
      toSuitsPrefixes := by
        rw [heq]
        exact { hsuits with }
      modrm := fun hu => by rw [hsome, ← hentry, hu, Bool.or_true]
      fields := hfields
      lock := fun hst hlk => by simpa [hst, hlk] using hlock }
  · exact {
      mem := hl
      entry := he.trans hentry.symm
      modrm := by rw [Leaf.usesModRM, hf.modrm, he, hsome]
      reg := fun r hr => (hf.reg r hr).imp fun x hx => ⟨hmem x hx.1, hx.2⟩
      form := fun f hr => (hf.form f hr).imp fun x hx => ⟨hmem x hx.1, hx.2⟩
      slot := hf.slot.trans hslot.symm
      vex := hf.vex
      long := hf.long }
  · rw [← hbytes]
    exact hlen

namespace Leaf.Selects

variable {l : Leaf} {s : Selection}

lemma valid (hl : l.Selects mode h s) (hs : s.SuitsPrefixes mode h) :
    (if mode.isLong then l.validIn64 else l.validOutside64) = true := by
  have ha := hs.available
  rw [← hl.entry, Entry.availableIn] at ha
  have hp : l.path.long ≠ some !mode.isLong := by
    intro hp
    have := hl.long _ hp
    cases hm : mode.isLong <;> simp [hm] at this
  unfold validIn64 validOutside64
  cases hv : l.entry.availability <;> cases hm : mode.isLong <;> simp_all

lemma hasModRM (hl : l.Selects mode h s) {m : ModRM} (hm : m ∈ s.modrm) : l.usesModRM = true := by
  rw [hl.modrm, Option.mem_def.mp hm]
  rfl

lemma hasExtension (hl : l.Selects mode h s) {m : ModRM} (hm : m ∈ s.modrm) :
    l.hasExtension m.reg = true := by
  rw [Leaf.hasExtension, hl.hasModRM hm, Bool.true_and]
  cases hr : l.path.reg with
  | none => rfl
  | some r =>
    obtain ⟨x, hx, rfl⟩ := hl.reg r hr
    obtain rfl : x = m := Option.mem_unique hx hm
    simp

lemma form_ne (hl : l.Selects mode h s) {m : ModRM} (hm : m ∈ s.modrm) :
    l.path.isRegister ≠ some !m.isRegister := by
  intro hf
  obtain ⟨x, hx, hxm⟩ := hl.form _ hf
  obtain rfl : x = m := Option.mem_unique hx hm
  cases hr : x.isRegister <;> simp [hr] at hxm

lemma hasForm (hl : l.Selects mode h s) (hs : s.Accepted mode strictLock h) {m : ModRM}
    (hm : m ∈ s.modrm) : (if m.isRegister then l.hasRegisterForm else l.hasMemoryForm) = true := by
  have hne := hl.form_ne hm
  have hf := hs.fields m hm
  simp only [Selection.fieldsAllowed, Bool.and_eq_true, Selection.isMemory, Option.mem_def.mp hm,
    Option.any_some, ← hl.entry] at hf
  unfold hasRegisterForm hasMemoryForm
  rw [hl.hasModRM hm]
  cases hr : m.isRegister with
  | true => simp_all
  | false =>
    have hallows : l.entry.allowsMemory = true := by
      cases hreg : l.entry.alwaysRegister with
      | true => simp [Entry.allowsMemory, hreg]
      | false => simpa [hr, hreg] using hf.1
    simp_all

lemma hasEncoding (hl : l.Selects mode h s) (hs : s.SuitsPrefixes mode h) :
    (if h.vex.isSome then l.hasVex else l.hasLegacy) = true := by
  have hu := hs.vexUse
  have hp : l.path.vex ≠ some !h.vex.isSome := by
    intro hp
    have := hl.vex _ hp
    cases hv : h.vex.isSome <;> simp [hv] at this
  unfold hasVex hasLegacy
  rw [hl.entry]
  cases hv : h.vex.isSome <;> simp_all

end Leaf.Selects

namespace Encoding

variable {bytes : List UInt8} {e : Encoding}

lemma scan_eq_ok : scan mode strictLock bytes = .ok e ↔ ∃ h c s c',
    (Head.scan mode).run (.start bytes) = .ok (h, c) ∧
      (h.scanBody mode strictLock).run c = .ok (s, c') ∧
        e = ofSelection mode h s c.position c'.position := by
  unfold scan scanBy
  cases hh : (Head.scan mode).run (.start bytes) with
  | error e => simp
  | ok r =>
    obtain ⟨h, c⟩ := r
    cases hs : (h.scanBody mode strictLock).run c with
    | error e => simp [hs]
    | ok r => simp [hs, Prod.ext_iff, eq_comm]

end Encoding

lemma Head.position_pos_of_scan {bytes : List UInt8}
    (hh : (scan mode).run (.start bytes) = .ok (h, c)) : 0 < c.position := by
  have ht : (Prefixes.scan mode Cursor.maxLength {}).Takes := trivial
  exact lt_position_of_takes (takes_bind_left ht _) hh

end X86
