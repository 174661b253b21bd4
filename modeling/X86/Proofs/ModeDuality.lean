import Mathlib
import X86.Proofs.LegacyPrefixes

/-! Outside 64-bit mode the result depends on the mode only through the sizes in effect: with both
sizes overridden, each of the two modes decodes what the other one does. -/

namespace X86

open Cursor Scan PrefixByte

variable {mode : Mode} {strictLock : Bool} {p : Prefixes} {h : Head} {s : Selection} {m : ModRM}
  {c c' : Cursor} {lead : UInt8}

def Mode.other : Mode → Mode
  | bits16 => bits32
  | bits32 => bits16
  | bits64 => bits64

@[simp] lemma Mode.isLong_other (mode : Mode) : mode.other.isLong = mode.isLong := by
  cases mode <;> rfl

def Prefixes.exchanged (p : Prefixes) : Prefixes :=
  { p with operandSize := !p.operandSize, addressSize := !p.addressSize }

def Head.exchanged (h : Head) : Head := { h with prefixes := h.prefixes.exchanged }

/-- Whether the way to an instruction leads through a row of mandatory prefixes that has an
instruction for the prefix 66. It is the way outside 64-bit mode and without a VEX prefix. -/
def DecodeTree.meetsRow66 (h : Head) (m : ModRM) : DecodeTree → Bool
  | undefined | leaf _ => false
  | byReg next => (next m.reg).meetsRow66 h m
  | byForm memory register =>
    if m.isRegister then register.meetsRow66 h m else memory.meetsRow66 h m
  | byRm next => (next m.rm).meetsRow66 h m
  | bySlot next => (next .p66).isDefined || (next (h.slot next)).meetsRow66 h m
  | byMode legacy _ => legacy.meetsRow66 h m
  | byVex legacy _ => legacy.meetsRow66 h m
  | byVexLength short _ => short.meetsRow66 h m

def Head.meetsRow66 (h : Head) (behind : List UInt8) : Bool :=
  h.opcode.tree.meetsRow66 h (.ofByte (behind.headD 0))

lemma Head.slot_exchanged {next : PrefixSlot → DecodeTree} (hv : h.vex = none)
    (hn : (next .p66).isDefined = false) :
    h.exchanged.slot next = h.slot next ∧ h.slot next ≠ .p66 := by
  simp only [slot, slotWhere, exchanged, Prefixes.exchanged, hv, hn, Bool.and_false, true_and]
  cases h.prefixes.repeated with
  | none => simp
  | some r => cases r <;> dsimp only <;> split <;> simp

lemma ModRM.run_scan_congr {α : Type} {m : Option ModRM} {k k' : ModRM → Scan α}
    (hk : ∀ x d, Taken m c (some x) d → (k x).run d = (k' x).run d) :
    (ModRM.scan m k).run c = (ModRM.scan m k').run c := by
  cases m with
  | some x => exact hk x c (Taken.refl _ _)
  | none =>
    simp only [ModRM.scan, run, Cursor.fetch]
    cases hb : c.current with
    | ok b => exact hk (ofByte b) (c.advance 1) (Or.inr ⟨rfl, b, hb, rfl, rfl⟩)
    | error e => rfl

def ModRM.Only (m : ModRM) (m? : Option ModRM) (c : Cursor) : Prop :=
  ∀ x d, Taken m? c (some x) d → x = m

lemma ModRM.only_some (m : ModRM) (c : Cursor) : m.Only (some m) c := by
  rintro x d (⟨hx, -⟩ | ⟨hx, -⟩)
  · exact Option.some.inj hx
  · cases hx

lemma ModRM.only_none (c : Cursor) : (ofByte (c.rest.headD 0)).Only none c := by
  rintro x d (⟨hx, -⟩ | ⟨-, b, hb, hx, -⟩)
  · cases hx
  · obtain rfl := Option.some.inj hx
    obtain ⟨-, hb⟩ := current_eq_ok.mp hb
    rw [List.headD_eq_head?_getD, List.head?_eq_getElem?, hb, Option.getD_some]

namespace DecodeTree

variable {t t' : DecodeTree} {next : ModRM → DecodeTree} {m? : Option ModRM}
  {slot : Option PrefixSlot} {vex : Option Vex}

lemma node_other (mode : Mode) (vex : Option Vex) (t : DecodeTree) :
    t.node mode.other vex = t.node mode vex := by
  cases t with
  | byMode legacy long => simp only [node, Mode.isLong_other]
  | _ => rfl

lemma meetsRow66_modrm (hn : t.node mode vex = .modrm next) :
    t.meetsRow66 h m = (next m).meetsRow66 h m :=
  eq_of_modrm (f := meetsRow66 h m) hn (fun _ => rfl) (fun _ => rfl) fun _ _ => rfl

lemma meetsRow66_known (hm : mode.isLong = false) (hv : vex = none)
    (hn : t.node mode vex = .known t') : t.meetsRow66 h m = t'.meetsRow66 h m := by
  subst hv
  refine eq_of_known (f := meetsRow66 h m) hn (fun a b => ?_) (fun _ _ => rfl) fun _ _ => rfl
  rw [hm]
  rfl

lemma run_select_exchanged (hm : mode.isLong = false) (hv : h.vex = none) (hx : m.Only m? c)
    (ht : t.meetsRow66 h m = false) :
    (t.select mode.other h.exchanged m? slot).run c = (t.select mode h m? slot).run c := by
  -- once a node has asked for the ModR/M byte it is `some m`, so `hx` is proved anew for its branch
  induction t using node_induction mode h.vex generalizing m? slot c with
  | undefined => rfl
  | leaf e => rfl
  | modrm t next hn ih =>
    rw [select_modrm hn, select_modrm (h := h.exchanged) ((node_other mode _ t).trans hn)]
    apply ModRM.run_scan_congr
    intro x d hd
    obtain rfl := hx x d hd
    exact ih x (ModRM.only_some _ _) (meetsRow66_modrm hn ▸ ht)
  | slot next ih =>
    simp only [meetsRow66, Bool.or_eq_false_iff] at ht
    simp only [select, (Head.slot_exchanged hv ht.1).1]
    exact ih _ hx ht.2
  | known t t' hn ih =>
    rw [select_known hn, select_known (h := h.exchanged) ((node_other mode _ t).trans hn)]
    exact ih hx (meetsRow66_known hm hv hn ▸ ht)

lemma slot_ne_of_select (hm : mode.isLong = false) (hv : h.vex = none) (hx : m.Only m? c)
    (ht : t.meetsRow66 h m = false) (hslot : slot ≠ some .p66)
    (hs : (t.select mode h m? slot).run c = .ok (s, c')) : s.slot ≠ some .p66 := by
  induction t using node_induction mode h.vex generalizing m? slot c with
  | undefined => simp [select, run] at hs
  | leaf e =>
    obtain ⟨rfl, -⟩ : _ = s ∧ c = c' := by simpa [select] using hs
    exact hslot
  | modrm t next hn ih =>
    rw [select_modrm hn] at hs
    obtain ⟨x, d, hd, hs⟩ := ModRM.run_scan_eq_ok.mp hs
    obtain rfl := hx x d hd
    exact ih x (ModRM.only_some _ _) (meetsRow66_modrm hn ▸ ht) hslot hs
  | slot next ih =>
    -- the row has no instruction for 66, so that its slot is another one
    simp only [meetsRow66, Bool.or_eq_false_iff] at ht
    refine ih _ hx ht.2 ?_ hs
    simpa using (Head.slot_exchanged hv ht.1).2
  | known t t' hn ih =>
    rw [select_known hn] at hs
    exact ih hx (meetsRow66_known hm hv hn ▸ ht) hslot hs

end DecodeTree

lemma Prefixes.effectiveAddressSize_exchanged (hm : mode.isLong = false) (p : Prefixes) :
    p.exchanged.effectiveAddressSize mode.other = p.effectiveAddressSize mode := by
  cases mode with
  | bits64 => cases hm
  | bits16 | bits32 =>
    cases hp : p.addressSize <;> simp [effectiveAddressSize, exchanged, hp] <;> rfl

namespace Selection

lemma operandSize_exchanged (hm : mode.isLong = false) (hs : s.slot ≠ some .p66) :
    s.operandSize mode.other h.exchanged = s.operandSize mode h := by
  have hslot : (s.slot != some .p66) = true := by simpa using hs
  have hover (g : Head) : s.overridesSize g = g.prefixes.operandSize := by
    rw [overridesSize, hslot, Bool.and_true]
  cases mode with
  | bits64 => cases hm
  | bits16 | bits32 =>
    cases hp : h.prefixes.operandSize <;>
      simp [operandSize, hover, Head.exchanged, Prefixes.exchanged, hp] <;> rfl

lemma flags_exchanged (s : Selection) (h : Head) : s.flags h.exchanged = s.flags h := rfl

lemma checkPrefixes_exchanged (s : Selection) (h : Head) :
    s.checkPrefixes mode.other h.exchanged = s.checkPrefixes mode h := by
  have havail : s.entry.availableIn mode.other = s.entry.availableIn mode := by
    simp only [Entry.availableIn, Mode.isLong_other]
  rw [checkPrefixes, checkPrefixes, havail]
  rfl

end Selection

namespace Head

lemma run_scanBody_exchanged (hm : mode.isLong = false) (hv : h.vex = none)
    (hrow : h.meetsRow66 c.rest = false) :
    (h.exchanged.scanBody mode.other strictLock).run c = (h.scanBody mode strictLock).run c := by
  have haddr := Prefixes.effectiveAddressSize_exchanged hm h.prefixes
  apply run_bind_congr
  · exact DecodeTree.run_select_exchanged hm hv (ModRM.only_none c) hrow
  intro s d hs
  have hslot := DecodeTree.slot_ne_of_select hm hv (ModRM.only_none c) hrow (by simp) hs
  apply run_bind_congr
  · rw [Selection.checkPrefixes_exchanged]
  intro _ d _
  apply run_bind_congr rfl
  intro s' d' hs'
  obtain ⟨-, heq, -⟩ := Selection.taken_of_withModRM hs'
  have hslot' : s'.slot ≠ some .p66 := by rwa [heq]
  dsimp only
  rw [Selection.operandSize_exchanged hm hslot']
  change Scan.run (do
    s'.scanAddress h.prefixes.rex (h.prefixes.exchanged.effectiveAddressSize mode.other)
    Scan.drop (s'.entry.trailingBytes (s'.operandSize mode h)
      (h.prefixes.exchanged.effectiveAddressSize mode.other))
    Scan.require (!(strictLock && h.prefixes.lock && !s'.lockAllowed)) .invalid
    return s') d' = _
  rw [haddr]

lemma slot_ne_of_scanBody (hm : mode.isLong = false) (hv : h.vex = none)
    (hrow : h.meetsRow66 c.rest = false)
    (hs : (h.scanBody mode strictLock).run c = .ok (s, c')) : s.slot ≠ some .p66 := by
  obtain ⟨s₀, d, _, _, hsel, -, hmod, -⟩ := run_scanBody_eq_ok.mp hs
  obtain ⟨-, heq, -⟩ := Selection.taken_of_withModRM hmod
  have hslot := DecodeTree.slot_ne_of_select hm hv (ModRM.only_none c) hrow (by simp) hsel
  rwa [heq]

lemma WithVex.vex_ne_none (hh : h.WithVex mode p) : h.vex ≠ none := by
  obtain ⟨-, w, bits, o, last, rfl⟩ := hh
  simp

lemma run_ofLead_exchanged (hm : mode.isLong = false) (hp : p.operandSize = false) {g : Head} :
    (ofLead mode.other p.exchanged lead).run c = .ok (g, c') ↔
      ∃ h, (ofLead mode p lead).run c = .ok (h, c') ∧ h.vex = none ∧ g = h.exchanged := by
  have plain (o : Opcode) (d : Cursor) :
      (pure ⟨p.exchanged, o, none⟩ : Scan Head).run d = .ok (g, c') ↔
        ∃ h, (pure ⟨p, o, none⟩ : Scan Head).run d = .ok (h, c') ∧ h.vex = none ∧
          g = h.exchanged := by
    simp only [run_pure, Except.ok.injEq, Prod.mk.injEq]
    constructor
    · rintro ⟨rfl, rfl⟩
      exact ⟨_, ⟨rfl, rfl⟩, rfl, rfl⟩
    · rintro ⟨h, ⟨rfl, rfl⟩, -, rfl⟩
      exact ⟨rfl, rfl⟩
  simp only [ofLead]
  split
  · simp only [run_bind_eq_ok, plain]
    constructor
    · rintro ⟨o, d, ho, h, hr⟩
      exact ⟨h, ⟨o, d, ho, hr.1⟩, hr.2⟩
    · rintro ⟨h, ⟨o, d, ho, hr⟩, hg⟩
      exact ⟨o, d, ho, h, hr, hg⟩
  · split
    · simp only [run_bind_eq_ok, Mode.isLong_other, hm, Bool.false_eq_true, false_or]
      constructor
      · rintro ⟨next, d, hn, hr⟩
        split at hr <;> rename_i hnext
        · -- an operand-size prefix keeps a VEX prefix from following
          obtain ⟨_, _, hallow, -⟩ := run_bind_eq_ok.mp hr
          obtain ⟨hallow, -⟩ := run_require_eq_ok.mp hallow
          simp [Prefixes.allowVex, Prefixes.exchanged, hp] at hallow
        · obtain ⟨h, hr, hh⟩ := (plain _ _).mp hr
          exact ⟨h, ⟨next, d, hn, by rwa [if_neg hnext]⟩, hh⟩
      · rintro ⟨h, ⟨next, d, hn, hr⟩, hv, rfl⟩
        refine ⟨next, d, hn, ?_⟩
        split at hr <;> rename_i hnext
        · obtain ⟨_, d', hallow, hr⟩ := run_bind_eq_ok.mp hr
          obtain ⟨hallow, -⟩ := run_require_eq_ok.mp hallow
          split at hr
          · exact absurd hv (of_run_of_yields (yields_shortVex hallow) hr).vex_ne_none
          · exact absurd hv (of_run_of_yields (yields_longVex hallow) hr).vex_ne_none
        · rw [if_neg hnext]
          exact (plain _ _).mpr ⟨h, hr, hv, rfl⟩
    · exact plain _ _

lemma run_behindLead_exchanged (hm : mode.isLong = false) (hp : p.operandSize = false)
    (hrow : ∀ h d, (ofLead mode p lead).run c = .ok (h, d) → h.vex = none →
      h.meetsRow66 d.rest = false) {g : Head × ℕ} {s : Selection × ℕ} :
    (behindLead mode.other strictLock p.exchanged lead).run c = .ok ((g, s), c') ↔
      ∃ h : Head × ℕ, (behindLead mode strictLock p lead).run c = .ok ((h, s), c') ∧
        h.1.vex = none ∧ g = (h.1.exchanged, h.2) := by
  simp only [run_behindLead_iff]
  constructor
  · rintro ⟨d, hg, hn, hs, hm'⟩
    obtain ⟨h, hh, hv, hgh⟩ := (run_ofLead_exchanged hm hp).mp hg
    rw [hgh, run_scanBody_exchanged hm hv (hrow h d hh hv)] at hs
    exact ⟨(h, g.2), ⟨d, hh, hn, hs, hm'⟩, hv, Prod.ext hgh rfl⟩
  · rintro ⟨h, ⟨d, hh, hn, hs, hm'⟩, hv, rfl⟩
    refine ⟨d, (run_ofLead_exchanged hm hp).mpr ⟨h.1, hh, hv, rfl⟩, hn, ?_, hm'⟩
    rwa [run_scanBody_exchanged hm hv (hrow h.1 d hh hv)]

end Head

namespace Prefixes

variable {P : List UInt8}

lemma summary_exchanged (h66 : 0x66 ∉ P) (h67 : 0x67 ∉ P) :
    summary (0x66 :: 0x67 :: P) = (summary P).exchanged := by
  have hlast (kind : List UInt8) (hk : 0x66 ∉ kind ∧ 0x67 ∉ kind) :
      lastIn kind (0x66 :: 0x67 :: P) = lastIn kind P := by
    simp [lastIn_cons, hk]
  have hrex : rexIn (0x66 :: 0x67 :: P) = rexIn P := by
    rw [rexIn_cons (by decide), rexIn_cons (by decide)]
  have hrep := hlast repeatBytes (by decide)
  have hseg := hlast segmentBytes (by decide)
  have hlock : 0xF0 ∈ 0x66 :: 0x67 :: P ↔ 0xF0 ∈ P := by simp
  have hoperand : decide (0x66 ∈ 0x66 :: 0x67 :: P) = !decide (0x66 ∈ P) := by simp [h66]
  have haddress : decide (0x67 ∈ 0x66 :: 0x67 :: P) = !decide (0x67 ∈ P) := by simp [h67]
  simp only [summary, exchanged, hrep, hseg, hrex, hlock, hoperand, haddress]

end Prefixes

namespace Encoding

variable {P t : List UInt8} {b : UInt8} {e : Encoding}

lemma ofSelection_exchanged (hm : mode.isLong = false) (hs : s.slot ≠ some .p66)
    (body stop : ℕ) : ofSelection mode.other h.exchanged s body stop =
      ofSelection mode h s body stop := by
  have haddr := Prefixes.effectiveAddressSize_exchanged hm h.prefixes
  simp only [ofSelection, Selection.operandSize_exchanged hm hs, Selection.flags_exchanged]
  simp only [Head.exchanged, haddr]
  rfl

lemma isLegacy_other (hm : mode.isLong = false) (x : UInt8) :
    IsLegacy mode.other x ↔ IsLegacy mode x := by
  cases mode with
  | bits64 => cases hm
  | bits16 | bits32 => simp [IsLegacy, Mode.other]

lemma isLegacy_overrides (hm : mode.isLong = false) (hP : ∀ x ∈ P, IsLegacy mode x) :
    ∀ x ∈ 0x66 :: 0x67 :: P, IsLegacy mode.other x := by
  intro x hx
  rw [isLegacy_other hm]
  rcases List.mem_cons.mp hx with rfl | hx
  · exact Or.inl (by decide)
  · rcases List.mem_cons.mp hx with rfl | hx
    · exact Or.inl (by decide)
    · exact hP x hx

lemma scan_exchanged (hm : mode.isLong = false) (hP : ∀ x ∈ P, IsLegacy mode x)
    (h66 : 0x66 ∉ P) (h67 : 0x67 ∉ P) (hb : ¬IsLegacy mode b)
    (hrow : ∀ h c, (Head.scan mode).run (.start (P ++ b :: t)) = .ok (h, c) → h.vex = none →
      h.meetsRow66 c.rest = false) {e' : Encoding} :
    scan mode.other strictLock ((0x66 :: 0x67 :: P) ++ b :: t) = .ok e' ↔
      ∃ e, scan mode strictLock (P ++ b :: t) = .ok e ∧ e.vex = none ∧
        e.length + 2 ≤ maxLength ∧ e' = e.moved (e.opcodeOffset + 2) (e.length + 2) := by
  have hQ := isLegacy_overrides hm hP
  have hb' : ¬IsLegacy mode.other b := by rwa [isLegacy_other hm]
  have hlead (hlen : P.length < maxLength) (h : Head) (d : Cursor)
      (hh : (Head.ofLead mode (Prefixes.summary P) b).run ⟨P ++ b :: t, P.length + 1⟩ =
        .ok (h, d)) (hv : h.vex = none) : h.meetsRow66 d.rest = false := by
    refine hrow h d (run_bind_eq_ok.mpr ⟨(Prefixes.summary P, b), _, ?_, hh⟩) hv
    refine (Prefixes.run_scan_eq_ok hP hb (rest_start _)).mpr ⟨hlen, ?_, ?_, ?_⟩
    · simpa [start] using hlen
    · rw [Prefixes.addBytes_eq_summary hP]
    · rw [start, advance, Nat.zero_add]
  have hmoved {h : Head × ℕ} {s : Selection × ℕ} (hslot : s.1.slot ≠ some .p66) :
      ofSelection mode.other h.1.exchanged s.1 ((0x66 :: 0x67 :: P).length + 1 + h.2)
          ((0x66 :: 0x67 :: P).length + 1 + s.2) =
        (ofSelection mode h.1 s.1 (P.length + 1 + h.2) (P.length + 1 + s.2)).moved
          (P.length + 1 + h.2 - 1 + 2) (P.length + 1 + s.2 + 2) := by
    rw [ofSelection_exchanged hm hslot]
    simp only [ofSelection, moved, List.length_cons, Encoding.mk.injEq, true_and, and_true]
    omega
  have hslot {h : Head × ℕ} {s : Selection × ℕ} {d : Cursor} (hlen : P.length < maxLength)
      (hv : h.1.vex = none) (hr : (Head.behindLead mode strictLock (Prefixes.summary P) b).run
        ⟨P ++ b :: t, P.length + 1⟩ = .ok ((h, s), d)) : s.1.slot ≠ some .p66 := by
    obtain ⟨d', hh, -, hs, -⟩ := Head.run_behindLead_iff.mp hr
    exact Head.slot_ne_of_scanBody hm hv (hlead hlen h.1 d' hh hv) hs
  have hplain : (Prefixes.summary P).operandSize = false := by simp [Prefixes.summary, h66]
  -- both ways: move the run behind the other prefixes, and exchange the modes there
  constructor
  · intro he
    obtain ⟨hlen, g, s, c', hr, rfl⟩ := (scan_append_eq_ok hQ hb').mp he
    have hlenP : P.length < maxLength := by simp only [List.length_cons] at hlen; omega
    obtain ⟨-, -, hpos⟩ := Head.run_behindLead_eq_ok hr
    have hend := position_of_run_le (by simp [maxLength] at hlen ⊢; omega) hr
    simp only [hpos, List.length_cons, le_min_iff] at hend
    have hmove := run_behindLead_moved (Q := P) hr (by omega)
    rw [Prefixes.summary_exchanged h66 h67] at hmove
    obtain ⟨h, hr', hv, rfl⟩ := (Head.run_behindLead_exchanged hm hplain (hlead hlenP)).mp hmove
    refine ⟨_, (scan_append_eq_ok hP hb).mpr ⟨hlenP, h, s, _, hr', rfl⟩, hv, ?_,
      hmoved (hslot hlenP hv hr')⟩
    simp only [ofSelection]
    omega
  · rintro ⟨e, he, hv, hlen, rfl⟩
    obtain ⟨hlenP, h, s, c', hr, rfl⟩ := (scan_append_eq_ok hP hb).mp he
    have hr' := (Head.run_behindLead_exchanged hm hplain (hlead hlenP)).mpr ⟨h, hr, hv, rfl⟩
    rw [← Prefixes.summary_exchanged h66 h67] at hr'
    simp only [ofSelection] at hlen
    have hmove := run_behindLead_moved (Q := 0x66 :: 0x67 :: P) hr' (by simp; omega)
    refine (scan_append_eq_ok hQ hb').mpr ⟨?_, _, s, _, hmove, (hmoved (hslot hlenP hv hr)).symm⟩
    simp only [List.length_cons]
    omega

lemma length_le_opcodeOffset (hP : ∀ x ∈ P, IsLegacy mode x) (hb : ¬IsLegacy mode b)
    (he : scan mode strictLock (P ++ b :: t) = .ok e) : P.length ≤ e.opcodeOffset := by
  obtain ⟨-, h, s, c', -, rfl⟩ := (scan_append_eq_ok hP hb).mp he
  simp only [ofSelection]
  omega

lemma extract_exchanged (hP : ∀ x ∈ P, IsLegacy mode x)
    (hb : ¬IsLegacy mode b) (he : scan mode strictLock (P ++ b :: t) = .ok e) :
    (e.moved (e.opcodeOffset + 2) (e.length + 2)).extract mode.other
        ((0x66 :: 0x67 :: P) ++ b :: t) =
      { e.extract mode (P ++ b :: t) with length := e.length + 2 } := by
  have hoffset := length_le_opcodeOffset hP hb he
  obtain ⟨n, hn⟩ := Nat.exists_eq_add_of_le hoffset
  rw [@extract_congr mode.other mode (by simp),
    ← extract_append_moved (Q := 0x66 :: 0x67 :: P) hn (position_finish_of_scan he)]
  congr 2
  simp only [List.length_cons]
  omega

end Encoding

namespace Instruction

variable {t : List UInt8}

/-- What one of the modes of 16 and 32 bits decodes, the other decodes behind the prefixes 66 and
67. Left out are bytes that have one of these among their prefixes, VEX encodings, and rows of
mandatory prefixes to which 66 belongs. -/
theorem decode_exchanged (hm : mode.isLong = false)
    (hp : ∀ b ∈ t.takeWhile (IsLegacy mode ·), b ≠ 0x66 ∧ b ≠ 0x67)
    (hv : ∀ e, Encoding.scan mode strictLock t = .ok e → e.isVex = false)
    (hrow : ∀ h c, (Head.scan mode).run (.start t) = .ok (h, c) → h.vex = none →
      h.meetsRow66 c.rest = false) (i' : Instruction) :
    decode mode.other strictLock (0x66 :: 0x67 :: t) = .ok i' ↔
      ∃ i, decode mode strictLock t = .ok i ∧ i.length ≤ 13 ∧
        i' = { i with length := i.length + 2 } := by
  have hP : ∀ x ∈ t.takeWhile (IsLegacy mode ·), IsLegacy mode x := by
    intro x hx
    simpa using List.mem_takeWhile_imp hx
  have h66 : 0x66 ∉ t.takeWhile (IsLegacy mode ·) := fun hx => (hp _ hx).1 rfl
  have h67 : 0x67 ∉ t.takeWhile (IsLegacy mode ·) := fun hx => (hp _ hx).2 rfl
  have ht := List.takeWhile_append_dropWhile (p := (IsLegacy mode ·)) (l := t)
  have hlead := List.head?_dropWhile_not (IsLegacy mode ·) t
  generalize t.takeWhile (IsLegacy mode ·) = P at hP h66 h67 ht
  generalize t.dropWhile (IsLegacy mode ·) = rest at ht hlead
  subst ht
  simp only [decode_eq_ok]
  cases rest with
  | nil =>
    rw [List.append_nil]
    constructor
    · rintro ⟨e, he, -⟩
      exact absurd he (Encoding.scan_ne_ok (Encoding.isLegacy_overrides hm hP))
    · rintro ⟨_, ⟨e, he, -⟩, -⟩
      exact absurd he (Encoding.scan_ne_ok hP)
  | cons b t =>
    have hb : ¬IsLegacy mode b := by simpa using hlead
    constructor
    · rintro ⟨e', he', rfl⟩
      obtain ⟨e, he, -, hlen, rfl⟩ := (Encoding.scan_exchanged hm hP h66 h67 hb hrow).mp he'
      refine ⟨_, ⟨e, he, rfl⟩, ?_, Encoding.extract_exchanged hP hb he⟩
      exact Nat.le_of_add_le_add_right (b := 2) hlen
    · rintro ⟨_, ⟨e, he, rfl⟩, hlen, rfl⟩
      have hvex : e.vex = none := by simpa [Encoding.isVex] using hv e he
      refine ⟨_, (Encoding.scan_exchanged hm hP h66 h67 hb hrow).mpr
        ⟨e, he, hvex, Nat.add_le_add_right hlen 2, rfl⟩, ?_⟩
      exact Encoding.extract_exchanged hP hb he

theorem decode_exchanged_mov :
    decode .bits16 true [0x66, 0x67, 0x26, 0x8B, 0x44, 0x8D, 0x10] =
      .ok ⟨.general .MOV, false, 7, some (.segment 0), .none, .dword, .dword,
        [.register ⟨.gpr, .dword, 0⟩,
          .memory ⟨.dword, some ⟨.gpr, .dword, 5⟩, some ⟨.gpr, .dword, 1⟩, 4, 16⟩]⟩ := by
  have hv (e : Encoding)
      (he : Encoding.scan .bits32 true [0x26, 0x8B, 0x44, 0x8D, 0x10] = .ok e) :
      e.isVex = false := by
    obtain rfl := Except.ok.inj he
    rfl
  have hrow (h : Head) (c : Cursor)
      (hh : (Head.scan .bits32).run (.start [0x26, 0x8B, 0x44, 0x8D, 0x10]) = .ok (h, c))
      (_ : h.vex = none) : h.meetsRow66 c.rest = false := by
    cases hh
    rfl
  exact (decode_exchanged rfl (by decide +kernel) hv hrow _).mpr
    ⟨_, rfl, by decide, rfl⟩

end Instruction

end X86
