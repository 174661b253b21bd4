import Mathlib
import X86.Proofs.ByteDemand
import X86.Proofs.LegacyPrefixes
import X86.Proofs.VexHeads
import X86.Proofs.WellFormed

/-! The VEX form and the legacy form of an entry are the same instruction, but for the register that
only the VEX prefix names. -/

namespace X86

open Cursor Scan PrefixByte

variable {mode : Mode} {strictLock : Bool} {slot : PrefixSlot} {rex : Rex} {m : OpcodeMap}
  {o : UInt8} {c c' : Cursor} {s : Selection}

@[mk_iff]
structure Leaf.VexRules (l : Leaf) : Prop where
  required : l.path.vex = some true → l.entry.vexUse = .required
  trailing : l.entry.vexUse ≠ .never → ∀ z ∈ [Size.word, .dword, .qword],
    ∀ a ∈ [Size.word, .dword, .qword], l.entry.trailingBytes z a ≤ 1

instance (l : Leaf) : Decidable l.VexRules := decidable_of_iff _ (Leaf.vexRules_iff l).symm

lemma OpcodeMap.vexRules_of_table (m : OpcodeMap) :
    ∀ t ∈ m.table, ∀ l ∈ t.leaves {}, l.VexRules := by
  cases m <;> decide +kernel

lemma DecodeTree.isSome_vex_of_leaves {t : DecodeTree} {p : DecodePath} {l : Leaf}
    (hl : l ∈ t.leaves p) (hp : p.vex.isSome = true) : l.path.vex.isSome = true := by
  induction t generalizing p with
  | undefined => simp [leaves] at hl
  | leaf e =>
    obtain rfl : l = ⟨p, e⟩ := by simpa [leaves] using hl
    exact hp
  | byReg next ih | byRm next ih | bySlot next ih =>
    obtain ⟨x, -, hl⟩ := List.mem_flatMap.mp hl
    exact ih x hl hp
  | byForm memory register ihm ihr =>
    rcases List.mem_append.mp hl with hl | hl
    · exact ihm hl hp
    · exact ihr hl hp
  | byMode legacy long ihl ihr =>
    rcases List.mem_append.mp hl with hl | hl
    · exact ihl hl hp
    · exact ihr hl hp
  | byVex legacy vex ihl ihr =>
    rcases List.mem_append.mp hl with hl | hl
    · exact ihl hl rfl
    · exact ihr hl rfl
  | byVexLength short long ihl ihr =>
    rcases List.mem_append.mp hl with hl | hl
    · exact ihl hl hp
    · exact ihr hl rfl

lemma PrefixSlot.isLegacy_bytes (s : PrefixSlot) : ∀ x ∈ s.bytes, IsLegacy mode x := by
  cases s <;> cases mode <;> decide +kernel

def PrefixSlot.repeated? : PrefixSlot → Option RepeatPrefix
  | pF3 => some .repz
  | pF2 => some .repnz
  | _ => none

namespace Head

def vexForm (slot : PrefixSlot) (rex : Rex) (o : Opcode) : Head :=
  ⟨{ rex := some rex }, o, some ⟨false, slot, 0⟩⟩

def legacyForm (slot : PrefixSlot) (rex : Rex) (o : Opcode) : Head :=
  ⟨{ operandSize := slot == .p66, repeated := slot.repeated?, rex := some rex }, o, none⟩

lemma slot_legacyForm {o : Opcode} {next : PrefixSlot → DecodeTree}
    (hn : (next slot).isDefined = true) : (legacyForm slot rex o).slot next = slot := by
  cases slot <;> simp [Head.slot, slotWhere, legacyForm, PrefixSlot.repeated?, hn]

end Head

open Head

variable {op : Opcode}

lemma DecodeTree.isDefined_of_select {t : DecodeTree} {h : Head} {m? : Option ModRM}
    {slot : Option PrefixSlot} (hs : (t.select mode h m? slot).run c = .ok (s, c')) :
    t.isDefined = true := by
  cases t with
  | undefined => simp [select, run] at hs
  | _ => rfl

/-- The two forms part at a node that asks for a VEX prefix. -/
lemma DecodeTree.node_legacyForm {t t' : DecodeTree}
    (hn : t.node mode (vexForm slot rex op).vex = .known t') :
    t.node mode (legacyForm slot rex op).vex = .known t' ∨ ∃ legacy, t = .byVex legacy t' := by
  cases t with
  | byMode _ _ | byVexLength _ _ => exact Or.inl hn
  | byVex legacy vex =>
    cases hn
    exact Or.inr ⟨legacy, rfl⟩
  | _ => cases hn

lemma DecodeTree.select_legacyForm {t : DecodeTree} {p : DecodePath} {m? : Option ModRM}
    {slot? : Option PrefixSlot} (hp : p.Follows mode (vexForm slot rex op) m? slot?)
    (hl : ∀ l ∈ t.leaves p, l.path.vex = some true → l.entry.vexUse = .required)
    (hu : s.entry.vexUse ≠ .required)
    (hs : (t.select mode (vexForm slot rex op) m? slot?).run c = .ok (s, c')) :
    (t.select mode (legacyForm slot rex op) m? slot?).run c = .ok (s, c') ∧
      (s.slot = slot? ∨ s.slot = some slot) := by
  induction t using node_induction mode (vexForm slot rex op).vex generalizing p m? slot? c with
  | undefined => simp [select, run] at hs
  | leaf e =>
    obtain ⟨rfl, rfl⟩ : _ = s ∧ c = c' := by simpa [select] using hs
    exact ⟨rfl, Or.inl rfl⟩
  | modrm t next hn ih =>
    have hn' : t.node mode (legacyForm slot rex op).vex = .modrm next := by
      cases t with
      | byReg _ | byForm _ _ | byRm _ => exact hn
      | _ => cases hn
    rw [select_modrm hn] at hs
    rw [select_modrm hn']
    obtain ⟨x, d, ht, hs⟩ := ModRM.run_scan_eq_ok.mp hs
    obtain ⟨p', hp', hleaves⟩ := hp.of_modrm hn ht
    obtain ⟨hr, hslot⟩ := ih x hp' (fun l h => hl l (hleaves l h)) hs
    exact ⟨ModRM.run_scan_eq_ok.mpr ⟨x, d, ht, hr⟩, hslot⟩
  | slot next ih =>
    change ((next slot).select mode (vexForm slot rex op) m? (some slot)).run c = _ at hs
    obtain ⟨p', hp', hleaves⟩ := hp.of_slot next slot
    obtain ⟨hr, hslot⟩ := ih slot hp' (fun l h => hl l (hleaves l h)) hs
    simp only [select, slot_legacyForm (isDefined_of_select hs)]
    exact ⟨hr, Or.inr (hslot.elim id id)⟩
  | known t t' hn ih =>
    rw [select_known hn] at hs
    rcases node_legacyForm hn with hn' | ⟨legacy, rfl⟩
    · rw [select_known hn']
      obtain ⟨p', hp', hleaves⟩ := hp.of_known hn
      exact ih hp' (fun l h => hl l (hleaves l h)) hs
    · -- what is behind a VEX prefix requires one
      obtain ⟨-, l, hmem, he, hf⟩ := leaf_of_select (p := { p with vex := some true })
        { hp with vex := by simp [vexForm] } hs
      obtain ⟨v, hv⟩ := Option.isSome_iff_exists.mp (isSome_vex_of_leaves hmem rfl)
      obtain rfl : true = v := hf.vex v hv
      exact absurd (he ▸ hl l (List.mem_append_right _ hmem) hv) hu

namespace Selection

def TakesSlot (s : Selection) (slot : PrefixSlot) : Prop :=
  s.slot = some slot ∨ s.slot = none ∧ slot = .plain

lemma takesSlot_of_suits (hs : s.SuitsPrefixes mode (vexForm slot rex op))
    (h : s.slot = none ∨ s.slot = some slot) : s.TakesSlot slot := by
  rcases h with h | h
  · have hplain := hs.slot ⟨false, slot, 0⟩ rfl
    rw [h] at hplain
    exact Or.inr ⟨h, by simpa using hplain⟩
  · exact Or.inl h

lemma suits_legacyForm (hs : s.SuitsPrefixes mode (vexForm slot rex op))
    (hslot : s.TakesSlot slot) (hu : s.entry.vexUse ≠ .required) :
    s.SuitsPrefixes mode (legacyForm slot rex op) := by
  refine ⟨hs.available, hu, ?_, nofun, nofun, nofun⟩
  intro _ hrep hplain
  rcases hslot with h | ⟨h, -⟩
  · rw [h] at hplain
    rcases hplain with hplain | hplain <;> obtain rfl := Option.some.inj hplain <;>
      exact absurd rfl hrep
  · simp [h] at hplain

lemma overridesSize_legacyForm (hslot : s.TakesSlot slot) :
    s.overridesSize (legacyForm slot rex op) = s.overridesSize (vexForm slot rex op) := by
  simp only [overridesSize, legacyForm, vexForm, Bool.false_and]
  rcases hslot with h | ⟨h, rfl⟩
  · cases slot <;> simp [h]
  · rfl

lemma operandSize_legacyForm (hslot : s.TakesSlot slot) :
    s.operandSize mode (legacyForm slot rex op) = s.operandSize mode (vexForm slot rex op) := by
  rw [operandSize, overridesSize_legacyForm hslot]
  rfl

lemma flags_legacyForm (hslot : s.TakesSlot slot) :
    s.flags (legacyForm slot rex op) = s.flags (vexForm slot rex op) := by
  rcases hslot with h | ⟨-, rfl⟩
  · cases slot <;> simp [flags, legacyForm, vexForm, PrefixSlot.repeated?, h]
  · rfl

end Selection

namespace Head

lemma run_scanBody_legacyForm
    (hs : ((vexForm slot rex op).scanBody mode strictLock).run c = .ok (s, c'))
    (hu : s.entry.vexUse ≠ .required) :
    ((legacyForm slot rex op).scanBody mode strictLock).run c = .ok (s, c') ∧
      s.TakesSlot slot := by
  obtain ⟨s₀, c₀, c₁, c₂, hsel, hpre, hmod, haddr, hdrop, -⟩ := run_scanBody_eq_ok.mp hs
  obtain ⟨hsuits, -⟩ := Selection.suits_of_checkPrefixes hpre
  obtain ⟨-, heq, -⟩ := Selection.taken_of_withModRM hmod
  have hu₀ : s₀.entry.vexUse ≠ .required := by rwa [heq] at hu
  have hrules (l : Leaf) (hl : l ∈ op.tree.leaves {}) :=
    Opcode.forall_leaves OpcodeMap.vexRules_of_table hl
  obtain ⟨hsel', hslot⟩ := DecodeTree.select_legacyForm DecodePath.Follows.empty
    (fun l hl => (hrules l hl).required) hu₀ hsel
  have hslot₀ := Selection.takesSlot_of_suits hsuits hslot
  have hslot : s.TakesSlot slot := by
    rw [heq]
    exact hslot₀
  have hpre' : (s₀.checkPrefixes mode (legacyForm slot rex op)).run c₀ = .ok ((), c₀) :=
    Selection.checkPrefixes_of_suits (Selection.suits_legacyForm hsuits hslot₀ hu₀)
  have htrailing : s.trailing mode (legacyForm slot rex op) =
      s.trailing mode (vexForm slot rex op) := by
    rw [Selection.trailing, Selection.operandSize_legacyForm hslot]
    rfl
  refine ⟨run_scanBody_eq_ok.mpr ⟨s₀, c₀, c₁, c₂, hsel', hpre', hmod, haddr, ?_, ?_⟩, hslot⟩
  · rwa [htrailing]
  · simp [legacyForm]

lemma position_of_scanBody_le {h : Head} (hs : (h.scanBody mode strictLock).run c = .ok (s, c')) :
    c'.position ≤ c.position + 6 + s.trailing mode h := by
  obtain ⟨-, -, c₁, c₂, ht, ha, rfl, -⟩ := accepted_of_scanBody hs
  have hmodrm := ht.position_add
  have haddr := ha.position_le
  rw [Option.isNone_none, Bool.toNat_true] at hmodrm
  rw [advance_position]
  split at haddr <;> omega

lemma trailing_vexForm_le
    (hs : ((vexForm slot rex op).scanBody mode strictLock).run c = .ok (s, c')) :
    s.trailing mode (vexForm slot rex op) ≤ 1 := by
  obtain ⟨hacc, ⟨l, hl⟩, -⟩ := accepted_of_scanBody hs
  have hrules := Opcode.forall_leaves OpcodeMap.vexRules_of_table hl.mem
  have hmem {z : Size} (hz : z.IsGeneral) : z ∈ [Size.word, .dword, .qword] := by
    rcases hz with rfl | rfl | rfl <;> decide
  rw [Selection.trailing, ← hl.entry]
  refine hrules.trailing ?_ _ (hmem (s.isGeneral_operandSize _)) _
    (hmem (Prefixes.isGeneral_effectiveAddressSize _))
  rw [hl.entry]
  exact hacc.vexUse

end Head

namespace Rex

def toByte (r : Rex) : UInt8 :=
  UInt8.ofNat (0x40 + 8 * r.w.toNat + 4 * r.r.toNat + 2 * r.x.toNat + r.b.toNat)

def vexSecond (r : Rex) (map : ℕ) : UInt8 :=
  UInt8.ofNat (128 * (!r.r).toNat + 64 * (!r.x).toNat + 32 * (!r.b).toNat + map)

def vexThird (r : Rex) (slot : PrefixSlot) : UInt8 :=
  UInt8.ofNat (128 * r.w.toNat + 8 * 15 + slot.number)

lemma isRex_toByte (r : Rex) : IsRex r.toByte := by
  obtain ⟨w, r, x, b⟩ := r
  cases w <;> cases r <;> cases x <;> cases b <;> decide

lemma ofByte_toByte (r : Rex) : ofByte r.toByte = r := by
  obtain ⟨w, r, x, b⟩ := r
  cases w <;> cases r <;> cases x <;> cases b <;> rfl

lemma testBit_vexThird (r : Rex) : (r.vexThird slot).toNat.testBit 7 = r.w := by
  simp only [vexThird]
  generalize r.w = w
  cases w <;> cases slot <;> decide

lemma vexRex_vexSecond (r : Rex) {k : ℕ} (hk : m.vexNumber? = some k) :
    vexRex .bits64 r.w (r.vexSecond k).toNat = some r := by
  obtain ⟨w, r, x, b⟩ := r
  cases m <;> cases hk <;> revert w r x b <;> decide

lemma ofVexNumber?_vexSecond (r : Rex) {k : ℕ} (hk : m.vexNumber? = some k) :
    OpcodeMap.ofVexNumber? ((r.vexSecond k).toNat % 32) = some m := by
  obtain ⟨w, r, x, b⟩ := r
  cases m <;> cases hk <;> revert w r x b <;> decide

lemma ofByte_vexThird (r : Rex) : Vex.ofByte .bits64 (r.vexThird slot) = ⟨false, slot, 0⟩ := by
  simp only [vexThird]
  generalize r.w = w
  cases w <;> cases slot <;> decide

end Rex

namespace Head

variable {t : List UInt8} {k : ℕ}

def vexBytes (slot : PrefixSlot) (rex : Rex) (map : ℕ) : List UInt8 :=
  [0xC4, rex.vexSecond map, rex.vexThird slot]

def legacyPrefixes (slot : PrefixSlot) (rex : Rex) : List UInt8 := slot.bytes ++ [rex.toByte]

def legacyBytes (slot : PrefixSlot) (rex : Rex) (m : OpcodeMap) : List UInt8 :=
  legacyPrefixes slot rex ++ m.escape

lemma isLegacy_legacyPrefixes : ∀ x ∈ legacyPrefixes slot rex, IsLegacy .bits64 x := by
  intro x hx
  rcases List.mem_append.mp hx with hx | hx
  · exact slot.isLegacy_bytes x hx
  · rw [List.mem_singleton.mp hx]
    exact Or.inr (Or.inr (Or.inr ⟨rfl, rex.isRex_toByte⟩))

lemma length_legacyBytes (hk : m.vexNumber? = some k) :
    (legacyPrefixes slot rex).length + m.escape.length = (legacyBytes slot rex m).length ∧
      1 ≤ m.escape.length ∧ (legacyBytes slot rex m).length ≤ 4 := by
  refine ⟨List.length_append.symm, ?_⟩
  cases m <;> cases hk <;> cases slot <;>
    simp [legacyBytes, legacyPrefixes, OpcodeMap.escape, PrefixSlot.bytes]

lemma legacyBytes_append (hk : m.vexNumber? = some k) (u : List UInt8) :
    legacyBytes slot rex m ++ u = legacyPrefixes slot rex ++ 0x0F :: (m.escape.tail ++ u) := by
  cases m <;> cases hk <;> simp [legacyBytes, OpcodeMap.escape]

lemma run_ofLead_vexBytes (hk : m.vexNumber? = some k) :
    (ofLead .bits64 {} 0xC4).run ⟨vexBytes slot rex k ++ o :: t, 1⟩ =
      .ok (vexForm slot rex ⟨m, o⟩, ⟨vexBytes slot rex k ++ o :: t, 4⟩) := by
  have hhead : ofLongVex .bits64 {} (rex.vexSecond k) (rex.vexThird slot) m o =
      vexForm slot rex ⟨m, o⟩ := by
    rw [ofLongVex, rex.testBit_vexThird, rex.vexRex_vexSecond hk, rex.ofByte_vexThird]
    rfl
  refine (run_ofLead_vex (Or.inl rfl) fun hm => by cases hm).mpr ⟨rfl, ?_⟩
  rw [if_neg (by decide), ← hhead]
  exact run_longVex.mpr ⟨by simp [maxLength], rex.vexSecond k, rex.vexThird slot, o, t, rfl, m,
    rex.ofVexNumber?_vexSecond hk, rfl, rfl⟩

lemma run_ofLead_escape {p : Prefixes} (hk : m.vexNumber? = some k)
    (ho : m = .map0F → o ≠ 0x38 ∧ o ≠ 0x3A) (hc : c.rest = m.escape.tail ++ o :: t)
    (hpos : c.position + m.escape.length ≤ maxLength) :
    (ofLead mode p 0x0F).run c = .ok (⟨p, ⟨m, o⟩, none⟩, c.advance m.escape.length) := by
  rw [ofLead, if_pos rfl]
  cases m with
  | primary => cases hk
  | map0F =>
    obtain ⟨h38, h3A⟩ := ho rfl
    refine run_bind_eq_ok.mpr ⟨⟨.map0F, o⟩, _,
      run_bind_eq_ok.mpr ⟨o, _, run_byte_of_rest hc hpos, ?_⟩, rfl⟩
    rw [if_neg h38, if_neg h3A]
    rfl
  | map0F38 =>
    refine run_bind_eq_ok.mpr ⟨⟨.map0F38, o⟩, _,
      run_bind_eq_ok.mpr ⟨0x38, _, run_byte_of_rest hc (Nat.lt_of_succ_lt hpos), ?_⟩, rfl⟩
    exact run_bind_eq_ok.mpr ⟨o, _, run_byte_of_rest (rest_advance_one hc) hpos, rfl⟩
  | map0F3A =>
    refine run_bind_eq_ok.mpr ⟨⟨.map0F3A, o⟩, _,
      run_bind_eq_ok.mpr ⟨0x3A, _, run_byte_of_rest hc (Nat.lt_of_succ_lt hpos), ?_⟩, rfl⟩
    exact run_bind_eq_ok.mpr ⟨o, _, run_byte_of_rest (rest_advance_one hc) hpos, rfl⟩

lemma ne_escape_of_scanBody {h : Head} (ho : h.opcode = ⟨m, o⟩)
    (hs : (h.scanBody mode strictLock).run c = .ok (s, c')) :
    m = .map0F → o ≠ 0x38 ∧ o ≠ 0x3A := by
  rintro rfl
  obtain ⟨s₀, c₀, _, _, hsel, -⟩ := run_scanBody_eq_ok.mp hs
  have hdef := DecodeTree.isDefined_of_select hsel
  rw [ho] at hdef
  constructor <;> rintro rfl <;> cases hdef

lemma summary_legacyPrefixes (op : Opcode) :
    Prefixes.summary (legacyPrefixes slot rex) = (legacyForm slot rex op).prefixes := by
  have hrex := rex.isRex_toByte
  rw [legacyPrefixes, @Prefixes.summary_concat .bits64 _ _ (Or.inr (Or.inr (Or.inr ⟨rfl, hrex⟩))),
    ofByte?_of_isRex hrex, Rex.ofByte_toByte]
  cases slot <;> rfl

lemma run_ofLead_legacyBytes (hk : m.vexNumber? = some k)
    (ho : m = .map0F → o ≠ 0x38 ∧ o ≠ 0x3A) :
    (ofLead .bits64 (Prefixes.summary (legacyPrefixes slot rex)) 0x0F).run
        ⟨legacyBytes slot rex m ++ o :: t, (legacyPrefixes slot rex).length + 1⟩ =
      .ok (legacyForm slot rex ⟨m, o⟩,
        ⟨legacyBytes slot rex m ++ o :: t, (legacyBytes slot rex m).length + 1⟩) := by
  obtain ⟨hlen, hescape, hle⟩ := @length_legacyBytes slot rex m k hk
  have hrest :
      Cursor.rest ⟨legacyBytes slot rex m ++ o :: t, (legacyPrefixes slot rex).length + 1⟩ =
        m.escape.tail ++ o :: t := by
    rw [legacyBytes_append hk]
    exact rest_append_cons _ _ _
  rw [summary_legacyPrefixes ⟨m, o⟩, run_ofLead_escape hk ho hrest]
  · rw [advance, ← hlen]
    congr 3
    dsimp only
    omega
  · dsimp only [maxLength]
    omega

end Head

def Encoding.withoutVex (e : Encoding) : Encoding := { e with vex := none }

def Instruction.withoutVex (i : Instruction) (shapes : List OperandShape) : Instruction :=
  { i with
    vex := false
    operands := ((shapes.zip i.operands).filter fun p => !p.1.usesVexRegister).map Prod.snd }

namespace Fields

variable {x y : Fields}

lemma operands_withoutVex (h : x.Similar y) (hy : y.encoding.isVex = false)
    {ss : List OperandShape} (hx : ∀ s ∈ ss, ∀ c, (x.operand c s).1.isSome = true) (c : Cursor) :
    y.operands ss c =
      (((ss.zip (x.operands ss c).1).filter fun p => !p.1.usesVexRegister).map Prod.snd,
        (x.operands ss c).2) := by
  -- the register of a VEX prefix takes no bytes, so leaving it out moves no later operand
  induction ss generalizing c with
  | nil => rfl
  | cons s ss ih =>
    have ih := ih fun s' hs' => hx s' (List.mem_cons_of_mem s hs')
    obtain ⟨a, ha⟩ := Option.isSome_iff_exists.mp (hx s List.mem_cons_self c)
    simp only [operands, ha, Option.toList_some, List.singleton_append, List.zip_cons_cons]
    cases hu : s.usesVexRegister with
    | true =>
      have hc : (x.operand c s).2 = c := by
        cases s with
        | vectorVex w | generalVex w => rfl
        | _ => cases hu
      rw [operand_of_lacking hu hy, List.filter_cons_of_neg (by simp [hu]), hc]
      simp only [Option.toList_none, List.nil_append, ih]
    | false =>
      have hsame := h.operand (s := s) (fun hs => by simp [hu] at hs) c
      rw [← hsame, ha, List.filter_cons_of_pos (by simp [hu])]
      simp only [Option.toList_some, List.singleton_append, ih, List.map_cons]

end Fields

namespace Encoding

variable {e : Encoding}

lemma similar_withoutVex (he : e.vexLong = false) : e.Similar e.withoutVex :=
  ⟨rfl, rfl, rfl, he, rfl, rfl⟩

lemma readBehind_withoutVex (hl : e.vexLong = false) (hv : e.isVex = true)
    (hm : e.shapes.any OperandShape.memoryOnly = true →
      (Fields.behindOpcode mode e o c).1.memory.isSome = true) :
    e.withoutVex.readBehind mode o c =
      (((e.shapes.zip (e.readBehind mode o c).1).filter fun p => !p.1.usesVexRegister).map Prod.snd,
        (e.readBehind mode o c).2) := by
  obtain ⟨hx, hc⟩ :=
    @Fields.Similar.behindOpcode mode mode e e.withoutVex (similar_withoutVex hl) rfl o c
  have hshapes : e.withoutVex.shapes = e.shapes := rfl
  simp only [readBehind, hshapes, ← hc]
  refine Fields.operands_withoutVex hx ?_ (fun s hs c => ?_) _
  · rw [Fields.encoding_behindOpcode]
    rfl
  · refine Fields.isSome_operand (fun hmem => hm ?_) (fun _ => ?_) c
    · exact List.any_eq_true.mpr ⟨s, hs, hmem⟩
    · rwa [Fields.encoding_behindOpcode]

lemma extract_withoutVex {bytes : List UInt8} (hl : e.vexLong = false) (hv : e.isVex = true)
    (hm : e.shapes.any OperandShape.memoryOnly = true →
      (Fields.read mode bytes e).1.memory.isSome = true) :
    e.withoutVex.extract mode bytes = (e.extract mode bytes).withoutVex e.shapes ∧
      e.withoutVex.finish mode bytes = e.finish mode bytes := by
  have hread := readBehind_withoutVex (c := ⟨bytes, e.operandOffset⟩)
    (o := bytes.getD e.opcodeOffset 0) hl hv hm
  constructor
  · rw [extract_eq, extract_eq]
    change Instruction.mk _ _ _ _ _ _ _ (e.withoutVex.readBehind mode
      (bytes.getD e.opcodeOffset 0) ⟨bytes, e.operandOffset⟩).1 = _
    rw [hread]
    rfl
  · have hfinish : e.withoutVex.readBehind mode (bytes.getD e.opcodeOffset 0)
        ⟨bytes, e.operandOffset⟩ = _ := readBehind_eq bytes e.withoutVex
    rw [hread, readBehind_eq] at hfinish
    exact (congrArg Prod.snd hfinish).symm

variable {t : List UInt8} {k : ℕ}

lemma scan_vexBytes (hk : m.vexNumber? = some k)
    (he : scan .bits64 strictLock (vexBytes slot rex k ++ o :: t) = .ok e) :
    ∃ s c', ((vexForm slot rex ⟨m, o⟩).scanBody .bits64 strictLock).run
        ⟨vexBytes slot rex k ++ o :: t, 4⟩ = .ok (s, c') ∧
      e = ofSelection .bits64 (vexForm slot rex ⟨m, o⟩) s 4 c'.position := by
  have hlead : ¬IsLegacy .bits64 0xC4 := by decide
  obtain ⟨-, h, s, c', hr, rfl⟩ := (scan_append_eq_ok (P := []) (by simp) hlead).mp he
  obtain ⟨d, hh, hn, hs, hm⟩ := Head.run_behindLead_iff.mp hr
  obtain ⟨hhead, rfl⟩ := Prod.mk.inj (Except.ok.inj (hh.symm.trans (run_ofLead_vexBytes hk)))
  rw [hhead] at hs
  have hle : 4 ≤ c'.position := position_le_of_run hs
  refine ⟨s.1, c', hs, ?_⟩
  rw [hhead, hm, hn]
  simp only [List.length_nil]
  congr 1
  omega

lemma ofSelection_legacyForm (hslot : s.TakesSlot slot) (body stop body' stop' : ℕ) :
    ofSelection mode (legacyForm slot rex op) s body' stop' =
      (ofSelection mode (vexForm slot rex op) s body stop).withoutVex.moved (body' - 1) stop' := by
  simp only [ofSelection, Selection.operandSize_legacyForm hslot,
    Selection.flags_legacyForm hslot]
  rfl

lemma scan_legacyBytes (hk : m.vexNumber? = some k)
    (hs : ((vexForm slot rex ⟨m, o⟩).scanBody .bits64 strictLock).run
      ⟨vexBytes slot rex k ++ o :: t, 4⟩ = .ok (s, c'))
    (hu : s.entry.vexUse ≠ .required) :
    scan .bits64 strictLock (legacyBytes slot rex m ++ o :: t) =
      .ok ((ofSelection .bits64 (vexForm slot rex ⟨m, o⟩) s 4 c'.position).withoutVex.moved
        (legacyBytes slot rex m).length (c'.position - 3 + (legacyBytes slot rex m).length)) := by
  obtain ⟨hlen, hescape, hle⟩ := @length_legacyBytes slot rex m k hk
  obtain ⟨hs', hslot⟩ := run_scanBody_legacyForm hs hu
  -- behind their heads the two forms are of one length, which leaves room for the longer head
  have hend : c'.position ≤ 4 + 6 + s.trailing .bits64 (vexForm slot rex ⟨m, o⟩) :=
    position_of_scanBody_le hs
  have htrailing := trailing_vexForm_le hs
  have hstart : 4 ≤ c'.position := position_le_of_run hs
  have hrest : Cursor.rest
      ⟨legacyBytes slot rex m ++ o :: t, (legacyBytes slot rex m).length + 1⟩ = t :=
    rest_append_cons _ _ _
  have hbody := run_transport (steady_scanBody _)
    (d := ⟨legacyBytes slot rex m ++ o :: t, (legacyBytes slot rex m).length + 1⟩)
    (by simp) (by rw [hrest]; exact List.prefix_rfl) (by simp only [maxLength]; omega) hs'
  have hhead := @run_ofLead_legacyBytes slot rex m o t k hk (ne_escape_of_scanBody rfl hs)
  have hlead : ¬IsLegacy .bits64 0x0F := by decide
  rw [legacyBytes_append hk] at hhead hbody ⊢
  refine (scan_append_eq_ok isLegacy_legacyPrefixes hlead).mpr ⟨by simp only [maxLength]; omega,
    (legacyForm slot rex ⟨m, o⟩, m.escape.length), (s, m.escape.length + (c'.position - 4)), _,
    Head.run_behindLead_iff.mpr ⟨_, hhead, ?_, hbody, ?_⟩, ?_⟩
  · simp only
    omega
  · simp only [advance_position]
    omega
  · rw [ofSelection_legacyForm hslot 4 c'.position]
    congr 1 <;> simp only <;> omega

end Encoding

namespace Instruction

variable {t : List UInt8} {k : ℕ} {e : Encoding} {i : Instruction}

/-- An entry that has both a VEX form and a legacy form decodes to the same instruction from both,
but for the register of the VEX prefix and the length of the head. -/
theorem decode_legacyBytes (hk : m.vexNumber? = some k)
    (he : Encoding.scan .bits64 strictLock (vexBytes slot rex k ++ o :: t) = .ok e)
    (hu : e.entry.vexUse ≠ .required)
    (hi : decode .bits64 strictLock (vexBytes slot rex k ++ o :: t) = .ok i) :
    decode .bits64 strictLock (legacyBytes slot rex m ++ o :: t) =
      .ok { i.withoutVex e.shapes with
        length := i.length - (vexBytes slot rex k).length + (legacyBytes slot rex m).length } := by
  obtain ⟨e', he', rfl⟩ := decode_eq_ok.mp hi
  obtain rfl : e = e' := Except.ok.inj (he.symm.trans he')
  obtain ⟨s, c', hs, hes⟩ := Encoding.scan_vexBytes hk he
  have hentry : e.entry = s.entry := by rw [hes]; rfl
  have hlegacy := Encoding.scan_legacyBytes hk hs (hentry ▸ hu)
  rw [← hes] at hlegacy
  have hlen : e.length = c'.position := by rw [hes]; rfl
  have hoffset : e.withoutVex.opcodeOffset = (vexBytes slot rex k).length + 0 := by rw [hes]; rfl
  obtain ⟨hextract, hfinish⟩ := Encoding.extract_withoutVex (e := e) (by rw [hes]; rfl)
    (by rw [hes]; rfl) (Encoding.isSome_memory_read hs (Nat.succ_pos 3) hes)
  have hend := Encoding.position_finish_of_scan he
  rw [← hfinish] at hend
  have hmoved := @Encoding.extract_append_moved .bits64 (vexBytes slot rex k)
    (legacyBytes slot rex m) t o e.withoutVex 0
    (c'.position - 3 + (legacyBytes slot rex m).length) hoffset hend
  refine decode_eq_ok.mpr ⟨_, hlegacy, hmoved.trans ?_⟩
  rw [hextract, ← hlen]
  rfl

theorem decode_legacyBytes_paddb :
    decode .bits64 true [0x66, 0x45, 0x0F, 0xFC, 0x44, 0x8B, 0x10] =
      .ok ⟨.sse .PADDB, false, 7, none, .none, .dword, .qword,
        [.register ⟨.xmm, .xmmword, 8⟩,
          .memory ⟨.xmmword, some ⟨.gpr, .qword, 11⟩, some ⟨.gpr, .qword, 1⟩, 4, 16⟩]⟩ := by
  have hi : decode .bits64 true (vexBytes .p66 ⟨false, true, false, true⟩ 1 ++
      0xFC :: [0x44, 0x8B, 0x10]) =
        .ok ⟨.sse .PADDB, true, 7, none, .none, .dword, .qword,
          [.register ⟨.xmm, .xmmword, 8⟩, .register ⟨.xmm, .xmmword, 0⟩,
            .memory ⟨.xmmword, some ⟨.gpr, .qword, 11⟩, some ⟨.gpr, .qword, 1⟩, 4, 16⟩]⟩ := rfl
  have hk : OpcodeMap.map0F.vexNumber? = some 1 := rfl
  exact decode_legacyBytes hk rfl (by decide) hi

end Instruction

end X86
