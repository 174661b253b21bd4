import Mathlib
import X86.Proofs.DrawResults
import X86.Proofs.Survey
import X86.Proofs.VexForms

/-! Prefixes and opcodes whose bytes are read as what they are. -/

namespace X86

open Cursor Scan PrefixByte

variable {mode : Mode} {p : Prefixes} {P t : List UInt8} {b : UInt8} {c : Cursor} {h : Head}

namespace OpcodeRecord

variable {r : OpcodeRecord} {o : Opcode}

def validIn (mode : Mode) (r : OpcodeRecord) : Bool :=
  if mode.isLong then r.validIn64 else r.validOutside64

/-- The bytes of the opcode are no prefixes, and no escape bytes but its own. If they could begin a
VEX prefix, then the mode and the ModR/M byte behind them rule that out. -/
structure Readable (mode : Mode) (r : OpcodeRecord) : Prop where
  notPrefix : r.opcode.map = .primary → ¬IsLegacy mode r.opcode.byte
  notEscape : r.opcode ∉ [⟨.primary, 0x0F⟩, ⟨.map0F, 0x38⟩, ⟨.map0F, 0x3A⟩]
  notVex : r.opcode ∈ [⟨.primary, 0xC4⟩, ⟨.primary, 0xC5⟩] →
    mode.isLong = false ∧ r.hasModRM = true ∧ r.registerForm = false

lemma opcode_of_ofOpcode? (hr : ofOpcode? o = some r) : r.opcode = o := by
  unfold ofOpcode? at hr
  cases ht : o.tree.leaves {} with
  | nil => simp [ht] at hr
  | cons first rest =>
    rw [ht] at hr
    obtain rfl := Option.some.inj hr
    rfl

lemma ofOpcode?_of_mem_all (hr : r ∈ all) : ofOpcode? r.opcode = some r := by
  obtain ⟨o, -, ho⟩ := List.mem_filterMap.mp hr
  rwa [opcode_of_ofOpcode? ho]

lemma validIn_of_isLegacy : IsLegacy mode b →
    ∀ r ∈ ofOpcode? ⟨.primary, b⟩, r.validIn mode = false := by
  revert b
  cases mode <;> decide +kernel

lemma ofOpcode?_of_escape :
    ∀ o ∈ [⟨.primary, 0x0F⟩, ⟨.map0F, 0x38⟩, ⟨.map0F, 0x3A⟩], ofOpcode? o = none := by
  decide

lemma loads_of_vexLead : ∀ o ∈ [⟨.primary, 0xC4⟩, ⟨.primary, 0xC5⟩], ∀ r ∈ ofOpcode? o,
    r.validIn64 = false ∧ r.hasModRM = true ∧ r.registerForm = false := by
  decide

lemma readable_of_validIn (hr : r ∈ all) (hv : r.validIn mode = true) : r.Readable mode := by
  have hsome := ofOpcode?_of_mem_all hr
  constructor
  · intro hm hb
    have hinvalid := validIn_of_isLegacy hb r (by rw [← hm]; exact hsome)
    rw [hv] at hinvalid
    cases hinvalid
  · intro hmem
    rw [ofOpcode?_of_escape _ hmem] at hsome
    cases hsome
  · intro hmem
    obtain ⟨h64, hmodrm⟩ := loads_of_vexLead _ hmem r hsome
    refine ⟨?_, hmodrm⟩
    cases hm : mode.isLong with
    | false => rfl
    | true => simp [validIn, hm, h64] at hv

end OpcodeRecord

namespace Head

lemma run_scan_eq_ok (hP : ∀ x ∈ P, IsLegacy mode x) (hb : ¬IsLegacy mode b) :
    (Head.scan mode).run (.start (P ++ b :: t)) = .ok (h, c) ↔ P.length < maxLength ∧
      (ofLead mode (Prefixes.summary P) b).run ⟨P ++ b :: t, P.length + 1⟩ = .ok (h, c) := by
  have hscan {r : Prefixes × UInt8} {d : Cursor} := @Prefixes.run_scan_eq_ok mode P t b maxLength {}
    (.start (P ++ b :: t)) d r hP hb (rest_start _)
  constructor
  · intro hr
    obtain ⟨⟨q, lead⟩, d, hp, hr⟩ := run_bind_eq_ok.mp hr
    obtain ⟨hlen, -, hq, rfl⟩ := hscan.mp hp
    obtain ⟨rfl, rfl⟩ := Prod.mk.inj hq
    rw [Prefixes.addBytes_eq_summary hP, start, advance, Nat.zero_add] at hr
    exact ⟨hlen, hr⟩
  · rintro ⟨hlen, hr⟩
    refine run_bind_eq_ok.mpr ⟨(Prefixes.summary P, b), ⟨P ++ b :: t, P.length + 1⟩, ?_, hr⟩
    refine hscan.mpr ⟨hlen, ?_, ?_, ?_⟩
    · rwa [start, Nat.zero_add]
    · rw [Prefixes.addBytes_eq_summary hP]
    · rw [start, advance, Nat.zero_add]

lemma run_ofLead_primary (hb : b ≠ 0x0F)
    (hvex : b = 0xC4 ∨ b = 0xC5 → mode.isLong = false ∧ ∃ x, c.current = .ok x ∧ x < 0xC0) :
    (ofLead mode p b).run c = .ok (⟨p, .ofByte b, none⟩, c) := by
  rw [ofLead, if_neg hb]
  split <;> rename_i hlead
  · obtain ⟨hmode, x, hx, hlt⟩ := hvex hlead
    refine run_peek_eq_ok.mpr ⟨x, hx, ?_⟩
    simp only [Scan.bind]
    rw [if_neg]
    · rfl
    · simp [hmode, UInt8.not_le.mpr hlt]
  · rfl

lemma run_scan_opcode {o : Opcode} (hP : ∀ x ∈ P, IsLegacy mode x) (hlen : P.length ≤ 5)
    (hfirst : o.map = .primary → ¬IsLegacy mode o.byte)
    (hescape : o ∉ [⟨.primary, 0x0F⟩, ⟨.map0F, 0x38⟩, ⟨.map0F, 0x3A⟩])
    (hvex : o ∈ [⟨.primary, 0xC4⟩, ⟨.primary, 0xC5⟩] →
      mode.isLong = false ∧ ∃ x ∈ t.head?, x < 0xC0) :
    (Head.scan mode).run (.start (P ++ (o.bytes ++ t))) =
      .ok (⟨Prefixes.summary P, o, none⟩, ⟨P ++ (o.bytes ++ t), P.length + o.bytes.length⟩) := by
  obtain ⟨m, b⟩ := o
  have hshort : P.length < maxLength := hlen.trans_lt (by decide)
  cases hk : m.vexNumber? with
  | none =>
    obtain rfl : m = .primary := by cases m <;> cases hk; rfl
    refine (run_scan_eq_ok hP (hfirst rfl)).mpr ⟨hshort, run_ofLead_primary ?_ ?_⟩
    · rintro rfl
      simp at hescape
    · intro hb
      obtain ⟨hmode, x, hx, hlt⟩ := hvex (by rcases hb with rfl | rfl <;> simp)
      have hpos : P.length + 1 < maxLength := (Nat.succ_le_succ hlen).trans_lt (by decide)
      refine ⟨hmode, x, current_eq_ok.mpr ⟨hpos, ?_⟩, hlt⟩
      rw [rest_append_cons, ← List.head?_eq_getElem?]
      exact hx
  | some k =>
    have hbytes : Opcode.bytes ⟨m, b⟩ ++ t = 0x0F :: (m.escape.tail ++ b :: t) := by
      cases m <;> cases hk <;> rfl
    have hlength : (Opcode.bytes ⟨m, b⟩).length = 1 + m.escape.length ∧ m.escape.length ≤ 2 := by
      cases m <;> cases hk <;> exact ⟨rfl, by decide⟩
    have hnot : ¬IsLegacy mode 0x0F := by
      cases mode <;> decide
    rw [hbytes, hlength.1, ← Nat.add_assoc]
    refine (run_scan_eq_ok hP hnot).mpr
      ⟨hshort, run_ofLead_escape hk ?_ (rest_append_cons _ _ _) ?_⟩
    · rintro rfl
      constructor <;> rintro rfl <;> simp at hescape
    · simp only [maxLength]
      omega

end Head

namespace ModRM

@[simp] lemma ofByte_toByte (m : ModRM) : ofByte m.toByte = m := by
  obtain ⟨mod, reg, rm⟩ := m
  revert mod reg rm
  decide

lemma toByte_lt (m : ModRM) (hm : m.isRegister = false) : m.toByte < 0xC0 := by
  obtain ⟨mod, reg, rm⟩ := m
  revert mod reg rm
  decide

end ModRM

namespace Generator.VexPrefix

variable {v : VexPrefix} {m : OpcodeMap}

def second (v : VexPrefix) : UInt8 :=
  if v.short then UInt8.ofNat (bit (!v.r) 7 + v.last)
  else UInt8.ofNat (bit (!v.r) 7 + bit (!v.x) 6 + bit (!v.b) 5 + v.map)

def third (v : VexPrefix) : UInt8 := UInt8.ofNat (bit v.w 7 + v.last)

lemma bytes_eq (v : VexPrefix) :
    v.bytes = v.lead :: v.second :: if v.short then [] else [v.third] := by
  unfold bytes second third
  cases v.short <;> rfl

lemma Suits.map_cases (hv : v.Suits mode m) :
    m = .map0F ∧ v.map = 1 ∨ m = .map0F38 ∧ v.map = 2 ∨ m = .map0F3A ∧ v.map = 3 := by
  have hmap := hv.map
  cases m <;> simp_all [OpcodeMap.vexNumber?, eq_comm]

lemma Suits.le_second (hv : v.Suits mode m) (hm : mode.isLong = false) : 0xC0 ≤ v.second := by
  obtain ⟨hr, hx, hb⟩ := hv.extension hm
  have hregister := hv.register hm
  have hlong : bit v.long 2 ≤ 4 := by
    cases v.long <;> decide
  have hslot : v.slot.number ≤ 3 := by
    cases v.slot <;> decide
  have hmap : v.map ≤ 3 := by
    rcases hv.map_cases with ⟨-, h⟩ | ⟨-, h⟩ | ⟨-, h⟩ <;> omega
  have hr7 : bit (!v.r) 7 = 128 := by rw [hr]; rfl
  have hx6 : bit (!v.x) 6 = 64 := by rw [hx]; rfl
  have hb5 : bit (!v.b) 5 = 32 := by rw [hb]; rfl
  have hofNat {n : ℕ} (hlow : 192 ≤ n) (hhigh : n < 256) : 0xC0 ≤ UInt8.ofNat n := by
    rw [UInt8.le_iff_toNat_le, UInt8.toNat_ofNat', Nat.mod_eq_of_lt hhigh]
    exact hlow
  unfold second last
  split <;> exact hofNat (by omega) (by omega)

lemma Suits.ofVexNumber?_second (hv : v.Suits mode m) (hs : v.short = false) :
    OpcodeMap.ofVexNumber? (v.second.toNat % 32) = some m := by
  have hbits (r x b : Bool) : OpcodeMap.ofVexNumber? ((UInt8.ofNat
      (bit (!r) 7 + bit (!x) 6 + bit (!b) 5 + v.map)).toNat % 32) = some m := by
    rcases hv.map_cases with ⟨rfl, h⟩ | ⟨rfl, h⟩ | ⟨rfl, h⟩ <;> rw [h] <;>
      cases r <;> cases x <;> cases b <;> decide
  rw [second, if_neg (by simp [hs])]
  exact hbits v.r v.x v.b

end Generator.VexPrefix

open Generator

namespace Head

variable {v : VexPrefix} {m : OpcodeMap} {o : UInt8}

lemma exists_run_ofLead_vex (hv : v.Suits mode m) (hp : p.allowVex = true)
    (hc : c.rest = v.bytes.tail ++ o :: t) (hpos : c.position + v.bytes.length ≤ maxLength) :
    ∃ h, (ofLead mode p v.lead).run c = .ok (h, c.advance v.bytes.length) ∧
      h.opcode = ⟨m, o⟩ ∧ h.vex.isSome = true := by
  rw [v.bytes_eq, List.tail_cons] at hc
  rw [v.bytes_eq] at hpos ⊢
  have hopen : mode.isLong = false → ∃ b ∈ c.rest.head?, 0xC0 ≤ b := fun hm =>
    ⟨v.second, by rw [hc]; rfl, hv.le_second hm⟩
  unfold VexPrefix.lead
  cases hs : v.short with
  | true =>
    rw [hs, if_pos rfl] at hc hpos
    have hm : m = .map0F := by
      have hmap := hv.short hs
      rcases hv.map_cases with ⟨hm, -⟩ | ⟨-, h⟩ | ⟨-, h⟩
      · exact hm
      · omega
      · omega
    have hrun : (shortVex mode p).run c = .ok (ofShortVex mode p v.second o, c.advance 2) :=
      run_shortVex.mpr ⟨hpos, v.second, o, t, hc, rfl, rfl⟩
    exact ⟨_, (run_ofLead_vex (Or.inr rfl) hopen).mpr ⟨hp, hrun⟩, by rw [hm]; rfl, rfl⟩
  | false =>
    rw [hs] at hc hpos
    have hrun : (longVex mode p).run c =
        .ok (ofLongVex mode p v.second v.third m o, c.advance 3) :=
      run_longVex.mpr ⟨hpos, v.second, v.third, o, t, hc, m, hv.ofVexNumber?_second hs, rfl, rfl⟩
    exact ⟨_, (run_ofLead_vex (Or.inl rfl) hopen).mpr ⟨hp, hrun⟩, rfl, rfl⟩

end Head

lemma PrefixByte.isLegacy_of_pool (vex : Bool) :
    ∀ x ∈ if vex then Generator.vexPrefixes else Generator.legacyPrefixes, IsLegacy mode x := by
  cases vex <;> cases mode <;> decide +kernel

lemma Prefixes.allowVex_summary (hP : ∀ x ∈ P, x ∈ Generator.vexPrefixes) :
    (Prefixes.summary P).allowVex = true := by
  have hout : ∀ x ∈ Generator.vexPrefixes, x ≠ 0x66 ∧ x ≠ 0xF0 ∧ x ∉ repeatBytes ∧ ¬IsRex x := by
    decide +kernel
  have h66 : 0x66 ∉ P := fun h => (hout _ (hP _ h)).1 rfl
  have hF0 : 0xF0 ∉ P := fun h => (hout _ (hP _ h)).2.1 rfl
  have hrepeated : lastIn repeatBytes P = none := by
    rw [lastIn, List.getLast?_eq_none_iff, List.filter_eq_nil_iff]
    intro x hx
    simpa using (hout x (hP x hx)).2.2.1
  have hrex : rexIn P = none := by
    rw [rexIn, Option.filter_eq_none_iff]
    intro x hx
    simpa using (hout x (hP x (List.mem_of_getLast? hx))).2.2.2
  simp [allowVex, summary, h66, hF0, hrepeated, hrex]

end X86
