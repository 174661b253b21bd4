import Mathlib
import X86.Prefixes
import X86.Proofs.ScanRuns

namespace X86

open Cursor Scan

variable {mode : Mode} {p : Prefixes} {lead : UInt8} {c c' : Cursor} {h : Head}

lemma Scan.run_byte_iff {x : UInt8} : byte.run c = .ok (x, c') ↔
    c.position < maxLength ∧ (∃ t, c.rest = x :: t) ∧ c' = c.advance 1 := by
  rw [run_byte_eq_ok, current_eq_ok, ← List.head?_eq_getElem?, List.head?_eq_some_iff, and_assoc]

namespace Head

def ofShortVex (mode : Mode) (p : Prefixes) (b o : UInt8) : Head :=
  ⟨{ p with rex := vexRex mode false (b.toNat ||| 0x60) }, ⟨.map0F, o⟩, some (.ofByte mode b)⟩

def ofLongVex (mode : Mode) (p : Prefixes) (b₁ b₂ : UInt8) (m : OpcodeMap) (o : UInt8) : Head :=
  ⟨{ p with rex := vexRex mode (b₂.toNat.testBit 7) b₁.toNat }, ⟨m, o⟩, some (.ofByte mode b₂)⟩

lemma run_shortVex : (shortVex mode p).run c = .ok (h, c') ↔ c.position + 2 ≤ maxLength ∧
    ∃ b o t, c.rest = b :: o :: t ∧ h = ofShortVex mode p b o ∧ c' = c.advance 2 := by
  simp only [shortVex, run_bind_eq_ok, run_byte_iff, run_pure, Except.ok.injEq, Prod.mk.injEq]
  constructor
  · rintro ⟨b, _, ⟨-, ⟨u, hu⟩, rfl⟩, o, _, ⟨hpos, ⟨t, ht⟩, rfl⟩, rfl, rfl⟩
    rw [rest_advance_one hu] at ht
    exact ⟨hpos, b, o, t, by rw [hu, ht], rfl, by rw [advance_advance]⟩
  · rintro ⟨hpos, b, o, t, hc, rfl, rfl⟩
    exact ⟨b, _, ⟨by omega, ⟨_, hc⟩, rfl⟩, o, _, ⟨hpos, ⟨t, rest_advance_one hc⟩, rfl⟩, rfl,
      by rw [advance_advance]⟩

lemma run_longVex : (longVex mode p).run c = .ok (h, c') ↔ c.position + 3 ≤ maxLength ∧
    ∃ b₁ b₂ o t, c.rest = b₁ :: b₂ :: o :: t ∧ ∃ m ∈ OpcodeMap.ofVexNumber? (b₁.toNat % 32),
      h = ofLongVex mode p b₁ b₂ m o ∧ c' = c.advance 3 := by
  rw [longVex, run_bind_eq_ok]
  constructor
  · rintro ⟨b₁, _, hb₁, hr⟩
    obtain ⟨-, ⟨u, hu⟩, rfl⟩ := run_byte_iff.mp hb₁
    cases hm : OpcodeMap.ofVexNumber? (b₁.toNat % 32) with
    | none => simp [hm, run] at hr
    | some m =>
      simp only [hm, run_bind_eq_ok, run_byte_iff, run_pure, Except.ok.injEq, Prod.mk.injEq] at hr
      obtain ⟨b₂, _, ⟨-, ⟨v, hv⟩, rfl⟩, o, _, ⟨hpos, ⟨t, ht⟩, rfl⟩, rfl, rfl⟩ := hr
      rw [rest_advance_one hv] at ht
      rw [rest_advance_one hu] at hv
      exact ⟨hpos, b₁, b₂, o, t, by rw [hu, hv, ht], m, hm, rfl, by simp only [advance_advance]⟩
  · rintro ⟨hpos, b₁, b₂, o, t, hc, m, hm, rfl, rfl⟩
    have hc' := rest_advance_one hc
    refine ⟨b₁, _, run_byte_iff.mpr ⟨by omega, ⟨_, hc⟩, rfl⟩, ?_⟩
    simp only [Option.mem_def.mp hm, run_bind_eq_ok, run_byte_iff, run_pure, Except.ok.injEq,
      Prod.mk.injEq]
    exact ⟨b₂, _, ⟨by simp; omega, ⟨_, hc'⟩, rfl⟩, o, _, ⟨hpos, ⟨t, rest_advance_one hc'⟩, rfl⟩,
      rfl, by simp only [advance_advance]⟩

lemma run_ofLead_vex (hlead : lead = 0xC4 ∨ lead = 0xC5)
    (hb : mode.isLong = false → ∃ b ∈ c.rest.head?, 0xC0 ≤ b) :
    (ofLead mode p lead).run c = .ok (h, c') ↔ p.allowVex = true ∧
      (if lead = 0xC5 then shortVex mode p else longVex mode p).run c = .ok (h, c') := by
  have hne : lead ≠ 0x0F := by
    rcases hlead with rfl | rfl <;> decide
  have hopen {x : UInt8} (hx : x ∈ c.rest.head?) : mode.isLong = true ∨ 0xC0 ≤ x := by
    refine (Bool.eq_false_or_eq_true mode.isLong).imp_right fun hm => ?_
    obtain ⟨b, hb, hle⟩ := hb hm
    rwa [← Option.mem_unique hb hx]
  have hbehind {x : UInt8} (hx : x ∈ c.rest.head?) :
      ((if mode.isLong = true ∨ 0xC0 ≤ x then do
          require p.allowVex .invalid
          if lead = 0xC5 then shortVex mode p else longVex mode p
        else return ⟨p, .ofByte lead, none⟩ : Scan Head)).run c = .ok (h, c') ↔
      p.allowVex = true ∧
        (if lead = 0xC5 then shortVex mode p else longVex mode p).run c = .ok (h, c') := by
    rw [if_pos (hopen hx)]
    simp only [run_bind_eq_ok, run_require_eq_ok]
    constructor
    · rintro ⟨_, _, ⟨hp, rfl⟩, hr⟩
      exact ⟨hp, hr⟩
    · rintro ⟨hp, hr⟩
      exact ⟨(), c, ⟨hp, rfl⟩, hr⟩
  -- the byte behind the lead is looked at first, and either form of the prefix then takes it
  rw [ofLead, if_neg hne, if_pos hlead]
  change (Scan.peek _).run c = _ ↔ _
  rw [run_peek_eq_ok]
  constructor
  · rintro ⟨x, hx, hr⟩
    have hx := (current_eq_ok.mp hx).2
    exact (hbehind (by rwa [← List.head?_eq_getElem?] at hx)).mp hr
  · rintro ⟨hp, hr⟩
    obtain ⟨hpos, b, u, hc⟩ : c.position < maxLength ∧ ∃ b u, c.rest = b :: u := by
      split at hr
      · obtain ⟨hpos, b, o, t, hc, -⟩ := run_shortVex.mp hr
        exact ⟨by omega, b, _, hc⟩
      · obtain ⟨hpos, b, v, o, t, hc, -⟩ := run_longVex.mp hr
        exact ⟨by omega, b, _, hc⟩
    exact ⟨b, current_of_rest hc hpos, (hbehind (by simp [hc])).mpr ⟨hp, hr⟩⟩

end Head

end X86
