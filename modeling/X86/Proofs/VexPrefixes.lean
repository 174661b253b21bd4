import Mathlib
import X86.Proofs.HeadBytes
import X86.Proofs.PrefixStability

/-! VEX prefixes read from their bytes: the heads that they make, the extension bits in effect, and
the prefix of three bytes that says what one of two bytes says. -/

namespace X86

open Cursor Scan PrefixByte

variable {mode : Mode} {strictLock : Bool} {p : Prefixes} {P A B t : List UInt8}
  {b b₁ b₂ o lead : UInt8} {c c' : Cursor} {h : Head}

lemma PrefixByte.not_isLegacy_vexLead (hlead : lead = 0xC4 ∨ lead = 0xC5) :
    ¬IsLegacy mode lead := by
  rcases hlead with rfl | rfl <;> cases mode <;> decide

lemma PrefixByte.mem_vexPrefixes : b = 0x67 ∨ b ∈ segmentBytes → b ∈ Generator.vexPrefixes := by
  revert b
  decide +kernel

lemma le_longSecond : 0xC0 ≤ b → 0xC0 ≤ b &&& 0x80 ||| 0x61 := by
  revert b
  decide +kernel

namespace Head

lemma ofLongVex_of_short (mode : Mode) (p : Prefixes) (b o : UInt8) :
    ofLongVex mode p (b &&& 0x80 ||| 0x61) (b &&& 0x7F) .map0F o = ofShortVex mode p b o := by
  have hrex : ∀ b : UInt8, vexRex mode ((b &&& 0x7F).toNat.testBit 7) (b &&& 0x80 ||| 0x61).toNat =
      vexRex mode false (b.toNat ||| 0x60) := by
    cases mode <;> decide +kernel
  have hvex : ∀ b : UInt8, Vex.ofByte mode (b &&& 0x7F) = Vex.ofByte mode b := by
    cases mode <;> decide +kernel
  rw [ofLongVex, ofShortVex, hrex, hvex]

lemma run_scan_vex (hP : ∀ x ∈ P, x = 0x67 ∨ x ∈ segmentBytes)
    (hlead : lead = 0xC4 ∨ lead = 0xC5) (hb : mode.isLong = false → ∃ b ∈ t.head?, 0xC0 ≤ b) :
    (Head.scan mode).run (.start (P ++ lead :: t)) = .ok (h, c) ↔ P.length < maxLength ∧
      (if lead = 0xC5 then shortVex mode (Prefixes.summary P)
        else longVex mode (Prefixes.summary P)).run ⟨P ++ lead :: t, P.length + 1⟩ =
          .ok (h, c) := by
  have hpool (x : UInt8) (hx : x ∈ P) := mem_vexPrefixes (hP x hx)
  have hrest := rest_append_cons P lead t
  rw [run_scan_eq_ok (fun x hx => isLegacy_of_pool true x (hpool x hx))
      (not_isLegacy_vexLead hlead), run_ofLead_vex hlead (by rwa [hrest]),
    Prefixes.allowVex_summary hpool]
  simp

lemma run_scan_vexForms (hP : ∀ x ∈ P, x = 0x67 ∨ x ∈ segmentBytes)
    (hb : mode.isLong = false → 0xC0 ≤ b) (hpos : P.length + 4 ≤ maxLength) :
    ∃ h : Head, ∀ A ∈ [P ++ [0xC5, b], P ++ [0xC4, b &&& 0x80 ||| 0x61, b &&& 0x7F]],
      (Head.scan mode).run (.start (A ++ o :: t)) = .ok (h, ⟨A ++ o :: t, A.length + 1⟩) := by
  have hmap : ∀ b : UInt8,
      OpcodeMap.ofVexNumber? ((b &&& 0x80 ||| 0x61).toNat % 32) = some .map0F := by decide +kernel
  refine ⟨ofShortVex mode (Prefixes.summary P) b o, ?_⟩
  simp only [List.forall_mem_cons, List.append_assoc, List.cons_append, List.nil_append,
    List.length_append, List.length_cons, List.length_nil]
  refine ⟨?_, ?_, by simp⟩
  · refine (run_scan_vex hP (Or.inr rfl) fun hm => ⟨b, rfl, hb hm⟩).mpr ⟨by omega, ?_⟩
    exact run_shortVex.mpr ⟨by dsimp only; omega, b, o, t, rest_append_cons P _ _, rfl, rfl⟩
  · rw [← ofLongVex_of_short]
    refine (run_scan_vex hP (Or.inl rfl) fun hm => ⟨_, rfl, le_longSecond (hb hm)⟩).mpr
      ⟨by omega, ?_⟩
    exact run_longVex.mpr
      ⟨hpos, _, _, o, t, rest_append_cons P _ _, .map0F, hmap b, rfl, rfl⟩

end Head

/-- The extension bits in effect: those of a VEX prefix, which stand inverted and count in 64-bit
mode only, or those of a REX prefix right before the opcode. -/
def Rex.inEffect (mode : Mode) (bytes : List UInt8) : Option Rex :=
  match bytes.dropWhile (IsLegacy mode ·) with
  | 0xC5 :: b :: _ =>
    if mode.isLong then some ⟨false, !b.toNat.testBit 7, false, false⟩ else none
  | 0xC4 :: b₁ :: b₂ :: _ =>
    if mode.isLong then
      some ⟨b₂.toNat.testBit 7, !b₁.toNat.testBit 7, !b₁.toNat.testBit 6, !b₁.toNat.testBit 5⟩
    else none
  | _ => (rexIn (bytes.takeWhile (IsLegacy mode ·))).map Rex.ofByte

namespace Head

lemma prefixes_of_ofLead_opcode (hlead : ¬(lead = 0xC4 ∨ lead = 0xC5))
    (hr : (ofLead mode p lead).run c = .ok (h, c')) : h.prefixes = p := by
  unfold ofLead at hr
  split at hr
  · obtain ⟨o, d, -, ho⟩ := run_bind_eq_ok.mp hr
    obtain ⟨rfl, -⟩ : _ = h ∧ d = c' := by simpa using ho
    rfl
  · obtain ⟨rfl, -⟩ : _ = h ∧ c = c' := by simpa using hr
    rfl

lemma rex_of_ofLead (hm : mode.isLong = false) (hp : p.rex = none)
    (hr : (ofLead mode p lead).run c = .ok (h, c')) : h.prefixes.rex = none :=
  (of_run_of_yields yields_ofLead hr).rex_eq_none hm hp

end Head

namespace Encoding

variable {bytes : List UInt8} {e : Encoding}

theorem rex_of_scan (he : scan mode strictLock bytes = .ok e) :
    e.rex = Rex.inEffect mode bytes := by
  obtain ⟨lead, t, hbytes, hlead, hP⟩ := exists_lead_of_scan he
  have hdrop : bytes.dropWhile (IsLegacy mode ·) = lead :: t :=
    List.append_cancel_left (List.takeWhile_append_dropWhile.trans hbytes)
  obtain ⟨h, c, s, c', hh, -, rfl⟩ := scan_eq_ok.mp he
  rw [hbytes, Head.run_scan_eq_ok hP hlead] at hh
  rw [Rex.inEffect, hdrop]
  change h.prefixes.rex = _
  -- the short form has no room for X and B, which stand inverted, so that 60 sets them
  have hlong : ∀ b : UInt8, Head.vexRex .bits64 false (b.toNat ||| 0x60) =
      some ⟨false, !b.toNat.testBit 7, false, false⟩ := by decide +kernel
  cases hm : mode.isLong with
  | false =>
    have hnone := rexIn_eq_none hm hP
    rw [Head.rex_of_ofLead hm (by simp [Prefixes.summary, hnone]) hh.2, hnone]
    split <;> rfl
  | true =>
    obtain rfl : mode = .bits64 := by cases mode <;> cases hm; rfl
    by_cases hvex : lead = 0xC4 ∨ lead = 0xC5
    · obtain ⟨-, hr⟩ := (Head.run_ofLead_vex hvex fun hf => by cases hf).mp hh.2
      rcases hvex with rfl | rfl
      · obtain ⟨-, b₁, b₂, o, u, hrest, m, -, rfl, -⟩ := Head.run_longVex.mp hr
        rw [rest_append_cons] at hrest
        rw [hrest]
        rfl
      · obtain ⟨-, b, o, u, hrest, rfl, -⟩ := Head.run_shortVex.mp hr
        rw [rest_append_cons] at hrest
        rw [hrest]
        exact hlong b
    · rw [Head.prefixes_of_ofLead_opcode hvex hh.2]
      split <;> rename_i heq
      · exact absurd (Or.inr (List.cons.inj heq).1) hvex
      · exact absurd (Or.inl (List.cons.inj heq).1) hvex
      · rfl

end Encoding

namespace Instruction

variable {i j : Instruction}

lemma exists_head_of_decode {bytes : List UInt8} (hi : decode mode strictLock bytes = .ok i) :
    ∃ h c, (Head.scan mode).run (.start bytes) = .ok (h, c) ∧ c.position ≤ i.length := by
  obtain ⟨e, he, rfl⟩ := decode_eq_ok.mp hi
  obtain ⟨h, c, s, c', hh, hs, rfl⟩ := Encoding.scan_eq_ok.mp he
  exact ⟨h, c, hh, position_le_of_run hs⟩

lemma decode_of_same_head
    (hA : (Head.scan mode).run (.start (A ++ o :: t)) = .ok (h, ⟨A ++ o :: t, A.length + 1⟩))
    (hB : (Head.scan mode).run (.start (B ++ o :: t)) = .ok (h, ⟨B ++ o :: t, B.length + 1⟩))
    (hi : decode mode strictLock (A ++ o :: t) = .ok i) {n : ℕ}
    (hn : n + A.length = i.length + B.length) (hmax : n ≤ maxLength) :
    decode mode strictLock (B ++ o :: t) = .ok { i with length := n } := by
  obtain ⟨e, he, rfl⟩ := decode_eq_ok.mp hi
  obtain ⟨h', c, s, c', hh, hs, rfl⟩ := Encoding.scan_eq_ok.mp he
  obtain ⟨rfl, rfl⟩ : h' = h ∧ c = ⟨A ++ o :: t, A.length + 1⟩ := by simpa using hh.symm.trans hA
  have hle : A.length + 1 ≤ c'.position := position_le_of_run hs
  have hn : n + A.length = c'.position + B.length := hn
  have hmove := run_transport (d := ⟨B ++ o :: t, B.length + 1⟩) (Head.steady_scanBody h')
    (by simp) (by rw [rest_append_cons, rest_append_cons]) (by dsimp only; omega) hs
  have hstop : B.length + 1 + (c'.position - (A.length + 1)) = n := by omega
  refine decode_eq_ok.mpr ⟨_, Encoding.scan_eq_ok.mpr ⟨h', _, s, _, hB, hmove, rfl⟩, ?_⟩
  rw [advance, hstop]
  exact Encoding.extract_append_moved (Nat.add_zero _).symm (Encoding.position_finish_of_scan he)

lemma length_le_maxLength_of_decode {bytes : List UInt8}
    (hi : decode mode strictLock bytes = .ok i) : i.length ≤ maxLength := by
  obtain ⟨e, he, rfl⟩ := decode_eq_ok.mp hi
  exact (Encoding.length_le_of_scan he).trans (min_le_left _ _)

/-- A VEX prefix of two bytes is short for one of three bytes, which makes the same instruction of
what follows, one byte longer. -/
theorem decode_longVex_iff (hP : ∀ x ∈ P, x = 0x67 ∨ x ∈ segmentBytes)
    (hb : mode.isLong = false → 0xC0 ≤ b) :
    decode mode strictLock (P ++ [0xC4, b &&& 0x80 ||| 0x61, b &&& 0x7F] ++ t) = .ok j ↔
      ∃ i, decode mode strictLock (P ++ [0xC5, b] ++ t) = .ok i ∧ i.length ≤ 14 ∧
        j = { i with length := i.length + 1 } := by
  constructor
  · intro hj
    obtain ⟨h, c, hh, hle⟩ := exists_head_of_decode hj
    rw [List.append_assoc] at hh
    obtain ⟨-, hr⟩ :=
      (Head.run_scan_vex hP (Or.inl rfl) fun hm => ⟨_, rfl, le_longSecond (hb hm)⟩).mp hh
    obtain ⟨hpos, _, _, o, u, hrest, -, -, -, rfl⟩ := Head.run_longVex.mp hr
    obtain ⟨-, -, rfl⟩ : _ ∧ _ ∧ t = o :: u := by simpa [rest_append_cons] using hrest
    obtain ⟨H, hH⟩ := @Head.run_scan_vexForms mode P u b o hP hb hpos
    -- both prefixes make one head, so the run behind it only has to be moved
    have hmax : j.length ≤ 15 := length_le_maxLength_of_decode hj
    have hle : P.length + 4 ≤ j.length := hle
    have hi := decode_of_same_head (n := j.length - 1) (hH _ (by simp))
      (hH (P ++ [0xC5, b]) (by simp)) hj (by simp; omega) (by simp only [maxLength]; omega)
    exact ⟨_, hi, by dsimp only; omega, by rw [Nat.sub_add_cancel (by omega)]⟩
  · rintro ⟨i, hi, hlen, rfl⟩
    obtain ⟨h, c, hh, hle⟩ := exists_head_of_decode hi
    rw [List.append_assoc] at hh
    obtain ⟨-, hr⟩ := (Head.run_scan_vex hP (Or.inr rfl) fun hm => ⟨b, rfl, hb hm⟩).mp hh
    obtain ⟨-, _, o, u, hrest, -, rfl⟩ := Head.run_shortVex.mp hr
    obtain ⟨-, rfl⟩ : _ ∧ t = o :: u := by simpa [rest_append_cons] using hrest
    have hle : P.length + 3 ≤ i.length := hle
    obtain ⟨H, hH⟩ := @Head.run_scan_vexForms mode P u b o hP hb (by simp only [maxLength]; omega)
    exact decode_of_same_head (hH _ (by simp)) (hH _ (by simp)) hi (by simp; omega)
      (Nat.succ_le_succ hlen)

theorem decode_longVex_iff_vaddps :
    decode .bits32 true ([0x65] ++ [0xC4, 0xE1, 0x70] ++ [0x58, 0x00]) =
      .ok ⟨.sse .ADDPS, true, 6, some (.segment 5), .none, .dword, .dword,
        [.register ⟨.xmm, .xmmword, 0⟩, .register ⟨.xmm, .xmmword, 1⟩,
          .memory ⟨.xmmword, some ⟨.gpr, .dword, 0⟩, none, 1, 0⟩]⟩ := by
  have hP : ∀ x ∈ ([0x65] : List UInt8), x = 0x67 ∨ x ∈ segmentBytes := by decide +kernel
  have hb : Mode.bits32.isLong = false → 0xC0 ≤ (0xF0 : UInt8) := by decide
  have hi : decode .bits32 true ([0x65] ++ [0xC5, 0xF0] ++ [0x58, 0x00]) =
      .ok ⟨.sse .ADDPS, true, 5, some (.segment 5), .none, .dword, .dword,
        [.register ⟨.xmm, .xmmword, 0⟩, .register ⟨.xmm, .xmmword, 1⟩,
          .memory ⟨.xmmword, some ⟨.gpr, .dword, 0⟩, none, 1, 0⟩]⟩ := rfl
  exact (decode_longVex_iff hP hb).mpr ⟨_, hi, by decide, rfl⟩

end Instruction

end X86
