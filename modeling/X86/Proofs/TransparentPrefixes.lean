import Mathlib
import X86.Proofs.LegacyPrefixes
import X86.Proofs.PrefixStability
import X86.Proofs.VexHeads

/-! A segment override or a LOCK prefix in front of an instruction changes nothing but what it
names. -/

namespace X86

open Cursor Scan PrefixByte

variable {mode : Mode} {strictLock locks : Bool} {segment : Option Register} {p : Prefixes}
  {h : Head} {lead b : UInt8} {c c' : Cursor} {P Q t bytes : List UInt8} {e : Encoding}
  {i : Instruction}

def Prefixes.marked (locks : Bool) (segment : Option Register) (p : Prefixes) : Prefixes :=
  { p with lock := p.lock || locks, segment := segment }

def Head.marked (locks : Bool) (segment : Option Register) (h : Head) : Head :=
  { h with prefixes := h.prefixes.marked locks segment }

def Flags.marked (locks : Bool) (f : Flags) : Flags := if locks then Flags.lock.insert f else f

def Encoding.marked (locks : Bool) (segment : Option Register) (e : Encoding) : Encoding :=
  { e with segment := segment, flags := e.flags.marked locks }

lemma DecodeTree.select_marked (h : Head) (t : DecodeTree) (m : Option ModRM)
    (s : Option PrefixSlot) :
    t.select mode (h.marked locks segment) m s = t.select mode h m s := by
  induction t using node_induction mode h.vex generalizing m s with
  | undefined => rfl
  | leaf e => rfl
  | modrm t next hn ih =>
    rw [select_modrm hn, select_modrm (h := h.marked locks segment) hn]
    simp only [ih]
  | slot next ih => exact ih _ _ _
  | known t t' hn ih =>
    rw [select_known hn, select_known (h := h.marked locks segment) hn]
    exact ih _ _

lemma Selection.flags_marked (h : Head) (s : Selection) :
    s.flags (h.marked locks segment) = (s.flags h).marked locks := by
  have hinsert (l : Bool) (f : Flags) : (if l || locks then Flags.lock else .none).insert f =
      ((if l then Flags.lock else .none).insert f).marked locks := by
    cases l <;> cases locks <;>
      simp [Flags.marked, Flags.insert, Flags.lock, Flags.none, ← UInt8.or_assoc]
  exact hinsert h.prefixes.lock _

namespace Head

lemma scanRest_marked (hl : locks = true → strictLock = false) (h : Head) (s : Selection) :
    s.scanRest mode strictLock (h.marked locks segment) = s.scanRest mode strictLock h := by
  have hlock : (strictLock && (h.prefixes.lock || locks)) = (strictLock && h.prefixes.lock) := by
    cases locks with
    | false => rw [Bool.or_false]
    | true => rw [hl rfl, Bool.false_and, Bool.false_and]
  simp only [Selection.scanRest, marked, Prefixes.marked, hlock]
  rfl

lemma scanBody_marked (hl : locks = true → strictLock = false) :
    (h.marked locks segment).scanBody mode strictLock = h.scanBody mode strictLock := by
  simp only [scanBody, scanRest_marked hl]
  rw [show (h.marked locks segment).opcode = h.opcode from rfl, DecodeTree.select_marked]

def BeginsVex (mode : Mode) (lead : UInt8) (behind : List UInt8) : Prop :=
  (lead = 0xC4 ∨ lead = 0xC5) ∧ ∃ b ∈ behind.head?, mode.isLong = true ∨ 0xC0 ≤ b

lemma run_vex_eq_ok
    (hr : (if lead = 0xC5 then shortVex mode p else longVex mode p).run c = .ok (h, c')) :
    h.vex ≠ none ∧ c.position + 2 ≤ c'.position := by
  split at hr
  · obtain ⟨-, b, o, t, -, rfl, rfl⟩ := run_shortVex.mp hr
    exact ⟨nofun, le_rfl⟩
  · obtain ⟨-, b₁, b₂, o, t, -, m, -, rfl, rfl⟩ := run_longVex.mp hr
    exact ⟨nofun, Nat.le_succ _⟩

lemma run_vex_marked
    (hr : (if lead = 0xC5 then shortVex mode p else longVex mode p).run c = .ok (h, c')) :
    (if lead = 0xC5 then shortVex mode (p.marked false segment)
      else longVex mode (p.marked false segment)).run c = .ok (h.marked false segment, c') := by
  split at hr <;> rename_i hlead
  · rw [if_pos hlead]
    obtain ⟨hpos, b, o, t, hc, rfl, rfl⟩ := run_shortVex.mp hr
    exact run_shortVex.mpr ⟨hpos, b, o, t, hc, rfl, rfl⟩
  · rw [if_neg hlead]
    obtain ⟨hpos, b₁, b₂, o, t, hc, m, hm, rfl, rfl⟩ := run_longVex.mp hr
    exact run_longVex.mpr ⟨hpos, b₁, b₂, o, t, hc, m, hm, rfl, rfl⟩

lemma beginsVex_of_ofLead (hr : (ofLead mode p lead).run c = .ok (h, c')) (hv : h.vex ≠ none) :
    BeginsVex mode lead c.rest ∧ c.position + 2 ≤ c'.position := by
  rw [ofLead] at hr
  split at hr
  · obtain ⟨o, d, -, hr⟩ := run_bind_eq_ok.mp hr
    obtain ⟨rfl, -⟩ : _ = h ∧ d = c' := by simpa using hr
    exact absurd rfl hv
  · split at hr <;> rename_i hlead
    · obtain ⟨b, d, hb, hr⟩ := run_bind_eq_ok.mp hr
      obtain ⟨b, hcurrent, hb⟩ := run_peek_eq_ok.mp hb
      obtain ⟨rfl, rfl⟩ : b = _ ∧ c = d := by simpa using hb
      split at hr <;> rename_i hopen
      · obtain ⟨-, hb⟩ := current_eq_ok.mp hcurrent
        obtain ⟨_, d, hallow, hvex⟩ := run_bind_eq_ok.mp hr
        obtain ⟨-, rfl⟩ := run_require_eq_ok.mp hallow
        refine ⟨⟨hlead, b, by rwa [List.head?_eq_getElem?], hopen⟩, ?_⟩
        exact (run_vex_eq_ok hvex).2
      · obtain ⟨rfl, -⟩ : _ = h ∧ c = c' := by simpa using hr
        exact absurd rfl hv
    · obtain ⟨rfl, -⟩ : _ = h ∧ c = c' := by simpa using hr
      exact absurd rfl hv

lemma run_ofLead_of_allowVex_eq_false (hlead : BeginsVex mode lead c.rest)
    (hpos : c.position < maxLength) (hp : p.allowVex = false) :
    (ofLead mode p lead).run c = .error ⟨.invalid, c.position⟩ := by
  obtain ⟨hlead, b, hb, hopen⟩ := hlead
  have hne : lead ≠ 0x0F := by
    rcases hlead with rfl | rfl <;> decide
  have hcurrent : c.current = .ok b :=
    current_eq_ok.mpr ⟨hpos, by rwa [← List.head?_eq_getElem?]⟩
  rw [ofLead, if_neg hne, if_pos hlead]
  change (Scan.peek _).run c = _
  rw [run, hcurrent]
  simp only [Scan.bind]
  rw [if_pos hopen, hp]
  rfl

lemma run_ofLead_marked (hr : (ofLead mode p lead).run c = .ok (h, c'))
    (hv : locks = true → h.vex = none) :
    (ofLead mode (p.marked locks segment) lead).run c = .ok (h.marked locks segment, c') := by
  rw [ofLead] at hr ⊢
  split at hr <;> rename_i hescape
  · rw [if_pos hescape]
    obtain ⟨o, d, ho, hr⟩ := run_bind_eq_ok.mp hr
    obtain ⟨rfl, rfl⟩ : _ = h ∧ d = c' := by simpa using hr
    exact run_bind_eq_ok.mpr ⟨o, d, ho, rfl⟩
  · rw [if_neg hescape]
    split at hr <;> rename_i hlead
    · rw [if_pos hlead]
      obtain ⟨b, d, hb, hr⟩ := run_bind_eq_ok.mp hr
      refine run_bind_eq_ok.mpr ⟨b, d, hb, ?_⟩
      split at hr <;> rename_i hopen
      · rw [if_pos hopen]
        obtain ⟨_, d, hallow, hr⟩ := run_bind_eq_ok.mp hr
        obtain rfl : locks = false := by simpa using mt hv (run_vex_eq_ok hr).1
        refine run_bind_eq_ok.mpr ⟨(), d, ?_, run_vex_marked hr⟩
        simpa [Prefixes.marked, Prefixes.allowVex] using hallow
      · rw [if_neg hopen]
        obtain ⟨rfl, rfl⟩ : _ = h ∧ d = c' := by simpa using hr
        rfl
    · rw [if_neg hlead]
      obtain ⟨rfl, rfl⟩ : _ = h ∧ c = c' := by simpa using hr
      rfl

lemma run_behindLead_marked {h : Head × ℕ} {s : Selection × ℕ}
    (hr : (behindLead mode strictLock p lead).run c = .ok ((h, s), c'))
    (hl : locks = true → strictLock = false ∧ h.1.vex = none) :
    (behindLead mode strictLock (p.marked locks segment) lead).run c =
      .ok (((h.1.marked locks segment, h.2), s), c') := by
  obtain ⟨d, hh, hn, hs, hm⟩ := run_behindLead_iff.mp hr
  refine run_behindLead_iff.mpr ⟨d, run_ofLead_marked hh fun h => (hl h).2, hn, ?_, hm⟩
  rwa [scanBody_marked fun h => (hl h).1]

end Head

namespace Prefixes

lemma summary_cons_segment {n : Fin 6} (hb : (b, n) ∈ segments) : summary (b :: P) =
    (summary P).marked false ((summary P).segment.or (some (Register.segment n))) := by
  have hlookup : ∀ x ∈ segments, segments.lookup x.1 = some x.2 := by decide +kernel
  have hn := hlookup _ hb
  have hmem := mem_segmentBytes hb
  obtain ⟨hrep, hrex, h66, h67, hF0⟩ := only_segment hmem
  have hsegment : (((lastIn segmentBytes P).or (some b)).bind (segments.lookup ·)).map
      (Register.segment ·) = (((lastIn segmentBytes P).bind (segments.lookup ·)).map
        (Register.segment ·)).or (some (Register.segment n)) := by
    cases hlast : lastIn segmentBytes P with
    | none => simp [hn]
    | some x =>
      obtain ⟨k, hk, -⟩ := @ofByte?_of_mem_segmentBytes .bits64 x (mem_of_mem_lastIn hlast)
      simp [hk]
  simp only [summary, lastIn_cons, rexIn_cons hrex, marked, if_pos hmem, if_neg hrep,
    Option.or_none, hsegment, List.mem_cons, h66, h67, hF0, false_or, Bool.or_false]

lemma summary_cons_lock : summary (0xF0 :: P) = (summary P).marked true (summary P).segment := by
  have hrex : ¬IsRex 0xF0 := by decide
  simp only [summary, lastIn_cons, rexIn_cons hrex, marked]
  simp [repeatBytes, segmentBytes]

end Prefixes

namespace Encoding

lemma ofSelection_marked (h : Head) (s : Selection) (body stop : ℕ) :
    ofSelection mode (h.marked locks segment) s body stop =
      (ofSelection mode h s body stop).marked locks segment := by
  simp only [ofSelection, marked, Selection.flags_marked]
  rfl

lemma scan_append_marked (hP : ∀ x ∈ P, IsLegacy mode x) (hQ : ∀ x ∈ Q, IsLegacy mode x)
    (hPQ : Prefixes.summary Q = (Prefixes.summary P).marked locks segment) (hb : ¬IsLegacy mode b)
    (he : scan mode strictLock (P ++ b :: t) = .ok e)
    (hl : locks = true → strictLock = false ∧ e.vex = none)
    (hlen : e.length - P.length + Q.length ≤ maxLength) :
    ∃ n m, e.opcodeOffset = P.length + n ∧ e.length = P.length + 1 + m ∧
      scan mode strictLock (Q ++ b :: t) =
        .ok ((e.moved (Q.length + n) (Q.length + 1 + m)).marked locks segment) := by
  obtain ⟨-, h, s, c', hr, rfl⟩ := (scan_append_eq_ok hP hb).mp he
  have hlen : P.length + 1 + s.2 - P.length + Q.length ≤ maxLength := hlen
  have hmove := @run_behindLead_moved mode strictLock P Q t b _ h s c' hr (by omega)
  have hoffset (R : List UInt8) : R.length + 1 + h.2 - 1 = R.length + h.2 := by omega
  refine ⟨h.2, s.2, hoffset P, rfl, (scan_append_eq_ok hQ hb).mpr ?_⟩
  rw [hPQ]
  refine ⟨by omega, _, s, _, Head.run_behindLead_marked hmove hl, ?_⟩
  rw [ofSelection_marked]
  simp only [ofSelection, marked, moved, hoffset]

lemma extract_marked (e : Encoding) :
    (e.marked locks segment).extract mode bytes =
      { e.extract mode bytes with segment := segment, flags := e.flags.marked locks } := by
  have hsimilar : (e.marked locks segment).Similar e := ⟨rfl, rfl, rfl, rfl, rfl, rfl⟩
  rw [extract_eq, extract_eq, hsimilar.mnemonic, ← readBehind_congr hsimilar rfl rfl]
  rfl

end Encoding

namespace Instruction

lemma decode_append_marked (hP : ∀ x ∈ P, IsLegacy mode x) (hQ : ∀ x ∈ Q, IsLegacy mode x)
    (hPQ : Prefixes.summary Q = (Prefixes.summary P).marked locks segment) (hb : ¬IsLegacy mode b)
    (hi : decode mode strictLock (P ++ b :: t) = .ok i)
    (hl : locks = true → strictLock = false ∧ i.vex = false) {n : ℕ}
    (hn : n + P.length = i.length + Q.length) (hmax : n ≤ maxLength) :
    decode mode strictLock (Q ++ b :: t) = .ok { i with
      length := n
      segment := segment
      flags := i.flags.marked locks } := by
  obtain ⟨e, he, rfl⟩ := decode_eq_ok.mp hi
  have hn : n + P.length = e.length + Q.length := hn
  have hl' : locks = true → strictLock = false ∧ e.vex = none := fun h =>
    (hl h).imp_right (by simp [Encoding.extract, Encoding.isVex])
  obtain ⟨hPe, -⟩ := Encoding.effects_of_scan hP hb he
  obtain ⟨k, m, hk, hm, hQe⟩ :=
    Encoding.scan_append_marked hP hQ hPQ hb he hl' (by omega)
  obtain rfl : n = Q.length + 1 + m := by omega
  refine decode_eq_ok.mpr ⟨_, hQe, ?_⟩
  rw [Encoding.extract_marked,
    Encoding.extract_append_moved hk (Encoding.position_finish_of_scan he)]
  rfl

lemma exists_split_of_decode (hi : decode mode strictLock bytes = .ok i) :
    ∃ P b t, P = bytes.takeWhile (IsLegacy mode ·) ∧ bytes = P ++ b :: t ∧
      (∀ x ∈ P, IsLegacy mode x) ∧ ¬IsLegacy mode b ∧ i.length ≤ 15 ∧
        i.segment = (Prefixes.summary P).segment := by
  obtain ⟨e, he, rfl⟩ := decode_eq_ok.mp hi
  have hmax := (Encoding.length_le_of_scan he).trans (min_le_left _ _)
  obtain ⟨b, t, hbytes, hb, hP⟩ := Encoding.exists_lead_of_scan he
  rw [hbytes] at he
  obtain ⟨-, hsegment, -⟩ := Encoding.effects_of_scan hP hb he
  exact ⟨_, b, t, rfl, hbytes, hP, hb, hmax, hsegment⟩

lemma decode_cons_segment {n : Fin 6} (hb : (b, n) ∈ segments) {j : Instruction} :
    decode mode strictLock (b :: bytes) = .ok j ↔
      ∃ i, decode mode strictLock bytes = .ok i ∧ i.length ≤ 14 ∧
        j = { i with
          length := i.length + 1
          segment := i.segment.or (some (Register.segment n)) } := by
  have hlegacy : IsLegacy mode b := Or.inr (Or.inr (Or.inl (mem_segmentBytes hb)))
  constructor
  · intro hj
    obtain ⟨Q, x, t, hQ, hbytes, hlegacyQ, hx, hmax, hsegment⟩ := exists_split_of_decode hj
    rw [List.takeWhile_cons_of_pos (by simpa using hlegacy)] at hQ
    generalize bytes.takeWhile (IsLegacy mode ·) = P at hQ
    subst hQ
    obtain rfl : bytes = P ++ x :: t := (List.cons.inj hbytes).2
    -- taking the prefix away leaves the segment of the others, and changes nothing else
    have hback : Prefixes.summary P = (Prefixes.summary (b :: P)).marked false
        (Prefixes.summary P).segment := by
      rw [Prefixes.summary_cons_segment hb]
      simp [Prefixes.marked]
    have hpos := length_pos_of_decode hj
    have hi := decode_append_marked (n := j.length - 1) hlegacyQ
      (List.forall_mem_cons.mp hlegacyQ).2 hback hx hj nofun
      (by simp only [List.length_cons]; omega) (by simp only [maxLength]; omega)
    refine ⟨_, hi, Nat.sub_le_of_le_add hmax, ?_⟩
    have hsegment : j.segment = (Prefixes.summary P).segment.or (some (Register.segment n)) := by
      rw [hsegment, Prefixes.summary_cons_segment hb]
      rfl
    simp only [Nat.sub_add_cancel hpos, ← hsegment]
    rfl
  · rintro ⟨i, hi, hlen, rfl⟩
    obtain ⟨P, x, t, -, rfl, hP, hx, -, hsegment⟩ := exists_split_of_decode hi
    rw [hsegment]
    exact decode_append_marked (Q := b :: P) hP (List.forall_mem_cons.mpr ⟨hlegacy, hP⟩)
      (Prefixes.summary_cons_segment hb) hx hi nofun (by simp only [List.length_cons]; omega)
      (Nat.succ_le_succ hlen)

lemma decode_cons_lock (hi : decode mode false bytes = .ok i) (hv : i.vex = false)
    (hlen : i.length ≤ 14) : decode mode false (0xF0 :: bytes) =
      .ok { i with length := i.length + 1, flags := Flags.lock.insert i.flags } := by
  obtain ⟨P, x, t, -, rfl, hP, hx, -, hsegment⟩ := exists_split_of_decode hi
  have hQ : ∀ y ∈ 0xF0 :: P, IsLegacy mode y :=
    List.forall_mem_cons.mpr ⟨Or.inl (by decide), hP⟩
  have hj := decode_append_marked hP hQ Prefixes.summary_cons_lock hx hi (fun _ => ⟨rfl, hv⟩)
    (n := i.length + 1) (by simp only [List.length_cons]; omega) (Nat.succ_le_succ hlen)
  rw [← hsegment] at hj
  exact hj

lemma decode_cons_lock_of_vex (hi : decode mode strictLock bytes = .ok i) (hv : i.vex = true) :
    decode mode strictLock (0xF0 :: bytes) =
      .error ⟨.invalid, (bytes.takeWhile (IsLegacy mode ·)).length + 2⟩ := by
  obtain ⟨P, x, t, hPw, hbytes, hP, hx, hmax, -⟩ := exists_split_of_decode hi
  rw [← hPw]
  subst hbytes
  obtain ⟨e, he, rfl⟩ := decode_eq_ok.mp hi
  obtain ⟨-, h, s, c', hr, rfl⟩ := (Encoding.scan_append_eq_ok hP hx).mp he
  obtain ⟨-, hle, -⟩ := Head.run_behindLead_eq_ok hr
  obtain ⟨d, hh, hn, -⟩ := Head.run_behindLead_iff.mp hr
  obtain ⟨hvex, htwo⟩ := Head.beginsVex_of_ofLead hh (Option.isSome_iff_ne_none.mp hv)
  rw [rest_append_cons] at hvex
  -- the VEX prefix has bytes behind the lead byte, so that there is room for LOCK up to here
  have hroom : P.length + 2 < maxLength := by
    have hmax : P.length + 1 + s.2 ≤ 15 := hmax
    simp only [maxLength]
    dsimp only at hn htwo
    omega
  have hQ : ∀ y ∈ 0xF0 :: P, IsLegacy mode y :=
    List.forall_mem_cons.mpr ⟨Or.inl (by decide), hP⟩
  have hp := (@Prefixes.run_scan_eq_ok mode (0xF0 :: P) t x maxLength {}
    (.start (0xF0 :: P ++ x :: t)) _ _ hQ hx (rest_start _)).mpr
      ⟨by simp only [List.length_cons]; omega, by simp only [start, List.length_cons]; omega,
        rfl, rfl⟩
  rw [Prefixes.addBytes_eq_summary hQ, Prefixes.summary_cons_lock, start, advance,
    Nat.zero_add] at hp
  have hfail := Head.run_ofLead_of_allowVex_eq_false
    (p := (Prefixes.summary P).marked true (Prefixes.summary P).segment)
    (c := ⟨0xF0 :: P ++ x :: t, (0xF0 :: P).length + 1⟩)
    (by rwa [rest_append_cons]) hroom (by simp [Prefixes.marked, Prefixes.allowVex])
  have hrun : (Head.scan mode).run (.start (0xF0 :: P ++ x :: t)) =
      .error ⟨.invalid, P.length + 2⟩ := by
    rw [Head.scan, run_bind, start, hp]
    exact hfail
  refine decode_eq_error.mpr ?_
  rw [Encoding.scan, Encoding.scanBy, ← List.cons_append, hrun]

/-- A segment override in front of an instruction counts if there is no other one, and a LOCK prefix
sets its flag; neither changes anything else. LOCK keeps a VEX prefix from following. -/
theorem decode_cons_transparent (mode : Mode) (bytes : List UInt8) :
    (∀ b n, (b, n) ∈ segments → ∀ strictLock j, decode mode strictLock (b :: bytes) = .ok j ↔
      ∃ i, decode mode strictLock bytes = .ok i ∧ i.length ≤ 14 ∧
        j = { i with
          length := i.length + 1
          segment := i.segment.or (some (Register.segment n)) }) ∧
      (∀ i, decode mode false bytes = .ok i → i.vex = false → i.length ≤ 14 →
        decode mode false (0xF0 :: bytes) =
          .ok { i with length := i.length + 1, flags := Flags.lock.insert i.flags }) ∧
      ∀ i, decode mode false bytes = .ok i → i.vex = true →
        decode mode false (0xF0 :: bytes) =
          .error ⟨.invalid, (bytes.takeWhile (IsLegacy mode ·)).length + 2⟩ :=
  ⟨fun _ _ hb _ _ => decode_cons_segment hb, fun _ => decode_cons_lock,
    fun _ => decode_cons_lock_of_vex⟩

theorem decode_cons_transparent_add :
    decode .bits64 true [0x64, 0x01, 0x03] =
      .ok ⟨.general .ADD, false, 3, some (.segment 4), .none, .dword, .qword,
        [.memory ⟨.dword, some ⟨.gpr, .qword, 3⟩, none, 1, 0⟩, .register ⟨.gpr, .dword, 0⟩]⟩ ∧
      decode .bits64 false [0xF0, 0x01, 0x03] =
        .ok ⟨.general .ADD, false, 3, none, .lock, .dword, .qword,
          [.memory ⟨.dword, some ⟨.gpr, .qword, 3⟩, none, 1, 0⟩, .register ⟨.gpr, .dword, 0⟩]⟩ ∧
      decode .bits64 false [0xF0, 0x2E, 0xC5, 0xF8, 0x77] = .error ⟨.invalid, 3⟩ := by
  obtain ⟨hsegment, hlock, -⟩ := decode_cons_transparent .bits64 [0x01, 0x03]
  obtain ⟨-, -, hvex⟩ := decode_cons_transparent .bits64 [0x2E, 0xC5, 0xF8, 0x77]
  refine ⟨?_, hlock _ rfl rfl (by decide), hvex _ rfl rfl⟩
  exact (hsegment 0x64 4 (by decide) true _).mpr ⟨_, rfl, by decide, rfl⟩

end Instruction

end X86
