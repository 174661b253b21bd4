import Mathlib
import X86.Proofs.Layout
import X86.Proofs.Scanner

/-! Legacy prefixes in any order: what they amount to, and the instruction behind them. -/

namespace X86

open Cursor Scan

variable {mode : Mode} {strictLock : Bool} {P Q t : List UInt8} {b : UInt8}

namespace PrefixByte

def repeatBytes : List UInt8 := [0xF2, 0xF3]

def segmentBytes : List UInt8 := [0x26, 0x2E, 0x36, 0x3E, 0x64, 0x65]

def IsRex (b : UInt8) : Prop := 0x40 ≤ b ∧ b ≤ 0x4F

instance : DecidablePred IsRex := fun b => inferInstanceAs (Decidable (0x40 ≤ b ∧ b ≤ 0x4F))

def IsLegacy (mode : Mode) (b : UInt8) : Prop :=
  b ∈ [0x66, 0x67, 0xF0] ∨ b ∈ repeatBytes ∨ b ∈ segmentBytes ∨ mode = .bits64 ∧ IsRex b

instance (mode : Mode) : DecidablePred (IsLegacy mode) := fun b =>
  inferInstanceAs (Decidable
    (b ∈ [0x66, 0x67, 0xF0] ∨ b ∈ repeatBytes ∨ b ∈ segmentBytes ∨ mode = .bits64 ∧ IsRex b))

lemma isLegacy_iff : IsLegacy mode b ↔ (ofByte? mode b).isSome = true := by
  revert b
  cases mode <;> decide +kernel

lemma ofByte?_of_mem_repeatBytes : b ∈ repeatBytes →
    ofByte? mode b = some (.repeated (if b = 0xF3 then .repz else .repnz)) := by
  revert b
  cases mode <;> decide +kernel

lemma ofByte?_of_mem_segmentBytes : b ∈ segmentBytes →
    ∃ i, segments.lookup b = some i ∧ ofByte? mode b = some (.segment i) := by
  revert b
  cases mode <;> decide +kernel

lemma ofByte?_of_isRex : IsRex b → ofByte? .bits64 b = some (.rex (Rex.ofByte b)) := by
  revert b
  decide +kernel

lemma mem_segmentBytes {n : Fin 6} (hb : (b, n) ∈ segments) : b ∈ segmentBytes := by
  have hall : ∀ x ∈ segments, x.1 ∈ segmentBytes := by decide +kernel
  exact hall _ hb

lemma only_repeated : b ∈ repeatBytes →
    b ∉ segmentBytes ∧ ¬IsRex b ∧ 0x66 ≠ b ∧ 0x67 ≠ b ∧ 0xF0 ≠ b := by
  revert b
  decide +kernel

lemma only_segment : b ∈ segmentBytes →
    b ∉ repeatBytes ∧ ¬IsRex b ∧ 0x66 ≠ b ∧ 0x67 ≠ b ∧ 0xF0 ≠ b := by
  revert b
  decide +kernel

lemma only_rex : IsRex b →
    b ∉ repeatBytes ∧ b ∉ segmentBytes ∧ 0x66 ≠ b ∧ 0x67 ≠ b ∧ 0xF0 ≠ b := by
  revert b
  decide +kernel

def lastIn (kind P : List UInt8) : Option UInt8 := (P.filter (· ∈ kind)).getLast?

def rexIn (P : List UInt8) : Option UInt8 := P.getLast?.filter IsRex

lemma lastIn_concat (kind : List UInt8) :
    lastIn kind (P ++ [b]) = if b ∈ kind then some b else lastIn kind P := by
  unfold lastIn
  rw [List.filter_append]
  split <;> simp [*]

lemma lastIn_cons (kind : List UInt8) :
    lastIn kind (b :: P) = (lastIn kind P).or (if b ∈ kind then some b else none) := by
  unfold lastIn
  rw [List.filter_cons]
  split <;> rename_i hb
  · rw [List.getLast?_cons, if_pos (by simpa using hb)]
    cases (P.filter (· ∈ kind)).getLast? <;> rfl
  · rw [if_neg (by simpa using hb), Option.or_none]

lemma mem_of_mem_lastIn {kind : List UInt8} (hb : b ∈ lastIn kind P) : b ∈ kind := by
  have hmem := List.mem_of_getLast? hb
  simpa using (List.mem_filter.mp hmem).2

lemma rexIn_concat : rexIn (P ++ [b]) = if IsRex b then some b else none := by
  unfold rexIn
  rw [List.getLast?_concat]
  split <;> simp [*]

lemma rexIn_cons (hb : ¬IsRex b) : rexIn (b :: P) = rexIn P := by
  unfold rexIn
  rw [List.getLast?_cons]
  cases P.getLast? with
  | none => simp [Option.filter, hb]
  | some x => rfl

lemma rexIn_eq_none (hm : mode.isLong = false) (hP : ∀ x ∈ P, IsLegacy mode x) :
    rexIn P = none := by
  rw [rexIn, Option.filter_eq_none_iff]
  intro b hb hrex
  have hIsRex : IsRex b := by simpa using hrex
  obtain ⟨hrep, hseg, h66, h67, hF0⟩ := only_rex hIsRex
  rcases hP b (List.mem_of_getLast? hb) with h | h | h | ⟨rfl, -⟩
  · simp [Ne.symm h66, Ne.symm h67, Ne.symm hF0] at h
  · exact hrep h
  · exact hseg h
  · cases hm

structure Equivalent (P Q : List UInt8) : Prop where
  operandSize : 0x66 ∈ P ↔ 0x66 ∈ Q
  addressSize : 0x67 ∈ P ↔ 0x67 ∈ Q
  lock : 0xF0 ∈ P ↔ 0xF0 ∈ Q
  repeated : lastIn repeatBytes P = lastIn repeatBytes Q
  segment : lastIn segmentBytes P = lastIn segmentBytes Q
  rex : rexIn P = rexIn Q

end PrefixByte

open PrefixByte

namespace Prefixes

def addBytes (mode : Mode) (p : Prefixes) (P : List UInt8) : Prefixes :=
  P.foldl (fun p b => (ofByte? mode b).elim p p.add) p

def summary (P : List UInt8) : Prefixes where
  operandSize := decide (0x66 ∈ P)
  addressSize := decide (0x67 ∈ P)
  lock := decide (0xF0 ∈ P)
  repeated := (lastIn repeatBytes P).map fun b => if b = 0xF3 then .repz else .repnz
  segment := ((lastIn segmentBytes P).bind (segments.lookup ·)).map fun i => Register.segment i
  rex := (rexIn P).map Rex.ofByte

lemma summary_congr (h : PrefixByte.Equivalent P Q) : summary P = summary Q := by
  simp only [summary, h.operandSize, h.addressSize, h.lock, h.repeated, h.segment, h.rex]

lemma summary_concat (hb : IsLegacy mode b) :
    summary (P ++ [b]) = (ofByte? mode b).elim (summary P) (summary P).add := by
  simp only [summary, lastIn_concat, rexIn_concat, List.mem_append, List.mem_singleton]
  rcases hb with hb | hb | hb | ⟨rfl, hb⟩
  · simp only [List.mem_cons, List.not_mem_nil, or_false] at hb
    rcases hb with rfl | rfl | rfl <;>
      simp [ofByte?, add, repeatBytes, segmentBytes, IsRex]
  · obtain ⟨hs, hr, h66, h67, hF0⟩ := only_repeated hb
    rw [ofByte?_of_mem_repeatBytes hb]
    simp [add, hb, hs, hr, h66, h67, hF0]
  · obtain ⟨i, hi, hbyte⟩ := @ofByte?_of_mem_segmentBytes mode b hb
    obtain ⟨hs, hr, h66, h67, hF0⟩ := only_segment hb
    rw [hbyte]
    simp [add, hb, hi, hs, hr, h66, h67, hF0]
  · obtain ⟨hs, hr, h66, h67, hF0⟩ := only_rex hb
    rw [ofByte?_of_isRex hb]
    simp [add, hb, hs, hr, h66, h67, hF0]

lemma addBytes_eq_summary (hP : ∀ b ∈ P, IsLegacy mode b) : addBytes mode {} P = summary P := by
  induction P using List.reverseRecOn with
  | nil => rfl
  | append_singleton P b ih =>
    rw [addBytes, List.foldl_concat, ← addBytes, ih fun x hx => hP x (by simp [hx]),
      summary_concat (hP b (by simp))]

lemma run_scan_eq_ok {room : ℕ} {p : Prefixes} {c c' : Cursor} {r : Prefixes × UInt8}
    (hP : ∀ x ∈ P, IsLegacy mode x) (hb : ¬IsLegacy mode b) (hc : c.rest = P ++ b :: t) :
    (Prefixes.scan mode room p).run c = .ok (r, c') ↔
      P.length < room ∧ c.position + P.length < maxLength ∧ r = (addBytes mode p P, b) ∧
        c' = c.advance (P.length + 1) := by
  -- on the prefixes, each of which takes a byte of the room and is added to `p`
  induction P generalizing room p c with
  | nil =>
    cases room with
    | zero => simp [Prefixes.scan, run]
    | succ room =>
      have hnone : ofByte? mode b = none := by simpa [isLegacy_iff] using hb
      simp only [Prefixes.scan, run_fetch_eq_ok, current_eq_ok, hc]
      simp [hnone, addBytes, eq_comm, and_assoc]
  | cons x P ih =>
    cases room with
    | zero => simp [Prefixes.scan, run]
    | succ room =>
      obtain ⟨q, hq⟩ := Option.isSome_iff_exists.mp (isLegacy_iff.mp (hP x (by simp)))
      have hrest : (c.advance 1).rest = P ++ b :: t := by simp [hc]
      have ih := @ih room (p.add q) (c.advance 1) (fun y hy => hP y (by simp [hy])) hrest
      simp only [Prefixes.scan, run_fetch_eq_ok, current_eq_ok, hc]
      have hadd : addBytes mode p (x :: P) = addBytes mode (p.add q) P := by simp [addBytes, hq]
      simp only [List.cons_append, List.getElem?_cons_zero, Option.some.injEq, and_assoc,
        exists_eq_left', exists_and_left, hq, ih, hadd, advance_position, advance_advance,
        List.length_cons, Nat.add_comm 1]
      constructor
      · rintro ⟨hpos, hroom, hlen, hr⟩
        exact ⟨by omega, by omega, hr⟩
      · rintro ⟨hroom, hlen, hr⟩
        exact ⟨by omega, by omega, by omega, hr⟩

lemma run_scan_ne_ok {room : ℕ} {p : Prefixes} {c : Cursor} {r : (Prefixes × UInt8) × Cursor}
    (hc : ∀ b ∈ c.rest, IsLegacy mode b) : (Prefixes.scan mode room p).run c ≠ .ok r := by
  induction room generalizing p c with
  | zero => simp [Prefixes.scan, run]
  | succ room ih =>
    intro hr
    obtain ⟨b, hb, hr⟩ := run_fetch_eq_ok.mp hr
    have hmem : b ∈ c.rest := List.mem_of_getElem? (current_eq_ok.mp hb).2
    obtain ⟨q, hq⟩ := Option.isSome_iff_exists.mp (isLegacy_iff.mp (hc b hmem))
    rw [hq] at hr
    refine ih (fun x hx => hc x ?_) hr
    rw [rest_advance] at hx
    exact List.mem_of_mem_drop hx

end Prefixes

lemma Selection.meets_lock_flags (s : Selection) (h : Head) :
    (s.flags h).meets .lock = h.prefixes.lock := by
  have hall (l : Bool) : ∀ f ∈ [Flags.none, .rep, .repz, .repnz, .bnd],
      ((if l then Flags.lock else .none).insert f).meets .lock = l := by
    cases l <;> decide
  refine hall _ _ ?_
  cases h.prefixes.repeated with
  | none => simp
  | some r => cases r <;> dsimp only <;> split_ifs <;> simp

namespace Encoding

variable {e : Encoding}

lemma scan_append_eq_ok (hP : ∀ x ∈ P, IsLegacy mode x) (hb : ¬IsLegacy mode b) :
    scan mode strictLock (P ++ b :: t) = .ok e ↔ P.length < maxLength ∧ ∃ h s c',
      (Head.behindLead mode strictLock (Prefixes.summary P) b).run
        ⟨P ++ b :: t, P.length + 1⟩ = .ok ((h, s), c') ∧
      e = ofSelection mode h.1 s.1 (P.length + 1 + h.2) (P.length + 1 + s.2) := by
  have hscan {r : Prefixes × UInt8} {c : Cursor} := @Prefixes.run_scan_eq_ok mode P t b maxLength {}
    (.start (P ++ b :: t)) c r hP hb (rest_start _)
  rw [scan_eq_ok_behindLead]
  constructor
  · rintro ⟨p, lead, c, h, s, c', hp, hr, rfl⟩
    obtain ⟨hlen, -, hpl, rfl⟩ := hscan.mp hp
    obtain ⟨rfl, rfl⟩ := Prod.mk.inj hpl
    rw [Prefixes.addBytes_eq_summary hP, start, advance, Nat.zero_add] at hr
    refine ⟨hlen, h, s, c', hr, ?_⟩
    rw [start, advance, Nat.zero_add]
  · rintro ⟨hlen, h, s, c', hr, rfl⟩
    have hp := hscan.mpr ⟨hlen, by rwa [start, Nat.zero_add], rfl, rfl⟩
    rw [Prefixes.addBytes_eq_summary hP, start, advance, Nat.zero_add] at hp
    exact ⟨_, _, _, h, s, c', hp, hr, rfl⟩

lemma scan_ne_ok (hP : ∀ x ∈ P, IsLegacy mode x) : scan mode strictLock P ≠ .ok e := by
  intro he
  obtain ⟨p, l, c, -, -, -, hp, -⟩ := scan_eq_ok_behindLead.mp he
  exact Prefixes.run_scan_ne_ok (by rwa [rest_start]) hp

lemma exists_lead_of_scan {bytes : List UInt8} (he : scan mode strictLock bytes = .ok e) :
    ∃ b t, bytes = bytes.takeWhile (IsLegacy mode ·) ++ b :: t ∧ ¬IsLegacy mode b ∧
      ∀ x ∈ bytes.takeWhile (IsLegacy mode ·), IsLegacy mode x := by
  have hP : ∀ x ∈ bytes.takeWhile (IsLegacy mode ·), IsLegacy mode x := by
    intro x hx
    simpa using List.mem_takeWhile_imp hx
  have hsplit := List.takeWhile_append_dropWhile (p := (IsLegacy mode ·)) (l := bytes)
  have hlead := List.head?_dropWhile_not (IsLegacy mode ·) bytes
  cases hrest : bytes.dropWhile (IsLegacy mode ·) with
  | nil =>
    rw [hrest, List.append_nil] at hsplit
    rw [hsplit] at hP
    exact absurd he (scan_ne_ok hP)
  | cons b t =>
    rw [hrest] at hsplit hlead
    exact ⟨b, t, hsplit.symm, by simpa using hlead, hP⟩

lemma run_behindLead_moved {p : Prefixes} {h : Head × ℕ} {s : Selection × ℕ} {c' : Cursor}
    (hr : (Head.behindLead mode strictLock p b).run ⟨P ++ b :: t, P.length + 1⟩ =
      .ok ((h, s), c')) (hlen : Q.length + 1 + s.2 ≤ maxLength) :
    (Head.behindLead mode strictLock p b).run ⟨Q ++ b :: t, Q.length + 1⟩ =
      .ok ((h, s), ⟨Q ++ b :: t, Q.length + 1 + s.2⟩) := by
  obtain ⟨-, -, hpos⟩ := Head.run_behindLead_eq_ok hr
  have hmove := run_transport (d := ⟨Q ++ b :: t, Q.length + 1⟩) (Head.steady_behindLead _ _)
    (by simp) (by rw [rest_append_cons, rest_append_cons]) (by simp only [hpos]; omega) hr
  rwa [hpos, Nat.add_sub_cancel_left] at hmove

lemma scan_append_of_equivalent (hP : ∀ x ∈ P, IsLegacy mode x) (hQ : ∀ x ∈ Q, IsLegacy mode x)
    (hPQ : PrefixByte.Equivalent P Q) (hb : ¬IsLegacy mode b)
    (he : scan mode strictLock (P ++ b :: t) = .ok e)
    (hlen : e.length - P.length + Q.length ≤ maxLength) :
    ∃ n m, e.opcodeOffset = P.length + n ∧ e.length = P.length + 1 + m ∧
      scan mode strictLock (Q ++ b :: t) = .ok (e.moved (Q.length + n) (Q.length + 1 + m)) := by
  obtain ⟨-, h, s, c', hr, rfl⟩ := (scan_append_eq_ok hP hb).mp he
  have hlen : P.length + 1 + s.2 - P.length + Q.length ≤ maxLength := hlen
  have hmove := @run_behindLead_moved mode strictLock P Q t b _ h s c' hr (by omega)
  rw [Prefixes.summary_congr hPQ] at hmove
  have hoffset (R : List UInt8) : R.length + 1 + h.2 - 1 = R.length + h.2 := by omega
  refine ⟨h.2, s.2, hoffset P, rfl, (scan_append_eq_ok hQ hb).mpr ?_⟩
  refine ⟨by omega, h, s, _, hmove, ?_⟩
  simp only [ofSelection, moved, hoffset]

lemma extract_append_moved {n m : ℕ} (hn : e.opcodeOffset = P.length + n)
    (hfin : (e.finish mode (P ++ b :: t)).position = e.length) :
    (e.moved (Q.length + n) m).extract mode (Q ++ b :: t) =
      { e.extract mode (P ++ b :: t) with length := m } := by
  have hagree : Agree e.length ⟨P ++ b :: t, e.opcodeOffset⟩ ⟨Q ++ b :: t, Q.length + n⟩ := by
    intro i _
    simp only [byteAt, hn, Nat.add_assoc]
    rw [List.getD_append_right _ _ _ _ (Nat.le_add_right _ _),
      List.getD_append_right _ _ _ _ (Nat.le_add_right _ _), Nat.add_sub_cancel_left,
      Nat.add_sub_cancel_left]
  exact extract_moved e hagree (by omega)

lemma effects_of_scan (hP : ∀ x ∈ P, IsLegacy mode x) (hb : ¬IsLegacy mode b)
    (he : scan mode strictLock (P ++ b :: t) = .ok e) :
    P.length < e.length ∧ e.segment = (Prefixes.summary P).segment ∧
      (e.flags.meets .lock = true ↔ 0xF0 ∈ P) ∧
      e.addressSize = if 0x67 ∈ P then mode.otherAddressSize else mode.addressSize := by
  obtain ⟨-, h, s, c', hr, rfl⟩ := (scan_append_eq_ok hP hb).mp he
  obtain ⟨hprefixes, -, -⟩ := Head.run_behindLead_eq_ok hr
  refine ⟨by simp only [ofSelection]; omega, ?_, ?_, ?_⟩
  · simp only [ofSelection]
    rw [hprefixes]
  · simp only [ofSelection, Selection.meets_lock_flags]
    rw [hprefixes]
    simp [Prefixes.summary]
  · simp only [ofSelection, Prefixes.effectiveAddressSize]
    rw [hprefixes]
    simp [Prefixes.summary]

end Encoding

namespace Instruction

/-- Legacy prefixes count for what they amount to, in any order and number. -/
theorem decode_of_equivalent {i : Instruction} (hP : ∀ x ∈ P, IsLegacy mode x)
    (hb : ¬IsLegacy mode b) (hi : decode mode strictLock (P ++ b :: t) = .ok i) :
    (∀ Q, (∀ x ∈ Q, IsLegacy mode x) → PrefixByte.Equivalent P Q →
      i.length - P.length + Q.length ≤ maxLength →
        decode mode strictLock (Q ++ b :: t) =
          .ok { i with length := i.length - P.length + Q.length }) ∧
      P.length < i.length ∧
      i.segment = ((lastIn segmentBytes P).bind (segments.lookup ·)).map (Register.segment ·) ∧
      (i.flags.meets .lock = true ↔ 0xF0 ∈ P) ∧
      i.addressSize = if 0x67 ∈ P then mode.otherAddressSize else mode.addressSize := by
  obtain ⟨e, he, rfl⟩ := decode_eq_ok.mp hi
  refine ⟨fun Q hQ hPQ hlen => ?_, Encoding.effects_of_scan hP hb he⟩
  obtain ⟨n, m, hn, hm, hQe⟩ := Encoding.scan_append_of_equivalent hP hQ hPQ hb he hlen
  have hend : (e.extract mode (P ++ b :: t)).length - P.length + Q.length = Q.length + 1 + m := by
    change e.length - P.length + Q.length = _
    omega
  rw [hend]
  refine decode_eq_ok.mpr ⟨_, hQe, ?_⟩
  exact Encoding.extract_append_moved hn (Encoding.position_finish_of_scan he)

theorem decode_of_equivalent_add :
    decode .bits64 true ([0x41, 0x3E, 0xF0, 0xF0, 0x48] ++ 0x01 :: [0x03]) =
      .ok ⟨.general .ADD, false, 7, some (.segment 3), .lock, .qword, .qword,
        [.memory ⟨.qword, some ⟨.gpr, .qword, 3⟩, none, 1, 0⟩, .register ⟨.gpr, .qword, 0⟩]⟩ := by
  have hi : decode .bits64 true ([0x3E, 0xF0, 0x48] ++ 0x01 :: [0x03]) =
      .ok ⟨.general .ADD, false, 5, some (.segment 3), .lock, .qword, .qword,
        [.memory ⟨.qword, some ⟨.gpr, .qword, 3⟩, none, 1, 0⟩, .register ⟨.gpr, .qword, 0⟩]⟩ := rfl
  have hP : ∀ x ∈ [0x3E, 0xF0, 0x48], IsLegacy .bits64 x := by decide +kernel
  have hQ : ∀ x ∈ [0x41, 0x3E, 0xF0, 0xF0, 0x48], IsLegacy .bits64 x := by decide +kernel
  have hPQ : PrefixByte.Equivalent [0x3E, 0xF0, 0x48] [0x41, 0x3E, 0xF0, 0xF0, 0x48] := by
    constructor <;> decide +kernel
  exact (decode_of_equivalent hP (by decide +kernel) hi).1 _ hQ hPQ (by decide)

end Instruction

end X86
