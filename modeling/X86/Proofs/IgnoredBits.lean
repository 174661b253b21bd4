import Mathlib
import X86.Proofs.VexPrefixes

/-! Bits of a VEX prefix that do not count outside 64-bit mode. Two runs are compared, on bytes that
differ in nothing but these bits. -/

namespace X86

open Cursor Scan PrefixByte

namespace Cursor

def among (bytes : List UInt8) (c : Cursor) : Cursor := ⟨bytes, c.position⟩

variable {c : Cursor} {bytes : List UInt8}

@[simp] lemma among_advance (n : ℕ) : (c.advance n).among bytes = (c.among bytes).advance n := rfl

lemma current_among (hlen : bytes.length = c.bytes.length)
    (hrest : (c.among bytes).rest = c.rest) : (c.among bytes).current = c.current := by
  have hbyte : bytes[c.position]? = c.bytes[c.position]? := by
    have hhead := congrArg List.head? hrest
    rwa [rest, rest, List.head?_drop, List.head?_drop] at hhead
  simp only [current, among, hbyte, hlen]

lemma skip_among (hlen : bytes.length = c.bytes.length) (n : ℕ) :
    (c.among bytes).skip n = (c.skip n).map (among bytes) := by
  simp only [skip, among, List.length_take, hlen]
  split
  · rfl
  · split <;> rfl

lemma current_cases {x x' : UInt8} {t t' : List UInt8} (hc : c.rest = x :: t)
    (hc' : (c.among bytes).rest = x' :: t') :
    c.current = .ok x ∧ (c.among bytes).current = .ok x' ∨
      ∃ e, c.current = .error e ∧ (c.among bytes).current = .error e := by
  rcases lt_or_ge c.position maxLength with hpos | hpos
  · exact Or.inl ⟨current_of_rest hc hpos, current_of_rest hc' hpos⟩
  · exact Or.inr ⟨_, current_eq_error.mpr (Or.inl ⟨hpos, rfl⟩),
      current_eq_error.mpr (Or.inl ⟨hpos, rfl⟩)⟩

end Cursor

namespace Scan

variable {α β : Type} {bytes t t' : List UInt8} {s s' : Scan α} {c : Cursor} {x x' : UInt8}

def Mirrors (bytes : List UInt8) (s s' : Scan α) (c : Cursor) : Prop :=
  s'.run (c.among bytes) = (s.run c).map fun r => (r.1, r.2.among bytes)

lemma mirrors_of_rest (hlen : bytes.length = c.bytes.length)
    (hrest : (c.among bytes).rest = c.rest) (s : Scan α) : Mirrors bytes s s c := by
  induction s generalizing c with
  | done a => rfl
  | fail cause => rfl
  | fetch next ih =>
    simp only [Mirrors, run, Cursor.fetch, current_among hlen hrest]
    cases c.current with
    | ok b => exact ih b (c := c.advance 1) hlen (by simp [hrest])
    | error e => rfl
  | peek next ih =>
    simp only [Mirrors, run, current_among hlen hrest]
    cases c.current with
    | ok b => exact ih b hlen hrest
    | error e => rfl
  | skip n next ih =>
    simp only [Mirrors, run, skip_among hlen]
    cases hd : c.skip n with
    | ok d =>
      obtain ⟨-, -, rfl⟩ := skip_eq_ok.mp hd
      exact ih (c := c.advance n) hlen (by simp [hrest])
    | error e => rfl

lemma mirrors_fetch {next next' : UInt8 → Scan α} (hc : c.rest = x :: t)
    (hc' : (c.among bytes).rest = x' :: t') (h : Mirrors bytes (next x) (next' x') (c.advance 1)) :
    Mirrors bytes (fetch next) (fetch next') c := by
  simp only [Mirrors, run, Cursor.fetch]
  rcases current_cases hc hc' with ⟨hx, hx'⟩ | ⟨e, he, he'⟩
  · rw [hx, hx']
    exact h
  · rw [he, he']
    rfl

lemma mirrors_peek {next next' : UInt8 → Scan α} (hc : c.rest = x :: t)
    (hc' : (c.among bytes).rest = x' :: t') (h : Mirrors bytes (next x) (next' x') c) :
    Mirrors bytes (peek next) (peek next') c := by
  simp only [Mirrors, run]
  rcases current_cases hc hc' with ⟨hx, hx'⟩ | ⟨e, he, he'⟩
  · rw [hx, hx']
    exact h
  · rw [he, he']
    rfl

lemma mirrors_bind {k k' : α → Scan β} (hs : Mirrors bytes s s' c)
    (hk : ∀ a d, s.run c = .ok (a, d) → Mirrors bytes (k a) (k' a) d) :
    Mirrors bytes (s >>= k) (s' >>= k') c := by
  rw [Mirrors, run_bind, run_bind, hs]
  cases hr : s.run c with
  | ok r => exact hk r.1 r.2 hr
  | error e => rfl

lemma mirrors_require (p : Bool) (cause : DecodeError.Cause) :
    Mirrors bytes (require p cause) (require p cause) c := by
  cases p <;> rfl

end Scan

variable {mode : Mode} {strictLock : Bool} {p : Prefixes} {P bytes t t' : List UInt8}
  {b₁ b₁' b₂ b₂' lead : UInt8} {c : Cursor}

lemma Prefixes.mirrors_scan {room : ℕ} (hlead : ¬IsLegacy mode lead) (hc : c.rest = P ++ lead :: t)
    (hc' : (c.among bytes).rest = P ++ lead :: t') :
    Mirrors bytes (Prefixes.scan mode room p) (Prefixes.scan mode room p) c := by
  induction P generalizing room p c with
  | nil =>
    cases room with
    | zero => rfl
    | succ room =>
      have hnone : ofByte? mode lead = none := by simpa [isLegacy_iff] using hlead
      refine mirrors_fetch hc hc' ?_
      simp only [hnone]
      rfl
  | cons x P ih =>
    cases room with
    | zero => rfl
    | succ room =>
      refine mirrors_fetch hc hc' ?_
      cases ofByte? mode x with
      | some q => exact ih (rest_advance_one hc) (rest_advance_one hc')
      | none => rfl

namespace Head

variable (hm : mode.isLong = false) (h₁ : b₁' &&& 0xDF = b₁ &&& 0xDF)
  (h₂ : b₂' &&& 0x3F = b₂ &&& 0x3F)

include h₁ in
lemma map_eq_of_masked : b₁'.toNat % 32 = b₁.toNat % 32 := by
  have hmask : ∀ b : UInt8, b.toNat % 32 = (b &&& 0xDF).toNat % 32 := by decide +kernel
  rw [hmask, h₁, ← hmask]

include h₁ in
lemma le_of_masked (hb : 0xC0 ≤ b₁) : 0xC0 ≤ b₁' := by
  have hmask : ∀ b : UInt8, 0xC0 ≤ b ↔ 0xC0 ≤ b &&& 0xDF := by decide +kernel
  rwa [hmask, h₁, ← hmask]

include hm h₂ in
lemma vex_eq_of_masked : Vex.ofByte mode b₂' = Vex.ofByte mode b₂ := by
  have hmask : ∀ b : UInt8, Vex.ofByte mode b = Vex.ofByte mode (b &&& 0x3F) := by
    cases mode <;> first | decide +kernel | cases hm
  rw [hmask, h₂, ← hmask]

include hm h₁ h₂

lemma mirrors_longVex (hlen : bytes.length = c.bytes.length) (hc : c.rest = b₁ :: b₂ :: t)
    (hc' : (c.among bytes).rest = b₁' :: b₂' :: t) :
    Mirrors bytes (longVex mode p) (longVex mode p) c := by
  refine mirrors_fetch hc hc' ?_
  have hrest := rest_advance_one hc
  have hrest' : ((c.advance 1).among bytes).rest = b₂' :: t := rest_advance_one hc'
  simp only [Scan.bind, map_eq_of_masked h₁]
  cases OpcodeMap.ofVexNumber? (b₁.toNat % 32) with
  | none => rfl
  | some m =>
    refine mirrors_fetch hrest hrest' ?_
    -- behind the last byte that differs the rest is the same
    have hbehind : (((c.advance 1).advance 1).among bytes).rest = ((c.advance 1).advance 1).rest :=
      (rest_advance_one hrest').trans (rest_advance_one hrest).symm
    simp only [Scan.bind, vexRex, hm, vex_eq_of_masked hm h₂]
    exact mirrors_of_rest (c := (c.advance 1).advance 1) hlen hbehind _

lemma mirrors_ofLead (hb : 0xC0 ≤ b₁) (hlen : bytes.length = c.bytes.length)
    (hc : c.rest = b₁ :: b₂ :: t) (hc' : (c.among bytes).rest = b₁' :: b₂' :: t) :
    Mirrors bytes (ofLead mode p 0xC4) (ofLead mode p 0xC4) c := by
  refine mirrors_peek hc hc' ?_
  simp only [Scan.bind, hb, le_of_masked h₁ hb, or_true, if_true]
  refine mirrors_bind (mirrors_require _ _) fun _ d hd => ?_
  obtain ⟨-, rfl⟩ := run_require_eq_ok.mp hd
  exact mirrors_longVex hm h₁ h₂ hlen hc hc'

lemma mirrors_scan (hP : ∀ x ∈ P, IsLegacy mode x) (hb : 0xC0 ≤ b₁) :
    Mirrors (P ++ 0xC4 :: b₁' :: b₂' :: t) (Head.scan mode) (Head.scan mode)
      (.start (P ++ 0xC4 :: b₁ :: b₂ :: t)) := by
  have hlead := @not_isLegacy_vexLead mode 0xC4 (Or.inl rfl)
  refine mirrors_bind (Prefixes.mirrors_scan hlead (rest_start _) (rest_start _)) ?_
  rintro r d hd
  obtain ⟨-, -, rfl, rfl⟩ := (Prefixes.run_scan_eq_ok hP hlead (rest_start _)).mp hd
  exact mirrors_ofLead (t := t) hm h₁ h₂ hb (by simp [start]) (by simp) (by
    rw [among_advance, rest_advance]
    exact List.drop_length_add_append 1)

omit hm h₁ h₂

lemma cursor_of_scan_longVex {h : Head} (hP : ∀ x ∈ P, IsLegacy mode x) (hb : 0xC0 ≤ b₁)
    (hh : (Head.scan mode).run (.start (P ++ 0xC4 :: b₁ :: b₂ :: t)) = .ok (h, c)) :
    c = ⟨P ++ 0xC4 :: b₁ :: b₂ :: t, P.length + 4⟩ := by
  rw [run_scan_eq_ok hP (not_isLegacy_vexLead (Or.inl rfl)),
    run_ofLead_vex (Or.inl rfl) fun _ => ⟨b₁, by rw [rest_append_cons]; rfl, hb⟩] at hh
  obtain ⟨-, -, -, -, -, -, m, -, -, rfl⟩ := run_longVex.mp hh.2.2
  rfl

end Head

namespace Encoding

lemma scan_of_mirrors {bytes' : List UInt8} (hlen : bytes'.length = bytes.length)
    (hs : Mirrors bytes' (Head.scan mode) (Head.scan mode) (.start bytes))
    (hrest : ∀ h c, (Head.scan mode).run (.start bytes) = .ok (h, c) →
      (c.among bytes').rest = c.rest) :
    scan mode strictLock bytes' = scan mode strictLock bytes := by
  unfold scan scanBy
  rw [← show (Cursor.start bytes).among bytes' = .start bytes' from rfl, hs]
  cases hh : (Head.scan mode).run (.start bytes) with
  | error e => rfl
  | ok r =>
    obtain ⟨h, c⟩ := r
    have hbytes : bytes'.length = c.bytes.length := by rw [bytes_of_run hh]; exact hlen
    have hbody := mirrors_of_rest hbytes (hrest h c hh) (h.scanBody mode strictLock)
    dsimp only [Except.map]
    rw [hbody]
    cases (h.scanBody mode strictLock).run c with
    | error e => rfl
    | ok r => rfl

lemma extract_of_drop {e : Encoding} {bytes' : List UInt8}
    (he : scan mode strictLock bytes = .ok e)
    (hdrop : bytes'.drop e.opcodeOffset = bytes.drop e.opcodeOffset) :
    e.extract mode bytes' = e.extract mode bytes := by
  have hagree : Agree e.length ⟨bytes, e.opcodeOffset⟩ ⟨bytes', e.opcodeOffset⟩ := by
    intro i _
    have hbyte := congrArg (fun l => l.getD i 0) hdrop
    simpa [byteAt, List.getD_eq_getElem?_getD, eq_comm] using hbyte
  have hfin : (e.finish mode bytes).position ≤ e.opcodeOffset + e.length := by
    rw [position_finish_of_scan he]
    exact Nat.le_add_left _ _
  exact @extract_moved mode bytes bytes' e.opcodeOffset e.length e.length e hagree hfin

/-- Outside 64-bit mode a VEX prefix of three bytes has three bits that do not count: B, W and the
top bit of the register. -/
theorem scan_of_masked (hm : mode.isLong = false) (hP : ∀ x ∈ P, IsLegacy mode x) (hb : 0xC0 ≤ b₁)
    (h₁ : b₁' &&& 0xDF = b₁ &&& 0xDF) (h₂ : b₂' &&& 0x3F = b₂ &&& 0x3F) :
    scan mode strictLock (P ++ [0xC4, b₁', b₂'] ++ t) =
        scan mode strictLock (P ++ [0xC4, b₁, b₂] ++ t) ∧
      ∀ e, scan mode strictLock (P ++ [0xC4, b₁, b₂] ++ t) = .ok e →
        e.extract mode (P ++ [0xC4, b₁', b₂'] ++ t) =
          e.extract mode (P ++ [0xC4, b₁, b₂] ++ t) := by
  simp only [List.append_assoc, List.cons_append, List.nil_append]
  have hdrop (k : ℕ) : (P ++ 0xC4 :: b₁' :: b₂' :: t).drop (P.length + (3 + k)) =
      (P ++ 0xC4 :: b₁ :: b₂ :: t).drop (P.length + (3 + k)) := by
    rw [List.drop_length_add_append, List.drop_length_add_append, Nat.add_comm]
    rfl
  constructor
  · refine scan_of_mirrors (by simp) (Head.mirrors_scan hm h₁ h₂ hP hb) fun h c hh => ?_
    rw [Head.cursor_of_scan_longVex hP hb hh]
    exact hdrop 1
  · intro e he
    refine extract_of_drop he ?_
    obtain ⟨h, c, s, c', hh, -, rfl⟩ := scan_eq_ok.mp he
    rw [ofSelection, Head.cursor_of_scan_longVex hP hb hh]
    exact hdrop 0

theorem scan_of_masked_andn :
    Instruction.decode .bits32 true ([0x65] ++ [0xC4, 0xC2, 0xB0] ++ [0xF2, 0x03]) =
      .ok ⟨.bmi .ANDN, true, 6, some (.segment 5), .none, .dword, .dword,
        [.register ⟨.gpr, .dword, 0⟩, .register ⟨.gpr, .dword, 1⟩,
          .memory ⟨.dword, some ⟨.gpr, .dword, 3⟩, none, 1, 0⟩]⟩ := by
  have hP : ∀ x ∈ ([0x65] : List UInt8), IsLegacy .bits32 x := by decide +kernel
  obtain ⟨hs, hx⟩ := @scan_of_masked .bits32 true [0x65] [0xF2, 0x03] 0xE2 0xC2 0x70 0xB0 rfl hP
    (by decide) rfl rfl
  exact Instruction.decode_eq_ok.mpr ⟨_, hs.trans rfl, (hx _ rfl).trans rfl⟩

end Encoding

end X86
