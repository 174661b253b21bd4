import Mathlib
import X86.Prefixes
import X86.Proofs.ScanRuns

namespace X86

namespace Scan

variable {α β : Type} {P : α → Prop} {Q : β → Prop} {s : Scan α} {c c' : Cursor} {a : α}

def Yields (P : α → Prop) : Scan α → Prop
  | done a => P a
  | fail _ => True
  | fetch next => ∀ b, (next b).Yields P
  | peek next => ∀ b, (next b).Yields P
  | skip _ next => next.Yields P

lemma of_run_of_yields (hs : s.Yields P) (h : s.run c = .ok (a, c')) : P a := by
  induction s generalizing c with
  | done b =>
    obtain ⟨rfl, -⟩ : b = a ∧ c = c' := by simpa using h
    exact hs
  | fail cause => simp [run] at h
  | fetch next ih =>
    obtain ⟨b, -, hn⟩ := run_fetch_eq_ok.mp h
    exact ih b (hs b) hn
  | peek next ih =>
    obtain ⟨b, -, hn⟩ := run_peek_eq_ok.mp h
    exact ih b (hs b) hn
  | skip n next ih =>
    obtain ⟨-, -, hn⟩ := run_skip_eq_ok.mp h
    exact ih hs hn

lemma yields_bind {k : α → Scan β} (hs : s.Yields P) (hk : ∀ a, P a → (k a).Yields Q) :
    (s >>= k).Yields Q := by
  change (s.bind k).Yields Q
  induction s with
  | done a => exact hk a hs
  | fail cause => trivial
  | fetch next ih => exact fun b => ih b (hs b)
  | peek next ih => exact fun b => ih b (hs b)
  | skip n next ih => exact ih hs

lemma yields_mono {P' : α → Prop} (hP : ∀ a, P a → P' a) (hs : s.Yields P) : s.Yields P' := by
  induction s with
  | done a => exact hP a hs
  | fail cause => trivial
  | fetch next ih => exact fun b => ih b (hs b)
  | peek next ih => exact fun b => ih b (hs b)
  | skip n next ih => exact ih hs

lemma yields_require (p : Bool) (cause : DecodeError.Cause) :
    (require p cause).Yields fun _ => p = true := by
  cases p with
  | false => trivial
  | true => rfl

lemma yields_trivial (s : Scan α) : s.Yields fun _ => True := by
  induction s with
  | done a => trivial
  | fail cause => trivial
  | fetch next ih => exact ih
  | peek next ih => exact ih
  | skip n next ih => exact ih

end Scan

open Scan

variable {mode : Mode} {p : Prefixes} {lead : UInt8}

lemma Register.valid_segment (i : Fin 6) : (segment i).valid = true := by
  simp [valid, segment]

lemma Vex.register_ofByte_lt (b : UInt8) : (ofByte mode b).register < 16 := by
  simp only [ofByte]
  split <;> omega

def Prefixes.SegmentValid (p : Prefixes) : Prop := ∀ r ∈ p.segment, r.valid = true

namespace Prefixes

lemma segmentValid_add (hp : p.SegmentValid) (q : PrefixByte) : (p.add q).SegmentValid := by
  cases q with
  | segment i =>
    intro r hr
    obtain rfl : Register.segment i = r := by simpa [add] using hr
    exact Register.valid_segment i
  | _ => exact hp

lemma yields_scan (room : ℕ) (hp : p.SegmentValid) :
    (Prefixes.scan mode room p).Yields fun r => r.1.SegmentValid := by
  induction room generalizing p with
  | zero => trivial
  | succ room ih =>
    intro b
    dsimp only
    cases PrefixByte.ofByte? mode b with
    | some q => exact ih (segmentValid_add hp q)
    | none => exact hp

end Prefixes

structure Head.Sound (h : Head) : Prop where
  segment : h.prefixes.SegmentValid
  register : ∀ v ∈ h.vex, v.register < 16

namespace Head

def WithVex (mode : Mode) (p : Prefixes) (h : Head) : Prop :=
  p.allowVex = true ∧ ∃ w bits o last,
    h = ⟨{ p with rex := vexRex mode w bits }, o, some (.ofByte mode last)⟩

inductive Continues (mode : Mode) (p : Prefixes) : Head → Prop
  | opcode (o : Opcode) : Continues mode p ⟨p, o, none⟩
  | vex {h : Head} : h.WithVex mode p → Continues mode p h

lemma Continues.sound {h : Head} (hh : Continues mode p h) (hp : p.SegmentValid) : h.Sound := by
  cases hh with
  | opcode o => exact ⟨hp, nofun⟩
  | vex hv =>
    obtain ⟨-, w, bits, o, last, rfl⟩ := hv
    refine ⟨hp, ?_⟩
    simpa using Vex.register_ofByte_lt last

lemma Continues.rex_eq_none {h : Head} (hh : Continues mode p h) (hm : mode.isLong = false)
    (hp : p.rex = none) : h.prefixes.rex = none := by
  cases hh with
  | opcode o => exact hp
  | vex hv =>
    obtain ⟨-, w, bits, o, last, rfl⟩ := hv
    simp [vexRex, hm]

lemma yields_shortVex (hp : p.allowVex = true) : (shortVex mode p).Yields (WithVex mode p) := by
  intro b o
  exact ⟨hp, _, _, _, b, rfl⟩

lemma yields_longVex (hp : p.allowVex = true) : (longVex mode p).Yields (WithVex mode p) := by
  apply yields_bind (yields_trivial Scan.byte)
  intro b _
  cases OpcodeMap.ofVexNumber? (b.toNat % 32) with
  | none => trivial
  | some map =>
    intro v o
    exact ⟨hp, _, _, _, v, rfl⟩

lemma yields_ofLead : (ofLead mode p lead).Yields (Continues mode p) := by
  rw [ofLead]
  split
  · apply yields_bind (yields_trivial escaped)
    intro o _
    exact .opcode o
  · split
    · apply yields_bind (yields_trivial Scan.ahead)
      intro next _
      split
      · apply yields_bind (yields_require _ _)
        intro _ hp
        split
        · exact yields_mono (fun _ => .vex) (yields_shortVex hp)
        · exact yields_mono (fun _ => .vex) (yields_longVex hp)
      · exact .opcode _
    · exact .opcode _

lemma yields_scan : (scan mode).Yields Sound := by
  have hnone : Prefixes.SegmentValid {} := by simp [Prefixes.SegmentValid]
  apply yields_bind (Prefixes.yields_scan Cursor.maxLength hnone)
  intro r hr
  exact yields_mono (fun h hh => hh.sound hr) yields_ofLead

end Head

end X86
