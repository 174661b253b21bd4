import Mathlib
import X86.Proofs.ScanResults
import X86.Proofs.SelectionSteps

/-! The scanner as one scan of the bytes of an instruction. -/

namespace X86

open Scan

variable {mode : Mode} {strictLock : Bool}

lemma Scan.steady_pure {α : Type} (a : α) : (pure a : Scan α).Steady := trivial

lemma Scan.steady_require (p : Bool) {cause : DecodeError.Cause} (h : cause ≠ .truncated) :
    (require p cause).Steady := by
  cases p
  · exact h
  · trivial

lemma Prefixes.steady_scan (room : ℕ) (p : Prefixes) : (Prefixes.scan mode room p).Steady := by
  induction room generalizing p with
  | zero => simp [Prefixes.scan, Steady]
  | succ room ih =>
    intro b
    dsimp only
    cases PrefixByte.ofByte? mode b with
    | some q => exact ih _
    | none => trivial

lemma ModRM.steady_scan {α : Type} (m : Option ModRM) {k : ModRM → Scan α}
    (hk : ∀ x, (k x).Steady) : (ModRM.scan m k).Steady := by
  cases m with
  | some x => exact hk x
  | none =>
    intro b
    apply hk

lemma DecodeTree.steady_select (h : Head) (t : DecodeTree) (m : Option ModRM)
    (s : Option PrefixSlot) : (t.select mode h m s).Steady := by
  induction t using node_induction mode h.vex generalizing m s with
  | undefined => simp [select, Steady]
  | leaf e => trivial
  | modrm t next hn ih =>
    rw [select_modrm hn]
    exact ModRM.steady_scan m fun x => ih x _ _
  | slot next ih => exact ih _ _ _
  | known t t' hn ih =>
    rw [select_known hn]
    exact ih _ _

namespace Selection

lemma steady_checkPrefixes (h : Head) (s : Selection) : (s.checkPrefixes mode h).Steady := by
  apply steady_bind (steady_require _ (by simp))
  intro _
  cases h.vex with
  | none =>
    apply steady_bind (steady_require _ (by simp))
    intro _
    exact steady_require _ (by simp)
  | some v =>
    apply steady_bind (steady_require _ (by simp))
    intro _
    apply steady_bind (steady_require _ (by simp))
    intro _
    exact steady_require _ (by simp)

lemma steady_withModRM (s : Selection) : s.withModRM.Steady := by
  unfold withModRM
  split
  · apply ModRM.steady_scan
    intro x
    trivial
  · trivial

lemma steady_skipAddress (z : Size) (m : ModRM) : (m.skipAddress z).Steady := by
  unfold ModRM.skipAddress
  split
  · trivial
  · split
    · intro b
      change Steady (if _ then _ else _)
      split <;> trivial
    · trivial

lemma steady_scanAddress (rex : Option Rex) (z : Size) (s : Selection) :
    (s.scanAddress rex z).Steady := by
  unfold scanAddress
  cases s.modrm with
  | none => trivial
  | some m =>
    apply steady_bind (steady_require _ (by simp))
    intro _
    split
    · exact steady_skipAddress z m
    · trivial

end Selection

namespace Head

lemma steady_scanBody (h : Head) : (h.scanBody mode strictLock).Steady := by
  apply steady_bind (DecodeTree.steady_select h _ _ _)
  intro s
  apply steady_bind (s.steady_checkPrefixes h)
  intro _
  apply steady_bind s.steady_withModRM
  intro s
  apply steady_bind (s.steady_scanAddress _ _)
  intro _
  apply steady_bind (s := Scan.drop _) trivial
  intro _
  apply steady_bind (steady_require _ (by simp))
  intro _
  exact steady_pure s

lemma takes_scanBody_of_vexLead {h : Head} {b : UInt8} (hb : b = 0xC4 ∨ b = 0xC5)
    (ho : h.opcode = .ofByte b) : (h.scanBody mode strictLock).Takes := by
  -- as opcodes both load far pointers, which takes a ModR/M byte
  obtain ⟨e, he, hm⟩ : ∃ e, h.opcode.tree = .leaf e ∧ e.usesModRM = true := by
    rw [ho]
    rcases hb with rfl | rfl
    · exact ⟨_, rfl, rfl⟩
    · exact ⟨_, rfl, rfl⟩
  unfold scanBody
  rw [he]
  apply takes_bind_right (Selection.checkPrefixes mode h ⟨e, none, none⟩)
  intro _
  apply takes_bind_left
  simp [Selection.withModRM, hm, ModRM.scan, Takes]

lemma steady_escaped : escaped.Steady := by
  intro b
  dsimp only
  change Steady (if _ then _ else _)
  split
  · exact fun _ => trivial
  · split
    · exact fun _ => trivial
    · trivial

lemma steady_shortVex (p : Prefixes) : (shortVex mode p).Steady := fun _ _ => trivial

lemma steady_longVex (p : Prefixes) : (longVex mode p).Steady := by
  apply steady_bind (s := Scan.byte) fun _ => trivial
  intro b
  split
  · simp [Steady]
  · exact fun _ _ => trivial

def behindLead (mode : Mode) (strictLock : Bool) (p : Prefixes) (lead : UInt8) :
    Scan ((Head × ℕ) × (Selection × ℕ)) := do
  let h ← (ofLead mode p lead).measured 0
  let s ← (h.1.scanBody mode strictLock).measured h.2
  return (h, s)

lemma steady_behindLead (p : Prefixes) (lead : UInt8) :
    (behindLead mode strictLock p lead).Steady := by
  have hbody (h : Head × ℕ) : Steady (do
      let s ← (h.1.scanBody mode strictLock).measured h.2
      return (h, s)) :=
    steady_bind (steady_measured (steady_scanBody h.1) h.2) fun s => trivial
  unfold behindLead ofLead
  split
  · exact steady_bind (steady_measured (steady_bind steady_escaped fun o => steady_pure _) 0) hbody
  · split
    · rename_i hlead
      -- the byte behind the lead is only looked at: the VEX prefix or the ModR/M byte takes it
      intro next
      simp only [Scan.bind]
      split
      · have hs : Steady (do
            require p.allowVex .invalid
            if lead = 0xC5 then shortVex mode p else longVex mode p) := by
          apply steady_bind (steady_require _ (by simp))
          intro _
          split
          · exact steady_shortVex p
          · exact steady_longVex p
        have ht : Takes (do
            require p.allowVex .invalid
            if lead = 0xC5 then shortVex mode p else longVex mode p) := by
          apply takes_bind_right
          intro _
          split <;> trivial
        exact ⟨takes_bind_left (takes_measured ht 0) _, steady_bind (steady_measured hs 0) hbody⟩
      · have ht := @takes_scanBody_of_vexLead mode strictLock ⟨p, .ofByte lead, none⟩ lead hlead rfl
        exact ⟨takes_bind_left (takes_measured ht 0) _, hbody (⟨p, .ofByte lead, none⟩, 0)⟩
    · exact hbody _

variable {p : Prefixes} {lead : UInt8} {c c' : Cursor}

lemma prefixes_of_ofLead {h : Head} (hr : (ofLead mode p lead).run c = .ok (h, c')) :
    h.prefixes = { p with rex := h.prefixes.rex } := by
  cases of_run_of_yields yields_ofLead hr with
  | opcode o => rfl
  | vex hv =>
    obtain ⟨-, w, bits, o, last, rfl⟩ := hv
    rfl

lemma run_behindLead_iff {h : Head × ℕ} {s : Selection × ℕ} :
    (behindLead mode strictLock p lead).run c = .ok ((h, s), c') ↔
      ∃ d, (ofLead mode p lead).run c = .ok (h.1, d) ∧ h.2 = d.position - c.position ∧
        (h.1.scanBody mode strictLock).run d = .ok (s.1, c') ∧
        s.2 = h.2 + (c'.position - d.position) := by
  unfold behindLead
  simp only [run_bind_eq_ok, run_measured_eq_ok, run_pure, Except.ok.injEq, Prod.mk.injEq]
  constructor
  · rintro ⟨h', d, ⟨hh, hn⟩, s', d', ⟨hs, hm⟩, ⟨rfl, rfl⟩, rfl⟩
    exact ⟨d, hh, by omega, hs, hm⟩
  · rintro ⟨d, hh, hn, hs, hm⟩
    exact ⟨h, d, ⟨hh, by omega⟩, s, c', ⟨hs, hm⟩, ⟨rfl, rfl⟩, rfl⟩

lemma run_behindLead_eq_ok {h : Head × ℕ} {s : Selection × ℕ}
    (hr : (behindLead mode strictLock p lead).run c = .ok ((h, s), c')) :
    h.1.prefixes = { p with rex := h.1.prefixes.rex } ∧ h.2 ≤ s.2 ∧
      c'.position = c.position + s.2 := by
  obtain ⟨d, hh, hn, hs, hm⟩ := run_behindLead_iff.mp hr
  have hc := position_le_of_run hh
  have hd := position_le_of_run hs
  exact ⟨prefixes_of_ofLead hh, by omega, by omega⟩

end Head

namespace Encoding

def program (mode : Mode) (strictLock : Bool) : Scan Encoding := do
  let q ← (Prefixes.scan mode Cursor.maxLength {}).measured 0
  let (h, s) ← Head.behindLead mode strictLock q.1.1 q.1.2
  return ofSelection mode h.1 s.1 (q.2 + h.2) (q.2 + s.2)

lemma steady_program : (program mode strictLock).Steady := by
  apply steady_bind (steady_measured (Prefixes.steady_scan _ _) 0)
  intro q
  apply steady_bind (Head.steady_behindLead _ _)
  intro r
  exact steady_pure _

lemma run_program (bytes : List UInt8) : (program mode strictLock).run (.start bytes) =
    (scan mode strictLock bytes).map fun e => (e, ⟨bytes, e.length⟩) := by
  unfold scan scanBy program Head.behindLead Head.scan
  simp only [run_bind, run_measured]
  cases hp : (Prefixes.scan mode Cursor.maxLength {}).run (.start bytes) with
  | error e => rfl
  | ok q =>
    obtain ⟨⟨p, lead⟩, c⟩ := q
    dsimp only [Except.map]
    cases hh : (Head.ofLead mode p lead).run c with
    | error e => rfl
    | ok r =>
      obtain ⟨h, d⟩ := r
      dsimp only [Except.map]
      cases hb : (h.scanBody mode strictLock).run d with
      | error e => rfl
      | ok r =>
        obtain ⟨s, d'⟩ := r
        have hc := position_le_of_run hh
        have hd := position_le_of_run hb
        have hbytes : d'.bytes = bytes := by
          rw [bytes_of_run hb, bytes_of_run hh, bytes_of_run hp]
          rfl
        -- the counts of the parts add up to the places that the scan reads off its cursors
        have hbody : 0 + (c.position - 0) + (0 + (d.position - c.position)) = d.position := by omega
        have hstop : 0 + (c.position - 0) + (0 + (d.position - c.position) +
            (d'.position - d.position)) = d'.position := by omega
        simp only [run_pure, Cursor.start, hbody, hstop]
        rw [← hbytes]
        rfl

variable {bytes : List UInt8} {e : Encoding} {err : DecodeError}

lemma scan_eq_ok_iff : scan mode strictLock bytes = .ok e ↔
    (program mode strictLock).run (.start bytes) = .ok (e, ⟨bytes, e.length⟩) := by
  rw [run_program]
  cases scan mode strictLock bytes <;> simp +contextual [Except.map]

lemma scan_eq_error_iff : scan mode strictLock bytes = .error err ↔
    (program mode strictLock).run (.start bytes) = .error err := by
  rw [run_program]
  cases scan mode strictLock bytes <;> simp +contextual [Except.map]

lemma scan_eq_ok_behindLead : scan mode strictLock bytes = .ok e ↔ ∃ p lead c h s c',
    (Prefixes.scan mode Cursor.maxLength {}).run (.start bytes) = .ok ((p, lead), c) ∧
      (Head.behindLead mode strictLock p lead).run c = .ok ((h, s), c') ∧
        e = ofSelection mode h.1 s.1 (c.position + h.2) (c.position + s.2) := by
  have hrun : scan mode strictLock bytes = .ok e ↔
      ∃ c', (program mode strictLock).run (.start bytes) = .ok (e, c') := by
    rw [run_program]
    cases scan mode strictLock bytes <;> simp [Except.map]
  rw [hrun, program]
  simp only [run_bind_eq_ok, run_measured]
  cases hp : (Prefixes.scan mode Cursor.maxLength {}).run (.start bytes) with
  | error err => simp [Except.map]
  | ok r =>
    obtain ⟨⟨p, lead⟩, c⟩ := r
    simp only [Except.map, Cursor.start, tsub_zero, zero_add, Except.ok.injEq, Prod.mk.injEq,
      run_pure, exists_eq_right_right, Prod.exists, ↓existsAndEq, and_true, exists_eq_left',
      exists_and_left, exists_and_right]
    constructor
    · rintro ⟨c', h, n, s, m, hr, rfl⟩
      exact ⟨h, n, s, m, ⟨c', hr⟩, rfl⟩
    · rintro ⟨h, n, s, m, ⟨c', hr⟩, rfl⟩
      exact ⟨c', h, n, s, m, hr, rfl⟩

end Encoding

end X86
