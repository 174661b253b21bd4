import Mathlib
import X86.Proofs.ScanRuns

/-! Runs that fail, and runs of the same scan once more bytes follow. -/

namespace X86.Scan

variable {α : Type} {s : Scan α} {c : Cursor} {a : α} {e : DecodeError} {t : List UInt8}

lemma run_fetch_eq_error {next : UInt8 → Scan α} : (fetch next).run c = .error e ↔
    c.current = .error e ∨ ∃ b, c.current = .ok b ∧ (next b).run (c.advance 1) = .error e := by
  simp only [run, Cursor.fetch]
  cases c.current <;> simp

lemma run_peek_eq_error {next : UInt8 → Scan α} : (peek next).run c = .error e ↔
    c.current = .error e ∨ ∃ b, c.current = .ok b ∧ (next b).run c = .error e := by
  simp only [run]
  cases c.current <;> simp

lemma run_skip_eq_error {n : ℕ} : (skip n s).run c = .error e ↔
    c.skip n = .error e ∨ ∃ c', c.skip n = .ok c' ∧ s.run c' = .error e := by
  simp only [run]
  cases c.skip n <;> simp

lemma run_extend_of_error (he : e.cause ≠ .truncated) (h : s.run c = .error e) :
    s.run (c.extend t) = .error e := by
  induction s generalizing c with
  | done b => simp at h
  | fail cause => exact h
  | fetch next ih =>
    rw [run_fetch_eq_error] at h ⊢
    exact h.imp (Cursor.current_extend_of_error he)
      fun ⟨b, hb, hn⟩ => ⟨b, Cursor.current_extend hb, ih b hn⟩
  | peek next ih =>
    rw [run_peek_eq_error] at h ⊢
    exact h.imp (Cursor.current_extend_of_error he)
      fun ⟨b, hb, hn⟩ => ⟨b, Cursor.current_extend hb, ih b hn⟩
  | skip n next ih =>
    rw [run_skip_eq_error] at h ⊢
    exact h.imp (Cursor.skip_extend_of_error he)
      fun ⟨c', hc, hn⟩ => ⟨c'.extend t, Cursor.skip_extend hc, ih hn⟩

/-- How a run from `c` fails: it gives up at a place that it has come to, it meets the limit on the
length of an instruction, or the bytes end. -/
inductive Fails (s : Scan α) (c : Cursor) : DecodeError → Prop
  | givesUp (cause : DecodeError.Cause) (place : ℕ) (hle : c.position ≤ place)
    (hplace : place ≤ max c.position (min Cursor.maxLength c.bytes.length))
    (hs : s.Steady → cause ≠ .truncated) : Fails s c ⟨cause, place⟩
  | limit : Fails s c ⟨.invalid, Cursor.maxLength⟩
  | ends (h : c.bytes.length < Cursor.maxLength) : Fails s c ⟨.truncated, c.bytes.length⟩

lemma Fails.of_current (h : c.current = .error e) : s.Fails c e := by
  rcases Cursor.current_eq_error.mp h with ⟨-, rfl⟩ | ⟨hl, hb, rfl⟩
  · exact .limit
  · exact .ends (hb.trans_lt hl)

lemma Fails.of_skip {n : ℕ} (h : c.skip n = .error e) : s.Fails c e := by
  rcases Cursor.skip_eq_error.mp h with ⟨-, rfl⟩ | ⟨hl, hb, rfl⟩
  · exact .limit
  · exact .ends (hb.trans_le hl)

lemma Fails.of_advance {s' : Scan α} {n : ℕ} (h : s'.Fails (c.advance n) e)
    (hn : c.position + n ≤ min Cursor.maxLength c.bytes.length) (hs : s.Steady → s'.Steady) :
    s.Fails c e := by
  cases h with
  | givesUp cause place hle hplace hs' =>
    refine .givesUp cause place ((Nat.le_add_right _ _).trans hle) ?_ (hs' ∘ hs)
    exact (hplace.trans (max_le hn le_rfl)).trans (le_max_right _ _)
  | limit => exact .limit
  | ends h => exact .ends h

lemma fails_of_run (h : s.run c = .error e) : s.Fails c e := by
  induction s generalizing c with
  | done b => simp at h
  | fail cause =>
    obtain rfl : _ = e := by simpa [run] using h
    exact .givesUp cause c.position le_rfl (le_max_left _ _) id
  | fetch next ih =>
    rcases run_fetch_eq_error.mp h with h | ⟨b, hb, hn⟩
    · exact .of_current h
    · exact .of_advance (ih b hn) (Cursor.succ_position_le_of_current hb) fun hs => hs b
  | peek next ih =>
    rcases run_peek_eq_error.mp h with h | ⟨b, hb, hn⟩
    · exact .of_current h
    · have hle := (Nat.le_succ _).trans (Cursor.succ_position_le_of_current hb)
      exact .of_advance (n := 0) (ih b hn) hle fun hs => (hs b).2
  | skip n next ih =>
    rcases run_skip_eq_error.mp h with h | ⟨c', hc, hn⟩
    · exact .of_skip h
    · obtain ⟨hl, hb, rfl⟩ := Cursor.skip_eq_ok.mp hc
      exact .of_advance (ih hn) (le_min hl hb) id

lemma le_consumed_of_run {m : ℕ} (hm : m ≤ Cursor.maxLength) (hp : m ≤ c.position)
    (hb : m ≤ c.bytes.length) (h : s.run c = .error e) : m ≤ e.consumed := by
  cases fails_of_run h with
  | givesUp cause place hle => exact hp.trans hle
  | limit => exact hm
  | ends => exact hb

lemma consumed_le_of_run (hc : c.position ≤ Cursor.maxLength) (h : s.run c = .error e) :
    e.consumed ≤ Cursor.maxLength := by
  cases fails_of_run h with
  | givesUp cause place hle hplace => exact hplace.trans (max_le hc (min_le_left _ _))
  | limit => exact le_rfl
  | ends hlen => exact hlen.le

lemma consumed_of_truncated (hs : s.Steady) (he : e.cause = .truncated) (h : s.run c = .error e) :
    e.consumed = c.bytes.length ∧ c.bytes.length < Cursor.maxLength := by
  cases fails_of_run h with
  | givesUp cause place _ _ hsteady => exact absurd he (hsteady hs)
  | limit => cases he
  | ends hlen => exact ⟨rfl, hlen⟩

def Passes (m : ℕ) : Except DecodeError (α × Cursor) → Prop
  | .ok (_, c) => m < c.position
  | .error e => m ≤ e.consumed

lemma passes_of_lt {m : ℕ} (hm : m ≤ Cursor.maxLength) (hp : m < c.position)
    (hb : m ≤ c.bytes.length) : Passes m (s.run c) := by
  cases h : s.run c with
  | ok r => exact hp.trans_le (position_le_of_run h)
  | error e => exact le_consumed_of_run hm hp.le hb h

lemma passes_of_takes {m : ℕ} (hs : s.Takes) (hm : m ≤ Cursor.maxLength) (hp : m ≤ c.position)
    (hb : m ≤ c.bytes.length) : Passes m (s.run c) := by
  cases h : s.run c with
  | ok r => exact hp.trans_lt (lt_position_of_takes hs h)
  | error e => exact le_consumed_of_run hm hp hb h

lemma passes_extend_of_truncated (hs : s.Steady) (he : e.cause = .truncated)
    (h : s.run c = .error e) (t : List UInt8) : Passes c.bytes.length (s.run (c.extend t)) := by
  obtain ⟨-, hlen⟩ := consumed_of_truncated hs he h
  have hext : c.bytes.length ≤ (c.extend t).bytes.length := by simp [Cursor.extend]
  -- the longer run takes the same steps up to the end of the bytes, and its next one passes it
  induction s generalizing c with
  | done b => simp at h
  | fail cause =>
    obtain rfl : _ = e := by simpa [run] using h
    exact absurd he hs
  | fetch next ih =>
    rcases run_fetch_eq_error.mp h with h | ⟨b, hb, hn⟩
    · rcases Cursor.current_eq_error.mp h with ⟨-, rfl⟩ | ⟨-, hp, -⟩
      · simp at he
      · exact passes_of_takes trivial hlen.le hp hext
    · simp only [run, Cursor.fetch, Cursor.current_extend hb]
      exact ih b (c := c.advance 1) (hs b) hn hlen hext
  | peek next ih =>
    rcases run_peek_eq_error.mp h with h | ⟨b, hb, hn⟩
    · rcases Cursor.current_eq_error.mp h with ⟨-, rfl⟩ | ⟨-, hp, -⟩
      · simp at he
      · exact passes_of_takes (fun b => (hs b).1) hlen.le hp hext
    · simp only [run, Cursor.current_extend hb]
      exact ih b (hs b).2 hn hlen hext
  | skip n next ih =>
    rcases run_skip_eq_error.mp h with h | ⟨c', hc, hn⟩
    · rcases Cursor.skip_eq_error.mp h with ⟨-, rfl⟩ | ⟨-, hp, -⟩
      · simp at he
      · simp only [run]
        cases hc : (c.extend t).skip n with
        | ok d =>
          obtain ⟨-, -, rfl⟩ := Cursor.skip_eq_ok.mp hc
          exact passes_of_lt hlen.le hp hext
        | error e =>
          rcases Cursor.skip_eq_error.mp hc with ⟨-, rfl⟩ | ⟨-, -, rfl⟩
          · exact hlen.le
          · exact hext
    · simp only [run, Cursor.skip_extend hc]
      obtain ⟨-, -, rfl⟩ := Cursor.skip_eq_ok.mp hc
      exact ih (c := c.advance n) hs hn hlen hext

end X86.Scan
