import Mathlib
import X86.Proofs.CursorSteps
import X86.Scan

/-! Runs of a scan: where they end, and which bytes they depend on. -/

namespace X86

namespace Scan

variable {α β : Type} {s : Scan α} {c c' d : Cursor} {a : α}

@[simp] lemma run_pure : (pure a : Scan α).run c = .ok (a, c) := rfl

@[simp] lemma run_done : (done a).run c = .ok (a, c) := rfl

lemma run_bind (s : Scan α) (k : α → Scan β) (c : Cursor) :
    (s >>= k).run c = match s.run c with
      | .ok (a, c') => (k a).run c'
      | .error e => .error e := by
  change (s.bind k).run c = _
  induction s generalizing c with
  | done a => rfl
  | fail cause => rfl
  | fetch next ih =>
    simp only [Scan.bind, run]
    cases c.fetch with
    | ok r => exact ih _ _
    | error e => rfl
  | peek next ih =>
    simp only [Scan.bind, run]
    cases c.current with
    | ok b => exact ih _ _
    | error e => rfl
  | skip n next ih =>
    simp only [Scan.bind, run]
    cases c.skip n with
    | ok r => exact ih _
    | error e => rfl

lemma run_bind_eq_ok {k : α → Scan β} {b : β} :
    (s >>= k).run c = .ok (b, c') ↔ ∃ a d, s.run c = .ok (a, d) ∧ (k a).run d = .ok (b, c') := by
  rw [run_bind]
  cases s.run c with
  | ok r => simp [Prod.ext_iff, and_assoc]
  | error e => simp

lemma run_bind_congr {s' : Scan α} {k k' : α → Scan β} (hs : s.run c = s'.run c)
    (hk : ∀ a d, s'.run c = .ok (a, d) → (k a).run d = (k' a).run d) :
    (s >>= k).run c = (s' >>= k').run c := by
  rw [run_bind, run_bind, hs]
  cases h : s'.run c with
  | ok r => exact hk r.1 r.2 h
  | error e => rfl

lemma run_fetch_eq_ok {next : UInt8 → Scan α} : (fetch next).run c = .ok (a, c') ↔
    ∃ b, c.current = .ok b ∧ (next b).run (c.advance 1) = .ok (a, c') := by
  simp only [run, Cursor.fetch]
  cases c.current <;> simp

lemma run_peek_eq_ok {next : UInt8 → Scan α} : (peek next).run c = .ok (a, c') ↔
    ∃ b, c.current = .ok b ∧ (next b).run c = .ok (a, c') := by
  simp only [run]
  cases c.current <;> simp

lemma run_skip_eq_ok {n : ℕ} : (skip n s).run c = .ok (a, c') ↔
    c.position + n ≤ Cursor.maxLength ∧ c.position + n ≤ c.bytes.length ∧
      s.run (c.advance n) = .ok (a, c') := by
  simp only [run]
  cases h : c.skip n with
  | ok d =>
    obtain ⟨hl, hb, rfl⟩ := Cursor.skip_eq_ok.mp h
    simp [hl, hb]
  | error e =>
    have := Cursor.skip_eq_error.mp h
    simp only [reduceCtorEq, false_iff]
    omega

lemma run_byte_eq_ok {b : UInt8} :
    byte.run c = .ok (b, c') ↔ c.current = .ok b ∧ c' = c.advance 1 := by
  simp only [byte, run_fetch_eq_ok, run_done, Except.ok.injEq, Prod.mk.injEq, @eq_comm _ c']
  simp

lemma run_byte_of_rest {b : UInt8} {t : List UInt8} (hc : c.rest = b :: t)
    (hpos : c.position < Cursor.maxLength) : byte.run c = .ok (b, c.advance 1) :=
  run_byte_eq_ok.mpr ⟨Cursor.current_of_rest hc hpos, rfl⟩

lemma run_drop_eq_ok {n : ℕ} {u : Unit} : (drop n).run c = .ok (u, c') ↔
    c.position + n ≤ Cursor.maxLength ∧ c.position + n ≤ c.bytes.length ∧ c' = c.advance n := by
  simp only [drop, run_skip_eq_ok, run_done, Except.ok.injEq, Prod.mk.injEq, true_and,
    @eq_comm _ c']

lemma run_require_eq_ok {p : Bool} {cause : DecodeError.Cause} {u : Unit} :
    (require p cause).run c = .ok (u, c') ↔ p = true ∧ c' = c := by
  cases p <;> simp [require, run, eq_comm]

lemma bytes_of_run (h : s.run c = .ok (a, c')) : c'.bytes = c.bytes := by
  induction s generalizing c with
  | done b => simp_all [run]
  | fail cause => simp [run] at h
  | fetch next ih =>
    obtain ⟨b, -, hn⟩ := run_fetch_eq_ok.mp h
    simpa using ih b hn
  | peek next ih =>
    obtain ⟨b, -, hn⟩ := run_peek_eq_ok.mp h
    exact ih b hn
  | skip n next ih => simpa using ih (run_skip_eq_ok.mp h).2.2

lemma position_of_run_le (hc : c.position ≤ min Cursor.maxLength c.bytes.length)
    (h : s.run c = .ok (a, c')) : c'.position ≤ min Cursor.maxLength c.bytes.length := by
  induction s generalizing c with
  | done b => simp_all [run]
  | fail cause => simp [run] at h
  | fetch next ih =>
    obtain ⟨b, hb, hn⟩ := run_fetch_eq_ok.mp h
    exact (ih b (c := c.advance 1) (Cursor.succ_position_le_of_current hb) hn :)
  | peek next ih =>
    obtain ⟨b, -, hn⟩ := run_peek_eq_ok.mp h
    exact ih b hc hn
  | skip n next ih =>
    obtain ⟨hl, hb, hn⟩ := run_skip_eq_ok.mp h
    exact (ih (c := c.advance n) (le_min hl hb) hn :)

def Takes : Scan α → Prop
  | done _ => False
  | fail _ => True
  | fetch _ => True
  | peek next => ∀ b, (next b).Takes
  | skip n next => 0 < n ∨ next.Takes

/-- A byte that is looked at is taken later on, and only missing bytes count as a truncation. -/
def Steady : Scan α → Prop
  | done _ => True
  | fail cause => cause ≠ .truncated
  | fetch next => ∀ b, (next b).Steady
  | peek next => ∀ b, (next b).Takes ∧ (next b).Steady
  | skip _ next => next.Steady

lemma takes_bind_left (hs : s.Takes) (k : α → Scan β) : (s >>= k).Takes := by
  change (s.bind k).Takes
  induction s with
  | done a => exact hs.elim
  | fail cause => trivial
  | fetch next ih => trivial
  | peek next ih => exact fun b => ih b (hs b)
  | skip n next ih => exact hs.imp_right ih

lemma takes_bind_right (s : Scan α) {k : α → Scan β} (hk : ∀ a, (k a).Takes) : (s >>= k).Takes := by
  change (s.bind k).Takes
  induction s with
  | done a => exact hk a
  | fail cause => trivial
  | fetch next ih => trivial
  | peek next ih => exact ih
  | skip n next ih => exact Or.inr ih

lemma steady_bind (hs : s.Steady) {k : α → Scan β} (hk : ∀ a, (k a).Steady) : (s >>= k).Steady := by
  change (s.bind k).Steady
  induction s with
  | done a => exact hk a
  | fail cause => exact hs
  | fetch next ih => exact fun b => ih b (hs b)
  | peek next ih => exact fun b => ⟨takes_bind_left (hs b).1 k, ih b (hs b).2⟩
  | skip n next ih => exact ih hs

lemma lt_position_of_takes (hs : s.Takes) (h : s.run c = .ok (a, c')) :
    c.position < c'.position := by
  induction s generalizing c with
  | done b => exact hs.elim
  | fail cause => simp [run] at h
  | fetch next ih =>
    obtain ⟨b, -, hn⟩ := run_fetch_eq_ok.mp h
    exact position_le_of_run hn
  | peek next ih =>
    obtain ⟨b, -, hn⟩ := run_peek_eq_ok.mp h
    exact ih b (hs b) hn
  | skip n next ih =>
    obtain ⟨-, -, hn⟩ := run_skip_eq_ok.mp h
    have hle := position_le_of_run hn
    rw [Cursor.advance_position] at hle
    rcases hs with hs | hs
    · omega
    · have := ih hs hn
      rw [Cursor.advance_position] at this
      omega

/-- A successful run depends on nothing but the bytes that it takes, and on where the limit on the
length of an instruction lies. -/
lemma run_transport (hs : s.Steady) (hd : d.position ≤ d.bytes.length) (hp : c.rest <+: d.rest)
    (hl : d.position + (c'.position - c.position) ≤ Cursor.maxLength)
    (h : s.run c = .ok (a, c')) : s.run d = .ok (a, d.advance (c'.position - c.position)) := by
  induction s generalizing c d with
  | done b =>
    obtain ⟨rfl, rfl⟩ : b = a ∧ c = c' := by simpa using h
    simp
  | fail cause => simp [run] at h
  | fetch next ih =>
    obtain ⟨b, hb, hn⟩ := run_fetch_eq_ok.mp h
    have hle := position_le_of_run hn
    rw [Cursor.advance_position] at hle
    have hb' := Cursor.current_of_prefix hp (by omega) hb
    have hd' := Cursor.succ_position_le_of_current hb'
    have := ih b (hs b) (d := d.advance 1) (by simp; omega)
      (by simpa using hp.drop 1) (by simp; omega) hn
    refine run_fetch_eq_ok.mpr ⟨b, hb', this.trans ?_⟩
    simp
    congr 2
    omega
  | peek next ih =>
    -- what is looked at is taken later on, so that it lies within the limit at `d` as well
    obtain ⟨b, hb, hn⟩ := run_peek_eq_ok.mp h
    have hlt := lt_position_of_takes (hs b).1 hn
    have hb' := Cursor.current_of_prefix hp (by omega) hb
    exact run_peek_eq_ok.mpr ⟨b, hb', ih b (hs b).2 hd hp hl hn⟩
  | skip n next ih =>
    obtain ⟨hm, hn, hr⟩ := run_skip_eq_ok.mp h
    have hle := position_le_of_run hr
    rw [Cursor.advance_position] at hle
    have hlen := hp.length_le
    simp only [Cursor.rest, List.length_drop] at hlen
    have := ih hs (d := d.advance n) (by simp; omega) (by simpa using hp.drop n)
      (by simp; omega) hr
    refine run_skip_eq_ok.mpr ⟨by omega, by omega, this.trans ?_⟩
    simp
    congr 2
    omega

def measured : Scan α → ℕ → Scan (α × ℕ)
  | done a, n => done (a, n)
  | fail cause, _ => fail cause
  | fetch next, n => fetch fun b => (next b).measured (n + 1)
  | peek next, n => peek fun b => (next b).measured n
  | skip k next, n => skip k (next.measured (n + k))

lemma map_count_advance (n k : ℕ) (c : Cursor) (r : Except DecodeError (α × Cursor))
    (hr : ∀ x, r = .ok x → c.position + k ≤ x.2.position) :
    (r.map fun x => ((x.1, n + k + (x.2.position - (c.advance k).position)), x.2)) =
      r.map fun x => ((x.1, n + (x.2.position - c.position)), x.2) := by
  cases r with
  | error e => rfl
  | ok x =>
    have := hr x rfl
    simp only [Except.map, Cursor.advance_position, Except.ok.injEq, Prod.mk.injEq, true_and,
      and_true]
    omega

lemma run_measured (s : Scan α) (n : ℕ) (c : Cursor) : (s.measured n).run c =
    (s.run c).map fun r => ((r.1, n + (r.2.position - c.position)), r.2) := by
  induction s generalizing n c with
  | done a => simp [measured, Except.map]
  | fail cause => rfl
  | fetch next ih =>
    simp only [measured, run, Cursor.fetch]
    cases c.current with
    | ok b => exact (ih b _ _).trans (map_count_advance n 1 c _ fun r h => position_le_of_run h)
    | error e => rfl
  | peek next ih =>
    simp only [measured, run]
    cases c.current with
    | ok b => exact ih b n c
    | error e => rfl
  | skip k next ih =>
    simp only [measured, run]
    cases h : c.skip k with
    | ok d =>
      obtain ⟨-, -, rfl⟩ := Cursor.skip_eq_ok.mp h
      exact (ih _ _).trans (map_count_advance n k c _ fun r h => position_le_of_run h)
    | error e => rfl

lemma run_measured_eq_ok {n : ℕ} {r : α × ℕ} : (s.measured n).run c = .ok (r, c') ↔
    s.run c = .ok (r.1, c') ∧ r.2 = n + (c'.position - c.position) := by
  rw [run_measured]
  cases s.run c with
  | error e => simp [Except.map]
  | ok x => simp [Except.map, Prod.ext_iff]; grind

lemma takes_measured (hs : s.Takes) (n : ℕ) : (s.measured n).Takes := by
  induction s generalizing n with
  | done a => exact hs
  | fail cause => trivial
  | fetch next ih => trivial
  | peek next ih => exact fun b => ih b (hs b) n
  | skip k next ih => exact hs.imp_right fun hs => ih hs _

lemma steady_measured (hs : s.Steady) (n : ℕ) : (s.measured n).Steady := by
  induction s generalizing n with
  | done a => trivial
  | fail cause => exact hs
  | fetch next ih => exact fun b => ih b (hs b) _
  | peek next ih => exact fun b => ⟨takes_measured (hs b).1 n, ih b (hs b).2 n⟩
  | skip k next ih => exact ih hs _

end Scan

end X86
