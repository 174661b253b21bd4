import X86.Cursor

/-! Reading an instruction byte by byte. A `Scan` is the tree of what is asked for next, so whatever
is written as one looks at bytes only in order, and reports a failure at the byte that it looked at
last. `run` answers it from a cursor. -/

namespace X86

inductive Scan (α : Type) where
  | done (a : α)
  | fail (cause : DecodeError.Cause)
  | fetch (next : UInt8 → Scan α)
  | peek (next : UInt8 → Scan α)
  | skip (n : Nat) (next : Scan α)

namespace Scan

variable {α β : Type}

def bind : Scan α → (α → Scan β) → Scan β
  | done a, k => k a
  | fail cause, _ => fail cause
  | fetch next, k => fetch fun b => (next b).bind k
  | peek next, k => peek fun b => (next b).bind k
  | skip n next, k => skip n (next.bind k)

instance : Monad Scan where
  pure := done
  bind := bind

def byte : Scan UInt8 := fetch done

def ahead : Scan UInt8 := peek done

def drop (n : Nat) : Scan Unit := skip n (done ())

def require (condition : Bool) (cause : DecodeError.Cause) : Scan Unit :=
  if condition then done () else fail cause

def run : Scan α → Cursor → Except DecodeError (α × Cursor)
  | done a, c => .ok (a, c)
  | fail cause, c => .error ⟨cause, c.position⟩
  | fetch next, c =>
    match c.fetch with
    | .ok (b, c) => (next b).run c
    | .error e => .error e
  | peek next, c =>
    match c.current with
    | .ok b => (next b).run c
    | .error e => .error e
  | skip n next, c =>
    match c.skip n with
    | .ok c => next.run c
    | .error e => .error e

theorem position_le_of_run {s : Scan α} {c c' : Cursor} {a : α} (h : s.run c = .ok (a, c')) :
    c.position ≤ c'.position := by
  induction s generalizing c with
  | done b =>
    simp only [run, Except.ok.injEq, Prod.mk.injEq] at h
    exact Nat.le_of_eq (congrArg Cursor.position h.2)
  | fail cause => simp [run] at h
  | fetch next ih =>
    simp only [run, Cursor.fetch] at h
    cases hb : c.current with
    | error e => simp [hb] at h
    | ok b =>
      simp only [hb] at h
      exact Nat.le_trans (Nat.le_add_right _ 1) (ih b h)
  | peek next ih =>
    simp only [run] at h
    cases hb : c.current with
    | error e => simp [hb] at h
    | ok b =>
      simp only [hb] at h
      exact ih b h
  | skip n next ih =>
    simp only [run] at h
    cases hc : c.skip n with
    | error e => simp [hc] at h
    | ok c₁ =>
      simp only [hc] at h
      have hle := ih h
      rw [Cursor.eq_advance_of_skip hc] at hle
      exact Nat.le_trans (Nat.le_add_right _ n) hle

end Scan

end X86
