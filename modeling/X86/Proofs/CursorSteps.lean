import Mathlib
import X86.Cursor

namespace X86

namespace Cursor

def rest (c : Cursor) : List UInt8 := c.bytes.drop c.position

def extend (c : Cursor) (t : List UInt8) : Cursor := ⟨c.bytes ++ t, c.position⟩

variable {c c' d : Cursor} {b : UInt8} {n k : ℕ}

@[simp] lemma advance_position : (c.advance n).position = c.position + n := rfl
@[simp] lemma advance_bytes : (c.advance n).bytes = c.bytes := rfl
@[simp] lemma advance_zero : c.advance 0 = c := rfl

@[simp] lemma advance_advance : (c.advance n).advance k = c.advance (n + k) := by
  simp [advance, Nat.add_assoc]

@[simp] lemma rest_advance : (c.advance n).rest = c.rest.drop n := by
  simp [rest, advance]

@[simp] lemma rest_start (bytes : List UInt8) : (start bytes).rest = bytes := by
  simp [rest, start]

lemma rest_append_cons (P : List UInt8) (x : UInt8) (t : List UInt8) :
    rest ⟨P ++ x :: t, P.length + 1⟩ = t := List.drop_length_add_append 1

lemma rest_extend (t : List UInt8) (hc : c.position ≤ c.bytes.length) :
    (c.extend t).rest = c.rest ++ t := by
  simp [rest, extend, List.drop_append_of_le_length hc]

lemma current_eq_ok : c.current = .ok b ↔ c.position < maxLength ∧ c.rest[0]? = some b := by
  rw [rest, List.getElem?_drop, Nat.add_zero]
  unfold current
  split
  · simp; omega
  · split <;> simp_all

lemma current_of_rest {t : List UInt8} (hc : c.rest = b :: t) (hpos : c.position < maxLength) :
    c.current = .ok b := current_eq_ok.mpr ⟨hpos, by rw [hc]; rfl⟩

lemma rest_advance_one {t : List UInt8} (hc : c.rest = b :: t) : (c.advance 1).rest = t := by
  rw [rest_advance, hc]
  rfl

lemma succ_position_le_of_current (h : c.current = .ok b) :
    c.position + 1 ≤ min maxLength c.bytes.length := by
  obtain ⟨hl, hb⟩ := current_eq_ok.mp h
  obtain ⟨hb, -⟩ := List.getElem?_eq_some_iff.mp hb
  rw [rest, List.length_drop] at hb
  omega

lemma current_of_prefix (hp : c.rest <+: d.rest) (hd : d.position < maxLength)
    (h : c.current = .ok b) : d.current = .ok b := by
  obtain ⟨t, ht⟩ := hp
  obtain ⟨-, hb⟩ := current_eq_ok.mp h
  refine current_eq_ok.mpr ⟨hd, ?_⟩
  rw [← ht, List.getElem?_append_left (List.getElem?_eq_some_iff.mp hb).1, hb]

lemma skip_eq_ok : c.skip n = .ok c' ↔
    c.position + n ≤ maxLength ∧ c.position + n ≤ c.bytes.length ∧ c' = c.advance n := by
  unfold skip
  grind

lemma current_eq_error {e : DecodeError} : c.current = .error e ↔
    maxLength ≤ c.position ∧ e = ⟨.invalid, maxLength⟩ ∨
      c.position < maxLength ∧ c.bytes.length ≤ c.position ∧ e = ⟨.truncated, c.bytes.length⟩ := by
  unfold current
  grind

lemma skip_eq_error {e : DecodeError} : c.skip n = .error e ↔
    maxLength < c.position + n ∧ e = ⟨.invalid, maxLength⟩ ∨
      c.position + n ≤ maxLength ∧ c.bytes.length < c.position + n ∧
        e = ⟨.truncated, c.bytes.length⟩ := by
  unfold skip
  grind

lemma current_extend {t : List UInt8} (h : c.current = .ok b) : (c.extend t).current = .ok b := by
  obtain ⟨hl, hb⟩ := current_eq_ok.mp h
  have hc : c.position ≤ c.bytes.length := by
    by_contra hc
    simp [rest, List.drop_eq_nil_of_le (Nat.le_of_not_le hc)] at hb
  refine current_eq_ok.mpr ⟨hl, ?_⟩
  rw [rest_extend t hc]
  exact List.getElem?_append_left (List.getElem?_eq_some_iff.mp hb).1 ▸ hb

lemma current_extend_of_error {e : DecodeError} {t : List UInt8} (he : e.cause ≠ .truncated)
    (h : c.current = .error e) : (c.extend t).current = .error e := by
  rcases current_eq_error.mp h with ⟨hl, rfl⟩ | ⟨-, -, rfl⟩
  · exact current_eq_error.mpr (Or.inl ⟨hl, rfl⟩)
  · exact absurd rfl he

lemma skip_extend {t : List UInt8} (h : c.skip n = .ok c') :
    (c.extend t).skip n = .ok (c'.extend t) := by
  obtain ⟨hl, hb, rfl⟩ := skip_eq_ok.mp h
  exact skip_eq_ok.mpr ⟨hl, by simp [extend]; omega, rfl⟩

lemma skip_extend_of_error {e : DecodeError} {t : List UInt8} (he : e.cause ≠ .truncated)
    (h : c.skip n = .error e) : (c.extend t).skip n = .error e := by
  rcases skip_eq_error.mp h with ⟨hl, rfl⟩ | ⟨-, -, rfl⟩
  · exact skip_eq_error.mpr (Or.inl ⟨hl, rfl⟩)
  · exact absurd rfl he

end Cursor

end X86
