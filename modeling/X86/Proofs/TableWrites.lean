import Mathlib
import X86.Opcode.FlatTable

/-! What the filled table holds: at every place the cell that was written there last. The writes are
many, so they are sorted by the bits of their places before one is looked for. -/

namespace X86

def written (place : ℕ) (c : Cell) (ws : List (ℕ × Cell)) : Cell :=
  ws.foldl (fun c w => if w.1 = place then w.2 else c) c

namespace Filling

def writes : ℕ → List FillStep → List (ℕ × Cell)
  | _, [] => []
  | _, .seek b :: steps => writes b.base steps
  | base, .set slot c :: steps => (base + slot, c) :: writes base steps
  | _, .row map slots opcode :: steps =>
    (map.base + opcode, .link .slot (slots.base + 4 * opcode)) ::
      writes (slots.base + 4 * opcode) steps

lemma cells_foldl_step (steps : List FillStep) (f : Filling) : (steps.foldl step f).cells =
    (writes f.base steps).foldl (fun t w => t.set w.1 w.2) f.cells := by
  induction steps generalizing f with
  | nil => rfl
  | cons s steps ih =>
    cases s with
    | seek b => exact ih _
    | set slot c => exact ih _
    | row map slots opcode => exact ih _

end Filling

lemma getElem?_foldl_set (ws : List (ℕ × Cell)) (t : FlatTable) (place : ℕ) :
    (ws.foldl (fun t w => t.set w.1 w.2) t)[place]? =
      t[place]?.map fun c => written place c ws := by
  induction ws generalizing t with
  | nil => exact Option.map_id'.symm
  | cons w ws ih =>
    rw [List.foldl_cons, ih, List.getElem?_set]
    split
    · rename_i hw
      subst hw
      cases ht : t[w.1]? with
      | none => rw [if_neg (by simpa using ht), Option.map_none, Option.map_none]
      | some c =>
        rw [if_pos (List.getElem?_eq_some_iff.mp ht).1, Option.map_some, Option.map_some, written,
          written, List.foldl_cons, if_pos rfl]
    · rename_i hw
      simp only [written, List.foldl_cons, if_neg hw]

inductive Sorted where
  | bucket (ws : List (ℕ × Cell))
  | split (even odd : Sorted)

namespace Sorted

def half (bit : ℕ) (ws : List (ℕ × Cell)) : List (ℕ × Cell) :=
  ws.filterMap fun w => bif Nat.beq (w.1 % 2) bit then some (w.1 / 2, w.2) else none

def sort : ℕ → List (ℕ × Cell) → Sorted
  | 0, ws => bucket ws
  | bits + 1, ws => split (sort bits (half 0 ws)) (sort bits (half 1 ws))

def find : Sorted → ℕ → Cell
  | bucket ws, place => written place .undefined ws
  | split even odd, place =>
    bif Nat.beq (place % 2) 0 then even.find (place / 2) else odd.find (place / 2)

lemma written_half (place : ℕ) (c : Cell) (ws : List (ℕ × Cell)) :
    written (place / 2) c (half (place % 2) ws) = written place c ws := by
  induction ws generalizing c with
  | nil => rfl
  | cons w ws ih =>
    by_cases hbit : w.1 % 2 = place % 2
    · have hhalf : half (place % 2) (w :: ws) = (w.1 / 2, w.2) :: half (place % 2) ws := by
        rw [half, List.filterMap_cons, hbit, Nat.beq_refl]
        rfl
      have hplace : w.1 / 2 = place / 2 ↔ w.1 = place := by omega
      rw [hhalf]
      change written (place / 2) (if w.1 / 2 = place / 2 then w.2 else c) _ =
        written place (if w.1 = place then w.2 else c) ws
      simp only [hplace, ih]
    · have hhalf : half (place % 2) (w :: ws) = half (place % 2) ws := by
        have hfalse : Nat.beq (w.1 % 2) (place % 2) = false :=
          Bool.eq_false_iff.mpr fun h => hbit (Nat.eq_of_beq_eq_true h)
        rw [half, List.filterMap_cons, hfalse]
        rfl
      have hplace : w.1 ≠ place := fun h => hbit (h ▸ rfl)
      rw [hhalf, ih, written, written, List.foldl_cons, if_neg hplace]

lemma find_sort (bits : ℕ) (ws : List (ℕ × Cell)) (place : ℕ) :
    (sort bits ws).find place = written place .undefined ws := by
  induction bits generalizing ws place with
  | zero => rfl
  | succ bits ih =>
    have hhalf := written_half place .undefined ws
    rcases Nat.mod_two_eq_zero_or_one place with hbit | hbit
    · rw [hbit] at hhalf
      rw [sort, find, hbit, ← hhalf]
      exact ih _ _
    · rw [hbit] at hhalf
      rw [sort, find, hbit, ← hhalf]
      exact ih _ _

end Sorted

namespace FlatTable

def sorted : Sorted := Sorted.sort 13 (Filling.writes 0 OpcodeTable.fill)

lemma getElem?_opcodes {place : ℕ} (h : place < Block.total) :
    opcodes[place]? = some (sorted.find place) := by
  rw [opcodes, Filling.cells_foldl_step, getElem?_foldl_set, sorted, Sorted.find_sort]
  change (List.replicate Block.total Cell.undefined)[place]?.map _ = _
  rw [List.getElem?_replicate_of_lt h]
  rfl

end FlatTable

end X86
