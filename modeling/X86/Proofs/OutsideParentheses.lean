import Mathlib

/-! Lists with separators between them, and lists that commas outside parentheses divide into parts.
-/

namespace X86

lemma flatMap_intercalate {α β : Type} (f : α → List β) (separator : List α)
    (xss : List (List α)) : (separator.intercalate xss).flatMap f =
      (separator.flatMap f).intercalate (xss.map (·.flatMap f)) := by
  induction xss with
  | nil => rfl
  | cons xs xss ih =>
    cases xss with
    | nil => simp
    | cons ys xss =>
      rw [List.intercalate_cons_cons, List.flatMap_append, List.flatMap_append, ih, List.map_cons,
        List.map_cons, List.map_cons, List.intercalate_cons_cons]

structure Marks (α : Type) where
  comma : α
  opening : α
  closing : α
  opening_ne_comma : opening ≠ comma
  closing_ne_opening : closing ≠ opening

namespace Marks

variable {α : Type} [DecidableEq α] (k : Marks α)

def parts : Bool → List α → List (List α)
  | _, [] => [[]]
  | inside, t :: ts =>
    if t = k.comma ∧ inside = false then [] :: parts false ts
    else (parts (t = k.opening ∨ (inside ∧ t ≠ k.closing)) ts).modifyHead (t :: ·)

def Closed (ts : List α) : Prop :=
  ∀ us, k.parts false (ts ++ us) = (k.parts false us).modifyHead (ts ++ ·)

variable {k} {t : α} {ts us : List α}

lemma parts_comma (ts : List α) : k.parts false (k.comma :: ts) = [] :: k.parts false ts :=
  if_pos ⟨rfl, rfl⟩

lemma parts_opening (ts : List α) :
    k.parts false (k.opening :: ts) = (k.parts true ts).modifyHead (k.opening :: ·) := by
  simp [parts, k.opening_ne_comma]

lemma parts_closing (ts : List α) :
    k.parts true (k.closing :: ts) = (k.parts false ts).modifyHead (k.closing :: ·) := by
  simp [parts, k.closing_ne_opening]

lemma parts_outside (hcomma : t ≠ k.comma) (hopening : t ≠ k.opening) (ts : List α) :
    k.parts false (t :: ts) = (k.parts false ts).modifyHead (t :: ·) := by
  simp [parts, hcomma, hopening]

lemma parts_inside (h : t ≠ k.closing) (ts : List α) :
    k.parts true (t :: ts) = (k.parts true ts).modifyHead (t :: ·) := by
  simp [parts, h]

lemma parts_inside_append (h : k.closing ∉ ts) (us : List α) :
    k.parts true (ts ++ us) = (k.parts true us).modifyHead (ts ++ ·) := by
  induction ts with
  | nil => exact (congrFun List.modifyHead_id _).symm
  | cons t ts ih =>
    rw [List.mem_cons, not_or] at h
    rw [List.cons_append, parts_inside (Ne.symm h.1), ih h.2, List.modifyHead_modifyHead]
    rfl

namespace Closed

lemma nil : k.Closed [] := fun _ => (congrFun List.modifyHead_id _).symm

lemma append (ht : k.Closed ts) (hu : k.Closed us) : k.Closed (ts ++ us) := by
  intro vs
  rw [List.append_assoc, ht, hu, List.modifyHead_modifyHead]
  congr 1
  funext v
  exact (List.append_assoc ..).symm

lemma singleton (hcomma : t ≠ k.comma) (hopening : t ≠ k.opening) : k.Closed [t] :=
  parts_outside hcomma hopening

lemma of_notMem (hcomma : k.comma ∉ ts) (hopening : k.opening ∉ ts) : k.Closed ts := by
  induction ts with
  | nil => exact nil
  | cons t ts ih =>
    rw [List.mem_cons, not_or] at hcomma hopening
    exact (singleton (Ne.symm hcomma.1) (Ne.symm hopening.1)).append (ih hcomma.2 hopening.2)

lemma parentheses (h : k.closing ∉ ts) : k.Closed (k.opening :: (ts ++ [k.closing])) := by
  intro us
  rw [List.cons_append, parts_opening, List.append_assoc, parts_inside_append h,
    List.singleton_append, parts_closing, List.modifyHead_modifyHead, List.modifyHead_modifyHead]
  congr 1
  funext v
  simp

lemma parts_eq (h : k.Closed ts) : k.parts false ts = [ts] := by
  have hnil := h []
  simpa [parts] using hnil

lemma parts_append_comma (h : k.Closed ts) (us : List α) :
    k.parts false (ts ++ k.comma :: us) = ts :: k.parts false us := by
  rw [h, parts_comma, List.modifyHead_cons, List.append_nil]

end Closed

lemma parts_intercalate {tss : List (List α)} (hne : tss ≠ []) (h : ∀ ts ∈ tss, k.Closed ts) :
    k.parts false ([k.comma].intercalate tss) = tss := by
  induction tss with
  | nil => exact absurd rfl hne
  | cons ts tss ih =>
    have hts := h ts List.mem_cons_self
    cases tss with
    | nil => rw [List.intercalate_singleton, hts.parts_eq]
    | cons us tss =>
      rw [List.intercalate_cons_cons, List.append_assoc, List.singleton_append,
        hts.parts_append_comma,
        ih (List.cons_ne_nil _ _) fun us hus => h us (List.mem_cons_of_mem _ hus)]

end Marks

end X86
