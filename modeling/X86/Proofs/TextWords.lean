import Mathlib
import X86.Proofs.CatalogNames
import X86.Proofs.OutsideParentheses

/-! The words of a printed instruction: its flags, its name, and the operands behind them. Equal
texts have equal names and equal operands. -/

namespace X86

variable {d : Dialect} {i j : Instruction}

namespace Piece

def chars (ps : List Piece) : List Char := (plain ps).toList

lemma chars_nil : chars [] = [] := rfl

lemma chars_cons (p : Piece) (ps : List Piece) : chars (p :: ps) = p.text.toList ++ chars ps := by
  rw [chars, plain, List.map_cons, String.join_cons, String.toList_append]
  rfl

lemma chars_append (ps qs : List Piece) : chars (ps ++ qs) = chars ps ++ chars qs := by
  rw [chars, plain, List.map_append, String.join_append, String.toList_append]
  rfl

lemma chars_singleton (p : Piece) : chars [p] = p.text.toList := by
  rw [chars_cons, chars_nil, List.append_nil]

lemma chars_eq_flatMap (ps : List Piece) : chars ps = ps.flatMap fun p => p.text.toList := by
  induction ps with
  | nil => rfl
  | cons p ps ih => rw [chars_cons, ih, List.flatMap_cons]

lemma chars_separated (t : String) (pss : List (List Piece)) :
    chars (Format.separated t pss) = t.toList.intercalate (pss.map chars) := by
  have hseparator : [Piece.mk .separator t].flatMap (fun p => p.text.toList) = t.toList :=
    List.flatMap_singleton ..
  rw [chars_eq_flatMap, funext chars_eq_flatMap, ← hseparator]
  exact flatMap_intercalate _ _ pss

end Piece

def EndsWord (t : List Char) : Prop := ∀ c ∈ t.head?, c = ' '

lemma takeWhile_append_of_endsWord {w t : List Char} (hw : ' ' ∉ w) (ht : EndsWord t) :
    (w ++ t).takeWhile (· ≠ ' ') = w := by
  have hrest : t.takeWhile (· ≠ ' ') = [] := by
    cases t with
    | nil => rfl
    | cons c t => simp [ht c rfl]
  rw [List.takeWhile_append_of_pos fun c hc => by simpa using fun h : c = ' ' => hw (h ▸ hc), hrest,
    List.append_nil]

lemma append_inj_of_endsWord {w w' t t' : List Char} (hw : ' ' ∉ w) (hw' : ' ' ∉ w')
    (ht : EndsWord t) (ht' : EndsWord t') (h : w ++ t = w' ++ t') : w = w' ∧ t = t' := by
  have hword : w = w' := by
    rw [← takeWhile_append_of_endsWord hw ht, h, takeWhile_append_of_endsWord hw' ht']
  exact ⟨hword, List.append_cancel_left (hword ▸ h)⟩

def flagWords : List String := Format.prefixNames.map Prod.snd

structure IsName (n : String) : Prop where
  blank : ' ' ∉ n.toList
  flag : n ∉ flagWords

lemma blank_notMem_of_mem_flagWords : ∀ w ∈ flagWords, ' ' ∉ w.toList := by decide

lemma name_inj {ws ws' : List String} {n n' : String} {t t' : List Char}
    (hws : ∀ w ∈ ws, w ∈ flagWords) (hws' : ∀ w ∈ ws', w ∈ flagWords) (hn : IsName n)
    (hn' : IsName n') (ht : EndsWord t) (ht' : EndsWord t')
    (h : ws.flatMap (fun w => w.toList ++ [' ']) ++ (n.toList ++ t) =
      ws'.flatMap (fun w => w.toList ++ [' ']) ++ (n'.toList ++ t')) : n = n' ∧ t = t' := by
  have hblank (u : List Char) : EndsWord (' ' :: u) := fun c hc => (Option.some.inj hc).symm
  induction ws generalizing ws' with
  | nil =>
    cases ws' with
    | nil =>
      obtain ⟨hname, hrest⟩ := append_inj_of_endsWord hn.blank hn'.blank ht ht' h
      exact ⟨String.toList_inj.mp hname, hrest⟩
    | cons w' ws' =>
      -- a word for a flag cannot be the name on the other side
      have hw' := hws' w' List.mem_cons_self
      simp only [List.flatMap_nil, List.nil_append, List.flatMap_cons, List.append_assoc,
        List.singleton_append] at h
      obtain ⟨hname, -⟩ := append_inj_of_endsWord hn.blank (blank_notMem_of_mem_flagWords w' hw') ht
        (hblank _) h
      exact absurd (String.toList_inj.mp hname ▸ hw') hn.flag
  | cons w ws ih =>
    have hw := hws w List.mem_cons_self
    cases ws' with
    | nil =>
      simp only [List.flatMap_nil, List.nil_append, List.flatMap_cons, List.append_assoc,
        List.singleton_append] at h
      obtain ⟨hname, -⟩ := append_inj_of_endsWord (blank_notMem_of_mem_flagWords w hw) hn'.blank
        (hblank _) ht' h
      exact absurd (String.toList_inj.mp hname ▸ hw) hn'.flag
    | cons w' ws' =>
      have hw' := hws' w' List.mem_cons_self
      simp only [List.flatMap_cons, List.append_assoc, List.singleton_append] at h
      obtain ⟨-, hrest⟩ := append_inj_of_endsWord (blank_notMem_of_mem_flagWords w hw)
        (blank_notMem_of_mem_flagWords w' hw') (hblank _) (hblank _) h
      exact ih (fun v hv => hws v (List.mem_cons_of_mem _ hv))
        (fun v hv => hws' v (List.mem_cons_of_mem _ hv)) (List.cons.inj hrest).2

namespace Instruction

def flagTexts (i : Instruction) : List String :=
  (Format.prefixNames.filter fun p => i.flags.meets p.1).map Prod.snd

def operandChars (d : Dialect) (i : Instruction) : List Char := Piece.chars (d.operands {} i)

def behindName (d : Dialect) (i : Instruction) : List Char :=
  if i.operands.isEmpty then [] else ' ' :: i.operandChars d

lemma endsWord_behindName (d : Dialect) (i : Instruction) : EndsWord (i.behindName d) := by
  rw [behindName]
  split
  · nofun
  · exact fun c hc => (Option.some.inj hc).symm

lemma mem_flagWords_of_mem_flagTexts : ∀ w ∈ i.flagTexts, w ∈ flagWords := by
  intro w hw
  obtain ⟨p, hp, rfl⟩ := List.mem_map.mp hw
  exact List.mem_map_of_mem (List.mem_filter.mp hp).1

lemma chars_prefixes (i : Instruction) :
    Piece.chars (Format.prefixes i) = i.flagTexts.flatMap fun w => w.toList ++ [' '] := by
  rw [Format.prefixes, flagTexts]
  induction Format.prefixNames with
  | nil => rfl
  | cons p ps ih =>
    rw [List.flatMap_cons, Piece.chars_append, ih]
    cases h : i.flags.meets p.1 with
    | true => simp [h, Piece.chars_cons, Piece.chars_nil]
    | false => simp [h, Piece.chars_nil]

lemma toList_text (d : Dialect) (i : Instruction) : (i.text d {}).toList =
    i.flagTexts.flatMap (fun w => w.toList ++ [' ']) ++
      ((d.name i).toList ++ i.behindName d) := by
  change Piece.chars (Format.prefixes i ++ Format.mnemonic {} (d.name i) :: _) = _
  rw [Piece.chars_append, chars_prefixes, Piece.chars_cons, behindName]
  congr 2
  split
  · rfl
  · rw [Piece.chars_cons]
    rfl

lemma eq_of_text_eq (hi : IsName (d.name i)) (hj : IsName (d.name j))
    (h : i.text d {} = j.text d {}) : d.name i = d.name j ∧ i.behindName d = j.behindName d := by
  have hchars := congrArg String.toList h
  rw [toList_text, toList_text] at hchars
  exact name_inj mem_flagWords_of_mem_flagTexts mem_flagWords_of_mem_flagTexts hi hj
    (endsWord_behindName d i) (endsWord_behindName d j) hchars

lemma isEmpty_operands_of_behindName (h : i.behindName d = j.behindName d) :
    i.operands.isEmpty = j.operands.isEmpty := by
  rw [behindName, behindName] at h
  cases hi : i.operands.isEmpty <;> cases hj : j.operands.isEmpty <;> simp [hi, hj] at h ⊢

lemma operandChars_of_behindName (hi : i.operands ≠ []) (h : i.behindName d = j.behindName d) :
    i.operandChars d = j.operandChars d := by
  have hempty := isEmpty_operands_of_behindName h
  have hnot : i.operands.isEmpty = false := by simpa using hi
  rw [hnot] at hempty
  simpa [behindName, hnot, ← hempty] using h

end Instruction

namespace Mnemonic

lemma flagWords_subset_reserved : ∀ w ∈ flagWords, w ∈ reserved := fun _ => List.mem_append_left _

lemma isName_name (m : Mnemonic) : IsName m.name :=
  ⟨m.blank_notMem_name, fun h => m.name_notMem_reserved (flagWords_subset_reserved _ h)⟩

lemma isName_v_append {n : String} (hn : ' ' ∉ n.toList) : IsName ("v" ++ n) := by
  have hflags : ∀ w ∈ flagWords, w.toList.head? ≠ some 'v' := by decide
  constructor
  · rw [String.toList_append, List.mem_append, not_or]
    exact ⟨by decide, hn⟩
  · intro h
    apply hflags _ h
    rw [String.toList_append]
    rfl

lemma isName_vexName (m : Mnemonic) : IsName m.vexName := by
  cases m with
  | invalid => exact isName_name .invalid
  | bmi m => exact isName_name (.bmi m)
  | avx m => exact isName_name (.avx m)
  | general m => exact isName_v_append (blank_notMem_name (.general m))
  | system m => exact isName_v_append (blank_notMem_name (.system m))
  | x87 m => exact isName_v_append (blank_notMem_name (.x87 m))
  | sse m => exact isName_v_append (blank_notMem_name (.sse m))

lemma vexName_eq (m : Mnemonic) : m.vexName = m.name ∨ m.vexName = "v" ++ m.name := by
  cases m with
  | invalid | bmi m | avx m => exact Or.inl rfl
  | general m | system m | x87 m | sse m => exact Or.inr rfl

end Mnemonic

namespace Instruction

lemma isName_name (i : Instruction) : IsName i.name := by
  rw [name]
  split
  · exact i.mnemonic.isName_vexName
  · exact i.mnemonic.isName_name

lemma name_eq (i : Instruction) : i.name = i.mnemonic.name ∨ i.name = "v" ++ i.mnemonic.name := by
  rw [name]
  split
  · exact i.mnemonic.vexName_eq
  · exact Or.inl rfl

lemma namesake_eq_of_name_eq (h : i.name = j.name) :
    i.mnemonic.namesake = j.mnemonic.namesake := by
  apply Mnemonic.namesake_eq_of_name_eq
  rcases i.name_eq with hi | hi <;> rcases j.name_eq with hj | hj <;> rw [hi, hj] at h
  · exact h
  · exact absurd h (Mnemonic.name_ne_v_append _ _)
  · exact absurd h.symm (Mnemonic.name_ne_v_append _ _)
  · exact (String.append_right_inj _).mp h

end Instruction

end X86
