import Mathlib
import X86.Proofs.CatalogNames
import X86.Proofs.NumberText

/-! The pieces of an instruction hold no escape sequences, whatever its fields are. -/

namespace X86

def EscapeFree (t : String) : Prop := '\x1b' ∉ t.toList

instance (t : String) : Decidable (EscapeFree t) := inferInstanceAs (Decidable ('\x1b' ∉ t.toList))

namespace EscapeFree

variable {t u : String}

lemma append (ht : EscapeFree t) (hu : EscapeFree u) : EscapeFree (t ++ u) := by
  rw [EscapeFree, String.toList_append, List.mem_append, not_or]
  exact ⟨ht, hu⟩

lemma push (ht : EscapeFree t) {c : Char} (hc : c ≠ '\x1b') : EscapeFree (t.push c) := by
  rw [EscapeFree, String.toList_push, List.mem_append, List.mem_singleton, not_or]
  exact ⟨ht, hc.symm⟩

lemma toUpper (ht : EscapeFree t) : EscapeFree t.toUpper := by
  rw [EscapeFree, String.toUpper, String.toList_map, List.mem_map]
  rintro ⟨c, hc, heq⟩
  by_cases hlower : c.isLower
  · have halpha : c.toUpper.isAlpha := by
      rw [Char.isAlpha_toUpper_eq_isAlpha, Char.isAlpha, hlower, Bool.or_true]
    rw [heq] at halpha
    exact absurd halpha (by decide)
  · rw [Char.toUpper_eq_of_not_isLower hlower] at heq
    exact ht (heq ▸ hc)

end EscapeFree

namespace Piece

variable {ps : List Piece}

def Clean (ps : List Piece) : Prop := ∀ p ∈ ps, EscapeFree p.text

instance (ps : List Piece) : Decidable (Clean ps) :=
  inferInstanceAs (Decidable (∀ p ∈ ps, EscapeFree p.text))

@[simp] lemma clean_nil : Clean [] := List.forall_mem_nil _

@[simp] lemma clean_cons {p : Piece} : Clean (p :: ps) ↔ EscapeFree p.text ∧ Clean ps :=
  List.forall_mem_cons

@[simp] lemma clean_append {qs : List Piece} : Clean (ps ++ qs) ↔ Clean ps ∧ Clean qs :=
  List.forall_mem_append

lemma clean_flatten {pss : List (List Piece)} (h : ∀ ps ∈ pss, Clean ps) : Clean pss.flatten := by
  intro p hp
  obtain ⟨ps, hps, hp⟩ := List.mem_flatten.mp hp
  exact h ps hps p hp

end Piece

namespace Number

lemma digitChar_ne_escape : ∀ n < 16, Nat.digitChar n ≠ '\x1b' := by decide

@[simp] lemma escapeFree_hexDigits (n : ℕ) : EscapeFree (hexDigits n) := by
  rw [EscapeFree, hexDigits, String.toList_ofList]
  intro hc
  obtain ⟨d, hd, hescape⟩ := Numeral.exists_digitChar_of_mem_toDigits (by decide) hc
  exact digitChar_ne_escape d hd hescape.symm

@[simp] lemma escapeFree_hex (n : ℕ) : EscapeFree (hex n) := by
  rw [hex]
  split
  · exact escapeFree_hexDigits n
  · exact .append (by decide) (escapeFree_hexDigits n)

@[simp] lemma escapeFree_offset (n : ℤ) : EscapeFree (offset n) := by
  rw [offset]
  split_ifs
  · decide
  · exact .append (by decide) (escapeFree_hex _)
  · exact .append (by decide) (escapeFree_hex _)

@[simp] lemma escapeFree_displacement (n : ℤ) : EscapeFree (displacement n) := by
  rw [displacement]
  split_ifs
  · exact .append (by decide) (escapeFree_hex _)
  · exact escapeFree_hex _

@[simp] lemma escapeFree_repr (n : ℕ) : EscapeFree n.repr := by
  rw [EscapeFree, Nat.toList_repr]
  intro h
  exact absurd (Nat.isDigit_of_mem_toDigits (by decide) (by decide) h) (by decide)

end Number

namespace Register

lemma escapeFree_of_mem_names (f : RegisterFile) (w : Size) : ∀ t ∈ names f w, EscapeFree t := by
  rw [names.eq_def]
  split <;> decide +kernel

lemma escapeFree_specialName (n : ℕ) (w : Size) : EscapeFree (specialName n w) := by
  rw [specialName.eq_def]
  cases w <;> simp only <;> split <;> decide

@[simp] lemma escapeFree_name (r : Register) : EscapeFree r.name :=
  r.name_induction (by decide) (escapeFree_of_mem_names _ _) escapeFree_specialName

end Register

namespace Mnemonic

@[simp] lemma escapeFree_name (m : Mnemonic) : EscapeFree m.name := by
  cases m with
  | invalid => decide
  | general m | bmi m | system m | x87 m | sse m | avx m => cases m <;> decide +kernel

@[simp] lemma escapeFree_vexName (m : Mnemonic) : EscapeFree m.vexName := by
  cases m with
  | invalid => exact escapeFree_name .invalid
  | bmi m => exact escapeFree_name (.bmi m)
  | avx m => exact escapeFree_name (.avx m)
  | _ => exact .append (by decide) (escapeFree_name _)

end Mnemonic

@[simp] lemma Instruction.escapeFree_name (i : Instruction) : EscapeFree i.name := by
  rw [Instruction.name]
  split
  · exact i.mnemonic.escapeFree_vexName
  · exact i.mnemonic.escapeFree_name

namespace Format

open Piece

variable (i : Instruction) (options : FormatOptions)

lemma clean_prefixes : Clean (prefixes i) := by
  have hnames : ∀ x ∈ prefixNames, EscapeFree x.2 := by decide
  rw [prefixes, List.flatMap]
  apply clean_flatten
  intro ps hps
  obtain ⟨⟨flag, name⟩, hname, rfl⟩ := List.mem_map.mp hps
  dsimp only
  split
  · simp only [clean_cons, clean_nil, and_true]
    exact ⟨hnames _ hname, by decide⟩
  · exact clean_nil

lemma escapeFree_mnemonic {name : String} (h : EscapeFree name) :
    EscapeFree (mnemonic options name).text := by
  rw [mnemonic]
  dsimp only
  split
  · exact h.toUpper
  · exact h

lemma escapeFree_relative {here : String} (h : EscapeFree here) (distance : ℤ) :
    EscapeFree (relative options i here distance).text := by
  rw [relative]
  split
  · exact Number.escapeFree_hex _
  · exact .append h (Number.escapeFree_offset _)

@[simp] lemma escapeFree_immediateText (value : ℤ) (width : Size) :
    EscapeFree (immediateText value width) := Number.escapeFree_hex _

@[simp] lemma escapeFree_absoluteText (m : Memory) : EscapeFree (absoluteText i m) :=
  Number.escapeFree_hex _

lemma clean_separated {separator : String} (h : EscapeFree separator) :
    ∀ {pss : List (List Piece)}, (∀ ps ∈ pss, Clean ps) → Clean (separated separator pss)
  | [], _ => clean_nil
  | [ps], hpss => clean_flatten hpss
  | ps :: qs :: pss, hpss => by
    rw [List.forall_mem_cons] at hpss
    have ih := clean_separated h hpss.2
    rw [separated] at ih ⊢
    rw [List.intersperse_cons_cons, List.flatten_cons, List.flatten_cons]
    simp only [clean_append, clean_cons, clean_nil, and_true]
    exact ⟨hpss.1, h, ih⟩

namespace Intel

lemma clean_memory (m : Memory) : Clean (memory i m) := by
  have hwidth : Clean (width m) := by
    rw [width, Size.keyword?.eq_def]
    cases m.width <;> decide
  have hsegment : Clean (segment i) := by
    rw [segment]
    split <;> simp +decide
  have hbase : Clean (base m) := by
    rw [base]
    split <;> simp
  have hindex : Clean (index m) := by
    rw [index]
    split <;> [split_ifs; skip] <;> simp +decide
  have hdisplacement : Clean (displacement i m) := by
    rw [displacement]
    split_ifs <;> simp +decide
  simp +decide [memory, hwidth, hsegment, hbase, hindex, hdisplacement]

lemma clean_operand (o : Operand) : Clean (operand options i o) := by
  cases o with
  | memory m => exact clean_memory i m
  | short | near => simpa [operand] using escapeFree_relative i options (by decide) _
  | _ => simp +decide [operand]

end Intel

namespace Att

@[simp] lemma escapeFree_register (r : Register) : EscapeFree (register r).text :=
  .append (by decide) r.escapeFree_name

lemma clean_memory (m : Memory) : Clean (memory i m) := by
  have hsegment : Clean (segment i) := by
    rw [segment]
    split <;> simp +decide
  have hbase : Clean (base m) := by
    rw [base]
    split <;> simp
  have hindex : Clean (index m) := by
    rw [index]
    split <;> simp +decide
  have hdisplacement : Clean (displacement m) := by
    rw [displacement]
    split <;> simp
  rw [memory]
  split <;> simp +decide [hsegment, hbase, hindex, hdisplacement]

lemma clean_operand (o : Operand) : Clean (operand options i o) := by
  have hindirection : Clean (indirection i o) := by
    rw [indirection]
    split <;> simp +decide
  rw [operand.eq_def, clean_append]
  refine ⟨hindirection, ?_⟩
  cases o with
  | memory m => exact clean_memory i m
  | short | near => simpa using escapeFree_relative i options (by decide) _
  | register => simp
  | _ => simp +decide [EscapeFree.append]

lemma escapeFree_name : EscapeFree (name i) := by
  have hstem : EscapeFree (stem i) := by
    rw [stem]
    split
    · decide
    · decide
    · decide
    · exact i.escapeFree_name
  have hsuffix {w : Size} {c : Char} (h : w.suffix? = some c) : c ≠ '\x1b' := by
    rw [Size.suffix?.eq_def] at h
    cases w <;> cases h <;> decide
  rw [name]
  split
  · rename_i c hc
    apply hstem.push
    rw [suffix?] at hc
    split at hc
    · cases hc
    · obtain ⟨m, -, hm⟩ := Option.bind_eq_some_iff.mp hc
      exact hsuffix hm
  · exact hstem

end Att

end Format

lemma Instruction.clean_render (dialect : Dialect) (options : FormatOptions) (i : Instruction) :
    Piece.Clean (i.render dialect options) := by
  have hname : EscapeFree (dialect.name i) := by
    cases dialect with
    | intel => exact i.escapeFree_name
    | att => exact Format.Att.escapeFree_name i
  have hoperands : Piece.Clean (dialect.operands options i) := by
    cases dialect with
    | intel =>
      apply Format.clean_separated (by decide)
      intro ps hps
      obtain ⟨o, -, rfl⟩ := List.mem_map.mp hps
      exact Format.Intel.clean_operand i options o
    | att =>
      apply Format.clean_separated (by decide)
      intro ps hps
      obtain ⟨o, -, rfl⟩ := List.mem_map.mp hps
      exact Format.Att.clean_operand i options o
  have hmnemonic := Format.escapeFree_mnemonic options hname
  rw [render]
  split_ifs
  · simp [hmnemonic]
  · simp [hmnemonic, Format.clean_prefixes]
  · simp +decide [hmnemonic, hoperands, Format.clean_prefixes]

end X86
