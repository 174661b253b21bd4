import Mathlib
import X86.Proofs.NumberText
import X86.Proofs.TextWords

/-! Names of registers and digits of numbers hold no marks of punctuation, which therefore show what
kind of operand is printed. -/

namespace X86

def isPlain (c : Char) : Bool := c.isAlphanum || c == '?'

def Plain (cs : List Char) : Prop := cs.all isPlain = true

instance (cs : List Char) : Decidable (Plain cs) := inferInstanceAs (Decidable (_ = true))

namespace Plain

variable {cs ds : List Char}

lemma notMem (h : Plain cs) {c : Char} (hc : isPlain c = false) : c ∉ cs := by
  intro hmem
  rw [List.all_eq_true.mp h c hmem] at hc
  cases hc

lemma append (hc : Plain cs) (hd : Plain ds) : Plain (cs ++ ds) := by
  rw [Plain, List.all_append, Bool.and_eq_true]
  exact ⟨hc, hd⟩

end Plain

namespace Number

lemma isPlain_digitChar : ∀ n < 16, isPlain (Nat.digitChar n) = true := by decide

lemma plain_toDigits {base : ℕ} (h : 1 < base) (hle : base ≤ 16) (n : ℕ) :
    Plain (Nat.toDigits base n) := by
  rw [Plain, List.all_eq_true]
  intro c hc
  obtain ⟨d, hd, rfl⟩ := Numeral.exists_digitChar_of_mem_toDigits h hc
  exact isPlain_digitChar d (by omega)

lemma plain_hex (n : ℕ) : Plain (hex n).toList := by
  have hdigits : Plain (hexDigits n).toList := by
    rw [hexDigits, String.toList_ofList]
    exact plain_toDigits (by decide) le_rfl n
  rw [hex]
  split
  · exact hdigits
  · rw [String.toList_append]
    exact .append (by decide) hdigits

lemma plain_repr (n : ℕ) : Plain n.repr.toList := by
  rw [Nat.toList_repr]
  exact plain_toDigits (by decide) (by decide) n

lemma offset_eq (n : ℤ) : ∃ sign ∈ [[], ['-'], ['+']], ∃ cs, Plain cs ∧
    (offset n).toList = sign ++ cs := by
  rw [offset]
  split_ifs
  · exact ⟨[], by simp, [], rfl, rfl⟩
  · exact ⟨['-'], by simp, _, plain_hex n.natAbs, String.toList_append⟩
  · exact ⟨['+'], by simp, _, plain_hex n.natAbs, String.toList_append⟩

lemma displacement_eq (n : ℤ) : ∃ sign ∈ [[], ['-']], ∃ cs, Plain cs ∧
    (displacement n).toList = sign ++ cs := by
  rw [displacement]
  split
  · exact ⟨['-'], by simp, _, plain_hex n.natAbs, String.toList_append⟩
  · exact ⟨[], by simp, _, plain_hex n.natAbs, rfl⟩

end Number

namespace Register

lemma plain_of_mem_names {f : RegisterFile} (hf : f ≠ .fpu) (w : Size) :
    ∀ t ∈ names f w, Plain t.toList := by
  rw [names.eq_def]
  split
  all_goals first | exact absurd rfl hf | decide +kernel

lemma plain_specialName (n : ℕ) (w : Size) : Plain (specialName n w).toList := by
  rw [specialName.eq_def]
  cases w <;> simp only <;> split <;> decide

lemma plain_name {r : Register} (hr : r.file ≠ .fpu) : Plain r.name.toList :=
  r.name_induction (P := fun t => Plain t.toList) (by decide) (plain_of_mem_names hr _)
    plain_specialName

end Register

end X86
