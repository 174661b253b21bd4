import Mathlib
import X86.Text.Numeral
import X86.Text.Render

/-! Numbers in text are read back as what was written, and so are bytes. -/

namespace X86

namespace Numeral

variable {base n d : ℕ} {c : Char} {cs : List Char}

lemma readDigits?_cons (hd : digit? c = some d) (hlt : d < base) (high : ℕ) (cs : List Char) :
    readDigits? base high (c :: cs) = readDigits? base (base * high + d) cs := by
  rw [readDigits?, hd]
  exact if_pos hlt

lemma readDigits?_append (base high : ℕ) (cs ds : List Char) :
    readDigits? base high (cs ++ ds) =
      (readDigits? base high cs).bind fun n => readDigits? base n ds := by
  induction cs generalizing high with
  | nil => rfl
  | cons c cs ih =>
    rw [List.cons_append, readDigits?, readDigits?]
    cases digit? c with
    | none => rfl
    | some d =>
      dsimp only
      split
      · exact ih _
      · rfl

lemma exists_digit_of_readDigits? {high : ℕ} (h : readDigits? base high cs = some n) :
    ∀ c ∈ cs, ∃ d < base, digit? c = some d := by
  induction cs generalizing high with
  | nil => exact List.forall_mem_nil _
  | cons c cs ih =>
    rw [readDigits?] at h
    split at h
    · rename_i d hd
      split at h
      · rename_i hlt
        exact List.forall_mem_cons.mpr ⟨⟨d, hlt, hd⟩, ih h⟩
      · cases h
    · cases h

lemma exists_digitChar_of_mem_toDigits (hbase : 1 < base) {c : Char}
    (hc : c ∈ Nat.toDigits base n) : ∃ d < base, c = Nat.digitChar d := by
  induction n using Nat.strong_induction_on with
  | h n ih =>
    rw [Nat.toDigits_eq_if hbase] at hc
    split at hc
    · rename_i hn
      exact ⟨n, hn, List.mem_singleton.mp hc⟩
    · rename_i hn
      rcases List.mem_append.mp hc with hc | hc
      · exact ih _ (Nat.div_lt_self (by omega) hbase) hc
      · exact ⟨n % base, Nat.mod_lt _ (by omega), List.mem_singleton.mp hc⟩

lemma digit?_digitChar : ∀ d < 16, digit? (Nat.digitChar d) = some d := by decide

lemma readDigits?_toDigits (hbase : 1 < base) (hle : base ≤ 16) (n : ℕ) :
    readDigits? base 0 (Nat.toDigits base n) = some n := by
  induction n using Nat.strong_induction_on with
  | h n ih =>
    rw [Nat.toDigits_eq_if hbase]
    split
    · rename_i hn
      rw [readDigits?_cons (digit?_digitChar n (by omega)) hn, Nat.mul_zero, Nat.zero_add]
      rfl
    · rename_i hn
      have hmod : n % base < base := Nat.mod_lt _ (by omega)
      have hdiv : n / base < n := Nat.div_lt_self (by omega) hbase
      rw [readDigits?_append, ih _ hdiv, Option.bind_some,
        readDigits?_cons (digit?_digitChar _ (by omega)) hmod, Nat.div_add_mod]
      rfl

lemma readDigits?_replicate_zero (hbase : 1 < base) (k : ℕ) (cs : List Char) :
    readDigits? base 0 (List.replicate k '0' ++ cs) = readDigits? base 0 cs := by
  induction k with
  | zero => rfl
  | succ k ih =>
    rw [List.replicate_succ, List.cons_append, readDigits?_cons (d := 0) (by decide) (by omega),
      Nat.mul_zero, Nat.add_zero, ih]

lemma digits?_of_ne_nil (h : cs ≠ []) : digits? base cs = readDigits? base 0 cs := by
  rw [digits?, if_neg (by simpa using h)]

lemma exists_digit_of_digits? (h : digits? base cs = some n) :
    ∀ c ∈ cs, ∃ d < base, digit? c = some d := by
  rw [digits?] at h
  split at h
  · cases h
  · exact exists_digit_of_readDigits? h

def number? : List Char → Option ℕ
  | '0' :: 'x' :: cs => digits? 16 cs
  | cs => digits? 10 cs

lemma number?_of_digits? (h : digits? 10 cs = some n) : number? cs = some n := by
  rw [number?.eq_def]
  split
  · rename_i ds
    obtain ⟨d, hd, hx⟩ := exists_digit_of_digits? h 'x' (by simp)
    obtain rfl : 33 = d := Option.some.inj hx
    omega
  · exact h

def integer? : List Char → Option ℤ
  | '-' :: cs => (number? cs).map fun n : ℕ => -(n : ℤ)
  | cs => (number? cs).map fun n : ℕ => (n : ℤ)

def offset? : List Char → Option ℤ
  | [] => some 0
  | '-' :: cs => (number? cs).map fun n : ℕ => -(n : ℤ)
  | '+' :: cs => (number? cs).map fun n : ℕ => (n : ℤ)
  | _ => none

def bytes? : List Char → Option (List UInt8)
  | [] => some []
  | [_] => none
  | c :: d :: cs =>
    match digits? 16 [c, d], bytes? cs with
    | some n, some bs => some (UInt8.ofNat n :: bs)
    | _, _ => none

end Numeral

namespace Number

open Numeral

lemma toList_hexDigits (n : ℕ) : (hexDigits n).toList = Nat.toDigits 16 n := String.toList_ofList

lemma toList_padded (width : ℕ) (t : String) :
    (padded width t).toList = List.replicate (width - t.length) '0' ++ t.toList := by
  rw [padded, String.toList_append, String.toList_ofList]

lemma length_padded (width : ℕ) (t : String) : (padded width t).length = max width t.length := by
  rw [← String.length_toList, toList_padded, List.length_append, List.length_replicate,
    String.length_toList]
  omega

lemma digits?_hexDigits (n : ℕ) : digits? 16 (hexDigits n).toList = some n := by
  rw [toList_hexDigits, digits?_of_ne_nil Nat.toDigits_ne_nil]
  exact readDigits?_toDigits (by decide) le_rfl n

lemma digits?_padded {width n : ℕ} {t : String} (h : digits? 16 t.toList = some n) :
    digits? 16 (padded width t).toList = some n := by
  have ht : t.toList ≠ [] := by
    intro ht
    rw [ht] at h
    cases h
  rw [digits?_of_ne_nil ht] at h
  rw [toList_padded, digits?_of_ne_nil (List.append_ne_nil_of_right_ne_nil _ ht),
    readDigits?_replicate_zero (by decide), h]

lemma number?_hex (n : ℕ) : number? (hex n).toList = some n := by
  rw [hex]
  split
  · rename_i hn
    apply number?_of_digits?
    rw [toList_hexDigits, Nat.toDigits_of_lt_base (by omega),
      ← Nat.toDigits_of_lt_base hn, digits?_of_ne_nil Nat.toDigits_ne_nil]
    exact readDigits?_toDigits (by decide) (by decide) n
  · rw [String.toList_append]
    exact digits?_hexDigits n

lemma number?_repr (n : ℕ) : number? n.repr.toList = some n := by
  apply number?_of_digits?
  rw [Nat.toList_repr, digits?_of_ne_nil Nat.toDigits_ne_nil]
  exact readDigits?_toDigits (by decide) (by decide) n

lemma integer?_displacement (n : ℤ) : integer? (displacement n).toList = some n := by
  have hn := number?_hex n.natAbs
  rw [displacement]
  split
  · rw [String.toList_append]
    change (number? (hex n.natAbs).toList).map _ = _
    rw [hn, Option.map_some, Option.some.injEq]
    omega
  · rw [integer?.eq_def]
    split
    · rename_i cs hcs
      rw [hcs] at hn
      cases hn
    · rw [hn, Option.map_some, Option.some.injEq]
      omega

lemma integer?_hex (n : ℕ) : integer? (hex n).toList = some (n : ℤ) := by
  have hn : displacement n = hex n := if_neg (Int.natCast_nonneg n).not_gt
  rw [← hn, integer?_displacement]

lemma offset?_offset (n : ℤ) : offset? (offset n).toList = some n := by
  have hn := number?_hex n.natAbs
  rw [offset]
  split_ifs with hzero hneg
  · exact congrArg some hzero.symm
  · rw [String.toList_append]
    change (number? (hex n.natAbs).toList).map _ = _
    rw [hn, Option.map_some, Option.some.injEq]
    omega
  · rw [String.toList_append]
    change (number? (hex n.natAbs).toList).map _ = _
    rw [hn, Option.map_some, Option.some.injEq]
    omega

lemma toList_offset_eq_nil {n : ℤ} : (offset n).toList = [] ↔ n = 0 := by
  constructor
  · intro h
    have hn := offset?_offset n
    rw [h] at hn
    exact (Option.some.inj hn).symm
  · rintro rfl
    rfl

lemma length_byteDigits (b : UInt8) : (byteDigits b).length = 2 := by
  have hb : (hexDigits b.toNat).length ≤ 2 := by
    rw [← String.length_toList, toList_hexDigits]
    exact (Nat.length_toDigits_le_iff (by decide) (by decide)).mpr b.toNat_lt
  rw [byteDigits, length_padded]
  exact max_eq_left hb

lemma digits?_byteDigits (b : UInt8) : digits? 16 (byteDigits b).toList = some b.toNat :=
  digits?_padded (digits?_hexDigits _)

lemma bytes?_bytesDigits (bs : List UInt8) : bytes? (bytesDigits bs).toList = some bs := by
  induction bs with
  | nil => rfl
  | cons b bs ih =>
    obtain ⟨c, d, hcd⟩ := List.length_eq_two.mp
      ((String.length_toList (s := byteDigits b)).trans (length_byteDigits b))
    have hb := digits?_byteDigits b
    rw [hcd] at hb
    rw [bytesDigits, List.map_cons, String.join_cons, String.toList_append, hcd]
    change bytes? (c :: d :: (bytesDigits bs).toList) = _
    rw [bytes?, hb, ih]
    exact congrArg (fun b => some (b :: bs)) UInt8.ofNat_toNat

lemma bytesDigits_flatten (bss : List (List UInt8)) :
    String.join (bss.map bytesDigits) = bytesDigits bss.flatten := by
  induction bss with
  | nil => rfl
  | cons bs bss ih =>
    rw [List.map_cons, String.join_cons, ih, List.flatten_cons, bytesDigits, bytesDigits,
      bytesDigits, List.map_append, String.join_append]

end Number

namespace Data

open Numeral

def field? : List Char → Option ℕ
  | ' ' :: cs => number? cs
  | _ => none

def numbers? : List Char → Option (List ℕ)
  | 'd' :: 'b' :: cs => (cs.splitOn ',').mapM field?
  | _ => none

def field (b : UInt8) : List Char := ' ' :: '0' :: 'x' :: (Number.byteDigits b).toList

lemma field?_field (b : UInt8) : field? (field b) = some b.toNat := Number.digits?_byteDigits b

lemma comma_notMem_field (b : UInt8) : ',' ∉ field b := by
  intro h
  obtain ⟨d, -, hd⟩ := exists_digit_of_digits? (Number.digits?_byteDigits b) ','
    (by simpa [field] using h)
  cases hd

lemma toList_more (bs : List UInt8) :
    (Piece.plain (more bs)).toList = bs.flatMap fun b => ',' :: field b := by
  induction bs with
  | nil => rfl
  | cons b bs ih =>
    rw [Piece.plain] at ih ⊢
    rw [more, List.flatMap_cons, List.map_append, String.join_append, String.toList_append,
      ← more, ih, List.flatMap_cons]
    simp [field, String.join_cons]

lemma toList_text (b : UInt8) (bs : List UInt8) :
    (text (b :: bs)).toList = 'd' :: 'b' :: [','].intercalate ((b :: bs).map field) := by
  have hfields : [','].intercalate ((b :: bs).map field) =
      field b ++ bs.flatMap fun b => ',' :: field b := by
    induction bs generalizing b with
    | nil => simp
    | cons c cs ih =>
      rw [List.map_cons, List.map_cons, List.intercalate_cons_cons, ← List.map_cons, ih c]
      simp
  rw [hfields, ← toList_more]
  simp [text, render, Piece.plain, field, String.join_cons]

lemma numbers?_text {bs : List UInt8} (h : bs ≠ []) :
    numbers? (text bs).toList = some (bs.map UInt8.toNat) := by
  obtain ⟨b, bs, rfl⟩ := List.exists_cons_of_ne_nil h
  have hcomma : ∀ cs ∈ (b :: bs).map field, ',' ∉ cs := by
    rintro cs hcs
    obtain ⟨c, -, rfl⟩ := List.mem_map.mp hcs
    exact comma_notMem_field c
  have hfields (cs : List UInt8) : (cs.map field).mapM field? = some (cs.map UInt8.toNat) := by
    induction cs with
    | nil => rfl
    | cons c cs ih => simp [field?_field, ih]
  rw [toList_text, numbers?, List.splitOn_intercalate _ hcomma (by simp), hfields]

end Data

end X86
