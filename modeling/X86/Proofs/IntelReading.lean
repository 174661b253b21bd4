import Mathlib
import X86.Proofs.OperandMeaning

namespace X86.Reading.Intel

open Numeral

def sum? (ρ : Register → ℤ) : List Token → Option ℤ
  | [.closeBracket] => some 0
  | .plus :: .semantic .register t :: .multiply :: .text n :: ts =>
    match addressRegister? t, number? n.toList, sum? ρ ts with
    | some r, some k, some v => some (ρ r * k + v)
    | _, _, _ => none
  | .plus :: .semantic .register t :: ts =>
    match addressRegister? t, sum? ρ ts with
    | some r, some v => some (ρ r + v)
    | _, _ => none
  | .plus :: .semantic .displacement t :: ts =>
    match number? t.toList, sum? ρ ts with
    | some n, some v => some (n + v)
    | _, _ => none
  | .minus :: .semantic .displacement t :: ts =>
    match number? t.toList, sum? ρ ts with
    | some n, some v => some (-n + v)
    | _, _ => none
  | _ => none

def memory? (ρ : Register → ℤ) (bits : ℕ) : List Token → Option Meaning
  | .text _ :: .text _ :: .semantic .register s :: .colon :: .openBracket :: ts
  | .semantic .register s :: .colon :: .openBracket :: ts =>
    (sum? ρ (.plus :: ts)).map fun a => .memory (some s) (a % 2 ^ bits)
  | .text _ :: .text _ :: .openBracket :: ts
  | .openBracket :: ts => (sum? ρ (.plus :: ts)).map fun a => .memory none (a % 2 ^ bits)
  | _ => none

def operand? (ρ : Register → ℤ) (bits : ℕ) : List Token → Option Meaning
  | [.semantic .register t] => some (.register t)
  | [.semantic .immediate t] => (number? t.toList).map .immediate
  | [.semantic .immediate s, .colon, .semantic .immediate t] =>
    match number? s.toList, number? t.toList with
    | some selector, some offset => some (.far selector offset)
    | _, _ => none
  | [.semantic .relative t] => ((behind? '$' t).bind offset?).map .relative
  | ts => memory? ρ bits ts

def part? (ρ : Register → ℤ) (bits : ℕ) : List Token → Option Meaning
  | .whitespace _ :: ts => operand? ρ bits ts
  | _ => none

def read? (ρ : Register → ℤ) (bits : ℕ) (ts : List Token) : Option (List Meaning) :=
  match behindMnemonic? ts with
  | some (_, []) => some []
  | some (_, ts) => (ts.splitOn .comma).mapM (part? ρ bits)
  | none => none

variable {ρ : Register → ℤ} {i : Instruction} {m : Memory} {o : Operand}

lemma sum?_register {r : Register} {ts : List Token} {v : ℤ} (hr : r ∈ addressRegisters)
    (hts : ts.head? ≠ some .multiply) (hv : sum? ρ ts = some v) :
    sum? ρ (.plus :: .semantic .register r.name :: ts) = some (ρ r + v) := by
  rw [sum?.eq_3, addressRegister?_name hr, hv]
  rintro n ts rfl
  exact hts rfl

lemma sum?_multiple {r : Register} {ts : List Token} {v : ℤ} (hr : r ∈ addressRegisters) (k : ℕ)
    (hv : sum? ρ ts = some v) :
    sum? ρ (.plus :: .semantic .register r.name :: .multiply :: .text k.repr :: ts) =
      some (ρ r * k + v) := by
  rw [sum?, addressRegister?_name hr, Number.number?_repr, hv]

def displacementTokens (i : Instruction) (m : Memory) : List Token :=
  Token.ofPieces (Format.Intel.displacement i m ++ [⟨.separator, "]"⟩])

lemma displacementTokens_of_ne_zero (hm : m.isAbsolute = false) (hd : m.displacement ≠ 0) :
    displacementTokens i m = [if m.displacement < 0 then .minus else .plus,
      .semantic .displacement (Number.hex m.displacement.natAbs), .closeBracket] := by
  by_cases hneg : m.displacement < 0 <;>
    simp [displacementTokens, Format.Intel.displacement, hm, hd, hneg, Token.ofPieces,
      Token.ofPiece, Token.ofSeparator, Token.ofSymbol]

lemma sum?_displacementTokens (hm : m.isAbsolute = false) :
    (displacementTokens i m).head? ≠ some .multiply ∧
      sum? ρ (displacementTokens i m) = some m.displacement := by
  by_cases hzero : m.displacement = 0
  · have htokens : displacementTokens i m = [.closeBracket] := by
      simp [displacementTokens, Format.Intel.displacement, hm, hzero, Token.ofPieces,
        Token.ofPiece, Token.ofSeparator]
    rw [htokens, hzero]
    exact ⟨by simp, rfl⟩
  · have hn := Number.number?_hex m.displacement.natAbs
    rw [displacementTokens_of_ne_zero hm hzero]
    split
    · refine ⟨by simp, ?_⟩
      rw [sum?, hn]
      simp only [sum?, Option.some.injEq]
      omega
    · refine ⟨by simp, ?_⟩
      rw [sum?, hn]
      simp only [sum?, Option.some.injEq]
      omega

lemma sum?_scaled {r : Register} {ts : List Token} {v : ℤ} {k : ℕ} (hr : r ∈ addressRegisters)
    (hk : 0 < k) (hts : ts.head? ≠ some .multiply) (hv : sum? ρ ts = some v) :
    sum? ρ (.plus :: .semantic .register r.name ::
      ((if 1 < k then [.multiply, .text k.repr] else []) ++ ts)) = some (ρ r * k + v) := by
  split
  · exact sum?_multiple hr k hv
  · obtain rfl : k = 1 := by omega
    rw [List.nil_append, sum?_register hr hts hv, Nat.cast_one, mul_one]

lemma ofPieces_index {r : Register} (hr : m.index = some r) :
    Token.ofPieces (Format.Intel.index m) = (if m.base.isSome then [.plus] else []) ++
      .semantic .register r.name ::
        (if 1 < m.scale then [.multiply, .text m.scale.repr] else []) := by
  rw [Format.Intel.index, hr]
  by_cases hbase : m.base.isSome <;> by_cases hscale : 1 < m.scale <;>
    simp [hbase, hscale, Token.ofPieces, Token.ofPiece, Token.ofSymbol]

lemma sum?_memory (hm : (Operand.memory m).Legible i) (hz : i.addressSize.IsGeneral) :
    (sum? ρ (.plus :: Token.ofPieces (Format.Intel.base m ++ Format.Intel.index m ++
      Format.Intel.displacement i m ++ [⟨.separator, "]"⟩]))).map (· % 2 ^ i.addressSize.bits) =
        some (m.address ρ % 2 ^ i.addressSize.bits) := by
  obtain ⟨hregisters, hscale⟩ := hm
  have htokens : Token.ofPieces (Format.Intel.base m ++ Format.Intel.index m ++
      Format.Intel.displacement i m ++ [⟨.separator, "]"⟩]) =
      Token.ofPieces (Format.Intel.base m) ++
        (Token.ofPieces (Format.Intel.index m) ++ displacementTokens i m) := by
    simp [Token.ofPieces, displacementTokens]
  rw [htokens]
  -- an address without registers is written as a whole, any other displacement with a sign
  by_cases habsolute : m.isAbsolute
  · obtain ⟨hbase, hindex⟩ : m.base = none ∧ m.index = none := by
      simpa [Memory.isAbsolute] using habsolute
    simp [Format.Intel.base, Format.Intel.index, displacementTokens, Format.Intel.displacement,
      habsolute, hbase, hindex, Token.ofPieces, Token.ofPiece, Token.ofSeparator, sum?,
      Format.absoluteText, Number.number?_hex, Size.cast_truncate hz, Memory.address]
  · obtain ⟨hhead, hd⟩ := sum?_displacementTokens (ρ := ρ) (i := i) (by simpa using habsolute)
    cases hbase : m.base with
    | none =>
      cases hindex : m.index with
      | none => simp [Memory.isAbsolute, hbase, hindex] at habsolute
      | some x =>
        have hx := sum?_scaled (hregisters x (by simp [Memory.registers, hindex])) hscale hhead hd
        rw [Format.Intel.base, hbase, ofPieces_index hindex, hbase]
        simp [Token.ofPieces, hx, Memory.address, hbase, hindex]
    | some b =>
      have hb := hregisters b (by simp [Memory.registers, hbase])
      rw [Format.Intel.base, hbase]
      cases hindex : m.index with
      | none =>
        have hb := sum?_register hb hhead hd
        rw [Format.Intel.index, hindex]
        simp [Token.ofPieces, Token.ofPiece, hb, Memory.address, hbase, hindex]
      | some x =>
        have hx := sum?_scaled (hregisters x (by simp [Memory.registers, hindex])) hscale hhead hd
        have hb := sum?_register hb (by simp) hx
        rw [ofPieces_index hindex, hbase]
        simp [Token.ofPieces, Token.ofPiece, hb, Memory.address, hbase, hindex, add_assoc]

lemma memory?_memory (hm : (Operand.memory m).Legible i) (hz : i.addressSize.IsGeneral) :
    memory? ρ i.addressSize.bits (Token.ofPieces (Format.Intel.memory i m)) =
      some (i.meaning ρ (.memory m)) := by
  have hsum := sum?_memory (ρ := ρ) hm hz
  generalize hps : Format.Intel.base m ++ Format.Intel.index m ++
      Format.Intel.displacement i m ++ [⟨.separator, "]"⟩] = ps at hsum
  have hmemory : Format.Intel.memory i m = Format.Intel.width m ++ Format.Intel.segment i ++
      ⟨.separator, "["⟩ :: ps := by
    simp [Format.Intel.memory, ← hps]
  obtain ⟨v, hv, hmod⟩ := Option.map_eq_some_iff.mp hsum
  rw [Token.ofPieces] at hv
  rw [hmemory, Format.Intel.width, Format.Intel.segment, Instruction.meaning]
  cases m.width.keyword? <;> cases i.segment <;>
    simp [Token.ofPieces, Token.ofPiece, Token.ofSeparator, memory?, hv, hmod]

lemma operand?_memory : operand? ρ i.addressSize.bits (Token.ofPieces (Format.Intel.memory i m)) =
    memory? ρ i.addressSize.bits (Token.ofPieces (Format.Intel.memory i m)) := by
  rw [Format.Intel.memory, Format.Intel.width, Format.Intel.segment]
  cases m.width.keyword? <;> cases i.segment <;> rfl

lemma operand?_operand (ho : o.Legible i) (hz : i.addressSize.IsGeneral) :
    operand? ρ i.addressSize.bits (Token.ofPieces (Format.Intel.operand {} i o)) =
      some (i.meaning ρ o) := by
  cases o with
  | register r => rfl
  | immediate v w =>
    have hv : number? (Format.immediateText v w).toList = some (v % 2 ^ w.bits).toNat := by
      rw [Format.immediateText, Number.number?_hex, Size.truncate_of_mem ho.1]
    exact congrArg (Option.map Meaning.immediate) hv
  | memory m =>
    rw [Format.Intel.operand, operand?_memory]
    exact memory?_memory ho hz
  | short d =>
    exact congrArg (Option.map Meaning.relative) (relative?_relative "$" '$' rfl ho.1 ho.2)
  | near w d =>
    exact congrArg (Option.map Meaning.relative) (relative?_relative "$" '$' rfl ho.1 ho.2)
  | far w selector offset =>
    change (match number? _, number? _ with
      | some selector, some offset => some (Meaning.far selector offset)
      | _, _ => none) = _
    rw [Number.number?_hex, Number.number?_hex]
    rfl

def Joined (p : Piece) : Prop := p.kind = .separator → p.text ∉ [",", ", "]

instance (p : Piece) : Decidable (Joined p) :=
  inferInstanceAs (Decidable (p.kind = .separator → p.text ∉ [",", ", "]))

lemma comma_notMem_ofPieces {ps : List Piece} (h : ∀ p ∈ ps, Joined p) :
    Token.comma ∉ Token.ofPieces ps := by
  intro hmem
  obtain ⟨p, hp, hcomma⟩ := List.mem_flatMap.mp hmem
  have hp := h p hp
  rw [Token.ofPiece.eq_def] at hcomma
  cases hkind : p.kind with
  | separator =>
    simp only [hkind, Token.ofSeparator] at hcomma
    have := hp hkind
    split_ifs at hcomma <;> simp_all
  | symbol =>
    simp only [hkind, Token.ofSymbol] at hcomma
    split_ifs at hcomma <;> simp at hcomma
  | _ => simp [hkind] at hcomma

lemma joined_memory (i : Instruction) (m : Memory) : ∀ p ∈ Format.Intel.memory i m, Joined p := by
  have hwidth : ∀ p ∈ Format.Intel.width m, Joined p := by
    rw [Format.Intel.width]
    split <;> simp [Joined]
  have hsegment : ∀ p ∈ Format.Intel.segment i, Joined p := by
    rw [Format.Intel.segment]
    split <;> simp [Joined]
  have hbase : ∀ p ∈ Format.Intel.base m, Joined p := by
    rw [Format.Intel.base]
    split <;> simp [Joined]
  have hindex : ∀ p ∈ Format.Intel.index m, Joined p := by
    rw [Format.Intel.index]
    split <;> [split_ifs; skip] <;> simp [Joined]
  have hdisplacement : ∀ p ∈ Format.Intel.displacement i m, Joined p := by
    rw [Format.Intel.displacement]
    split_ifs <;> simp [Joined]
  simp only [Format.Intel.memory, List.forall_mem_append]
  exact ⟨⟨⟨⟨⟨⟨hwidth, hsegment⟩, by decide⟩, hbase⟩, hindex⟩, hdisplacement⟩, by decide⟩

lemma joined_operand (i : Instruction) (o : Operand) :
    ∀ p ∈ Format.Intel.operand {} i o, Joined p := by
  cases o with
  | memory m => exact joined_memory i m
  | short d | near w d =>
    rw [Format.Intel.operand, Format.relative]
    split <;> simp [Joined]
  | _ => simp [Format.Intel.operand, Joined]

lemma splitOn_separated {ps : List Piece} {pss : List (List Piece)}
    (h : ∀ qs ∈ ps :: pss, ∀ q ∈ qs, Joined q) :
    (Token.whitespace " " :: Token.ofPieces (Format.separated ", " (ps :: pss))).splitOn .comma =
      (ps :: pss).map fun qs => .whitespace " " :: Token.ofPieces qs := by
  have hcomma (qs : List Piece) (hqs : qs ∈ ps :: pss) :
      Token.comma ∉ Token.whitespace " " :: Token.ofPieces qs := by
    simpa using comma_notMem_ofPieces (h qs hqs)
  induction pss generalizing ps with
  | nil => simpa [Format.separated] using List.splitOn_eq_singleton (hcomma ps (by simp))
  | cons qs pss ih =>
    have htokens : Token.whitespace " " :: Token.ofPieces
        (Format.separated ", " (ps :: qs :: pss)) = (.whitespace " " :: Token.ofPieces ps) ++
          .comma :: .whitespace " " :: Token.ofPieces (Format.separated ", " (qs :: pss)) := by
      simp [Format.separated, Token.ofPieces, Token.ofPiece, Token.ofSeparator]
    have hrest : ∀ rs ∈ qs :: pss, rs ∈ ps :: qs :: pss := fun rs => List.mem_cons_of_mem ps
    rw [htokens, List.splitOn_append_cons_self_of_not_mem (hcomma ps (by simp)),
      ih (fun rs hrs => h rs (hrest rs hrs)) (fun rs hrs => hcomma rs (hrest rs hrs))]
    rfl

lemma read?_render (hi : i.Legible) :
    read? ρ i.addressSize.bits (Token.ofPieces (i.render .intel {})) =
      some (i.operands.map (i.meaning ρ)) := by
  rw [read?, behindMnemonic?_render]
  cases hops : i.operands with
  | nil => rfl
  | cons o os =>
    have hjoined : ∀ qs ∈ (o :: os).map (Format.Intel.operand {} i), ∀ q ∈ qs, Joined q := by
      intro qs hqs
      obtain ⟨o, -, rfl⟩ := List.mem_map.mp hqs
      exact joined_operand i o
    have hsplit : (Token.whitespace " " :: Token.ofPieces (Format.separated ", "
        ((o :: os).map (Format.Intel.operand {} i)))).splitOn .comma =
        ((o :: os).map (Format.Intel.operand {} i)).map
          fun qs => .whitespace " " :: Token.ofPieces qs := splitOn_separated hjoined
    have hparts : ∀ x ∈ o :: os, part? ρ i.addressSize.bits
        (.whitespace " " :: Token.ofPieces (Format.Intel.operand {} i x)) =
          some (i.meaning ρ x) := by
      intro x hx
      exact operand?_operand (hi.operands x (hops ▸ hx)) hi.addressSize
    have htokens : Token.ofPieces (Dialect.intel.operands {} i) = Token.ofPieces
        (Format.separated ", " ((o :: os).map (Format.Intel.operand {} i))) := by
      rw [Dialect.operands, Format.Intel.operands, hops]
    rw [htokens, List.isEmpty_cons, if_neg Bool.false_ne_true]
    change List.mapM (part? ρ i.addressSize.bits) (List.splitOn _ _) = _
    rw [hsplit, List.map_map, List.mapM_map]
    exact mapM_of_forall hparts

end X86.Reading.Intel
