import Mathlib
import X86.Proofs.OperandMeaning
import X86.Proofs.OutsideParentheses

namespace X86.Reading.Att

open Numeral

def register? (t : String) : Option String := (behind? '%' t).map String.ofList

def value? (ρ : Register → ℤ) (t : String) : Option ℤ :=
  ((register? t).bind addressRegister?).map ρ

def registers? (ρ : Register → ℤ) : List Token → Option ℤ
  | [.openParen, .semantic .register b, .closeParen] => value? ρ b
  | [.openParen, .semantic .register b, .comma, .semantic .register x, .comma, .text n,
      .closeParen] =>
    match value? ρ b, value? ρ x, number? n.toList with
    | some b, some x, some k => some (b + x * k)
    | _, _, _ => none
  | [.openParen, .comma, .semantic .register x, .comma, .text n, .closeParen] =>
    match value? ρ x, number? n.toList with
    | some x, some k => some (x * k)
    | _, _ => none
  | _ => none

def address? (ρ : Register → ℤ) : List Token → Option ℤ
  | [.semantic .displacement t] => integer? t.toList
  | .semantic .displacement t :: ts =>
    match integer? t.toList, registers? ρ ts with
    | some d, some v => some (v + d)
    | _, _ => none
  | ts => registers? ρ ts

def memory? (ρ : Register → ℤ) (bits : ℕ) : List Token → Option Meaning
  | .semantic .register s :: .colon :: ts =>
    match register? s, address? ρ ts with
    | some s, some a => some (.memory (some s) (a % 2 ^ bits))
    | _, _ => none
  | ts => (address? ρ ts).map fun a => .memory none (a % 2 ^ bits)

def direct? (ρ : Register → ℤ) (bits : ℕ) : List Token → Option Meaning
  | [.semantic .register t] => (register? t).map .register
  | [.semantic .immediate t] => ((behind? '$' t).bind number?).map .immediate
  | [.semantic .relative t] => ((behind? '.' t).bind offset?).map .relative
  | ts => memory? ρ bits ts

def operand? (ρ : Register → ℤ) (bits : ℕ) : List Token → Option Meaning
  | .multiply :: ts => direct? ρ bits ts
  | ts => direct? ρ bits ts

def parts : Bool → List Token → List (List Token)
  | _, [] => [[]]
  | inside, t :: ts =>
    if t = .comma ∧ inside = false then [] :: parts false ts
    else
      (parts (t = .openParen ∨ (inside ∧ t ≠ .closeParen)) ts).modifyHead (t :: ·)

def far? : List (List Token) → Option Meaning
  | [[.semantic .immediate s], [.semantic .immediate t]] =>
    match (behind? '$' s).bind number?, (behind? '$' t).bind number? with
    | some selector, some offset => some (.far selector offset)
    | _, _ => none
  | _ => none

def read? (ρ : Register → ℤ) (bits : ℕ) (ts : List Token) : Option (List Meaning) :=
  match behindMnemonic? ts with
  | some (_, []) => some []
  | some (name, .whitespace _ :: ts) =>
    let ps := parts false ts
    if name ∈ ["ljmp", "lcall"] ∧ ps.length = 2 then (far? ps).map ([·])
    else ps.mapM (operand? ρ bits)
  | _ => none

variable {ρ : Register → ℤ} {i : Instruction} {m : Memory} {o : Operand}

lemma behind?_append (mark : Char) (t : String) :
    behind? mark (String.ofList [mark] ++ t) = some t.toList := by
  rw [behind?, String.toList_append, String.toList_ofList]
  exact if_pos rfl

lemma register?_register (r : Register) :
    register? (Format.Att.register r).text = some r.name := by
  rw [register?, Format.Att.register]
  change Option.map _ (behind? '%' (String.ofList ['%'] ++ r.name)) = _
  rw [behind?_append, Option.map_some, String.ofList_toList]

lemma value?_register {r : Register} (hr : r ∈ addressRegisters) :
    value? ρ (Format.Att.register r).text = some (ρ r) := by
  rw [value?, register?_register, Option.bind_some, addressRegister?_name hr, Option.map_some]

def registerPieces (m : Memory) : List Piece :=
  ⟨.separator, "("⟩ :: (Format.Att.base m ++ Format.Att.index m ++ [⟨.separator, ")"⟩])

lemma registers?_registerPieces (hm : (Operand.memory m).Legible i) (h : m.isAbsolute = false) :
    registers? ρ (Token.ofPieces (registerPieces m)) =
      some ((m.base.map ρ).getD 0 + (m.index.map ρ).getD 0 * m.scale) := by
  obtain ⟨hregisters, -⟩ := hm
  have hbase (b : Register) (hb : m.base = some b) := hregisters b (by simp [Memory.registers, hb])
  have hindex (x : Register) (hx : m.index = some x) :=
    hregisters x (by simp [Memory.registers, hx])
  rw [registerPieces, Format.Att.base, Format.Att.index]
  cases hb : m.base with
  | none =>
    cases hx : m.index with
    | none => simp [Memory.isAbsolute, hb, hx] at h
    | some x =>
      have hvalue := value?_register (ρ := ρ) (hindex x hx)
      have hk := Number.number?_repr m.scale
      change (match value? ρ _, number? m.scale.repr.toList with
        | some x, some k => some (x * k)
        | _, _ => none) = _
      rw [hvalue, hk]
      simp
  | some b =>
    have hvalue := value?_register (ρ := ρ) (hbase b hb)
    cases hx : m.index with
    | none =>
      change value? ρ _ = _
      rw [hvalue]
      simp
    | some x =>
      have hvalue' := value?_register (ρ := ρ) (hindex x hx)
      have hk := Number.number?_repr m.scale
      change (match value? ρ _, value? ρ _, number? m.scale.repr.toList with
        | some b, some x, some k => some (b + x * k)
        | _, _, _ => none) = _
      rw [hvalue, hvalue', hk]
      simp

def addressPieces (i : Instruction) (m : Memory) : List Piece :=
  if m.isAbsolute then [⟨.displacement, Format.absoluteText i m⟩]
  else Format.Att.displacement m ++ registerPieces m

lemma address?_addressPieces (hm : (Operand.memory m).Legible i) (hz : i.addressSize.IsGeneral) :
    (address? ρ (Token.ofPieces (addressPieces i m))).map (· % 2 ^ i.addressSize.bits) =
      some (m.address ρ % 2 ^ i.addressSize.bits) := by
  rw [addressPieces]
  split
  · rename_i habsolute
    change (integer? (Format.absoluteText i m).toList).map _ = _
    rw [Format.absoluteText, Number.integer?_hex, Option.map_some, Size.cast_truncate hz,
      Int.emod_emod_of_dvd _ dvd_rfl, Memory.address_of_isAbsolute habsolute]
  · rename_i habsolute
    have hregisters := registers?_registerPieces (ρ := ρ) hm (by simpa using habsolute)
    rw [Format.Att.displacement]
    split
    · rename_i hzero
      have htokens : address? ρ (Token.ofPieces ([] ++ registerPieces m)) =
          registers? ρ (Token.ofPieces (registerPieces m)) := rfl
      rw [htokens, hregisters, Option.map_some, Memory.address, hzero, add_zero]
    · have hd := Number.integer?_displacement m.displacement
      change Option.map _ (match integer? (Number.displacement m.displacement).toList,
          registers? ρ (Token.ofPieces (registerPieces m)) with
        | some d, some v => some (v + d)
        | _, _ => none) = _
      rw [hd, hregisters, Option.map_some, Memory.address]

lemma memory?_addressPieces (bits : ℕ) : memory? ρ bits (Token.ofPieces (addressPieces i m)) =
    (address? ρ (Token.ofPieces (addressPieces i m))).map fun a => .memory none (a % 2 ^ bits) := by
  rw [addressPieces, Format.Att.displacement]
  split_ifs <;> rfl

lemma memory?_memory (hm : (Operand.memory m).Legible i) (hz : i.addressSize.IsGeneral) :
    memory? ρ i.addressSize.bits (Token.ofPieces (Format.Att.memory i m)) =
      some (i.meaning ρ (.memory m)) := by
  have haddress := address?_addressPieces (ρ := ρ) hm hz
  have hmemory : Format.Att.memory i m = Format.Att.segment i ++ addressPieces i m := by
    simp [Format.Att.memory, addressPieces, registerPieces]
  obtain ⟨v, hv, hmod⟩ := Option.map_eq_some_iff.mp haddress
  rw [hmemory, Format.Att.segment, Instruction.meaning, ← hmod]
  cases i.segment with
  | none =>
    rw [List.nil_append, memory?_addressPieces, hv]
    rfl
  | some s =>
    change (match register? (Format.Att.register s).text,
        address? ρ (Token.ofPieces (addressPieces i m)) with
      | some s, some a => some (Meaning.memory (some s) (a % 2 ^ i.addressSize.bits))
      | _, _ => none) = _
    rw [register?_register, hv]
    rfl

lemma direct?_memory (bits : ℕ) : direct? ρ bits (Token.ofPieces (Format.Att.memory i m)) =
    memory? ρ bits (Token.ofPieces (Format.Att.memory i m)) := by
  rw [Format.Att.memory, Format.Att.segment, Format.Att.displacement]
  cases i.segment <;> split_ifs <;> rfl

lemma operand?_indirection (o : Operand) {bits : ℕ} {ps : List Piece}
    (hps : (Token.ofPieces ps).head? ≠ some .multiply) :
    operand? ρ bits (Token.ofPieces (Format.Att.indirection i o ++ ps)) =
      direct? ρ bits (Token.ofPieces ps) := by
  rw [Format.Att.indirection]
  split
  · rfl
  · rw [List.nil_append, operand?.eq_def]
    split
    · rename_i hts
      rw [hts] at hps
      exact absurd rfl hps
    · rfl

lemma head?_memory_ne (i : Instruction) (m : Memory) :
    (Token.ofPieces (Format.Att.memory i m)).head? ≠ some .multiply := by
  rw [Format.Att.memory, Format.Att.segment, Format.Att.displacement]
  cases i.segment <;> split_ifs <;>
    simp [Token.ofPieces, Token.ofPiece, Token.ofSeparator, Format.Att.register]

lemma operand?_operand (ho : o.Legible i) (hz : i.addressSize.IsGeneral)
    (hfar : ∀ w s t, o ≠ .far w s t) :
    operand? ρ i.addressSize.bits (Token.ofPieces (Format.Att.operand {} i o)) =
      some (i.meaning ρ o) := by
  cases o with
  | register r =>
    refine (operand?_indirection _ ?_).trans ?_
    · nofun
    · exact congrArg (Option.map Meaning.register) (register?_register r)
  | immediate v w =>
    have hv : (behind? '$' ("$" ++ Format.immediateText v w)).bind number? =
        some (v % 2 ^ w.bits).toNat := by
      rw [Format.immediateText, Size.truncate_of_mem ho.1]
      exact (congrArg (·.bind number?) (behind?_append '$' _)).trans (Number.number?_hex _)
    refine (operand?_indirection _ ?_).trans ?_
    · nofun
    · exact congrArg (Option.map Meaning.immediate) hv
  | memory m =>
    rw [Format.Att.operand, operand?_indirection _ (head?_memory_ne i m), direct?_memory]
    exact memory?_memory ho hz
  | short d =>
    refine (operand?_indirection _ ?_).trans ?_
    · nofun
    · exact congrArg (Option.map Meaning.relative) (relative?_relative "." '.' rfl ho.1 ho.2)
  | near w d =>
    refine (operand?_indirection _ ?_).trans ?_
    · nofun
    · exact congrArg (Option.map Meaning.relative) (relative?_relative "." '.' rfl ho.1 ho.2)
  | far w s t => exact absurd rfl (hfar w s t)

def marks : Marks Token := ⟨.comma, .openParen, .closeParen, nofun, nofun⟩

lemma parts_eq (inside : Bool) (ts : List Token) : parts inside ts = marks.parts inside ts := by
  induction ts generalizing inside with
  | nil => rfl
  | cons t ts ih =>
    rw [parts, Marks.parts, ih, ih]
    rfl

lemma closed_append {ps qs : List Piece} (hps : marks.Closed (Token.ofPieces ps))
    (hqs : marks.Closed (Token.ofPieces qs)) : marks.Closed (Token.ofPieces (ps ++ qs)) := by
  rw [Token.ofPieces, List.flatMap_append]
  exact hps.append hqs

lemma closed_registerPieces (m : Memory) : marks.Closed (Token.ofPieces (registerPieces m)) := by
  have htokens : Token.ofPieces (registerPieces m) = .openParen ::
      (Token.ofPieces (Format.Att.base m ++ Format.Att.index m) ++ [.closeParen]) := by
    simp [registerPieces, Token.ofPieces, Token.ofPiece, Token.ofSeparator]
  rw [htokens]
  apply Marks.Closed.parentheses (k := marks)
  rw [Format.Att.base, Format.Att.index]
  cases m.base <;> cases m.index <;>
    simp [marks, Token.ofPieces, Token.ofPiece, Token.ofSeparator, Format.Att.register]

lemma closed_memory (i : Instruction) (m : Memory) :
    marks.Closed (Token.ofPieces (Format.Att.memory i m)) := by
  have hsegment : marks.Closed (Token.ofPieces (Format.Att.segment i)) := by
    rw [Format.Att.segment]
    cases i.segment with
    | none => exact .nil
    | some s =>
      have hs : marks.Closed [.semantic .register (Format.Att.register s).text] :=
        .singleton nofun nofun
      have hcolon : marks.Closed [.colon] := .singleton nofun nofun
      exact hs.append hcolon
  have hdisplacement : marks.Closed (Token.ofPieces (Format.Att.displacement m)) := by
    rw [Format.Att.displacement]
    split
    · exact .nil
    · exact .singleton nofun nofun
  have hmemory : Format.Att.memory i m = Format.Att.segment i ++ addressPieces i m := by
    simp [Format.Att.memory, addressPieces, registerPieces]
  rw [hmemory]
  apply closed_append hsegment
  rw [addressPieces]
  split
  · exact .singleton nofun nofun
  · exact closed_append hdisplacement (closed_registerPieces m)

lemma closed_operand (i : Instruction) (hfar : ∀ w s t, o ≠ .far w s t) :
    marks.Closed (Token.ofPieces (Format.Att.operand {} i o)) := by
  have hindirection : marks.Closed (Token.ofPieces (Format.Att.indirection i o)) := by
    rw [Format.Att.indirection]
    split
    · exact .singleton nofun nofun
    · exact .nil
  rw [Format.Att.operand.eq_def]
  apply closed_append hindirection
  cases o with
  | memory m => exact closed_memory i m
  | far w s t => exact absurd rfl (hfar w s t)
  | _ => exact .singleton nofun nofun

lemma ofPieces_separated (pss : List (List Piece)) :
    Token.ofPieces (Format.separated "," pss) = [.comma].intercalate (pss.map Token.ofPieces) :=
  flatMap_intercalate Token.ofPiece [⟨.separator, ","⟩] pss

lemma parts_operands {os : List Operand} (hos : os ≠ [])
    (hfar : ∀ w s t, Operand.far w s t ∉ os) :
    parts false (Token.ofPieces (Format.separated "," (os.map (Format.Att.operand {} i)))) =
      os.map fun o => Token.ofPieces (Format.Att.operand {} i o) := by
  rw [parts_eq, ofPieces_separated, List.map_map]
  refine Marks.parts_intercalate (k := marks) (by simpa using hos) fun ts hts => ?_
  obtain ⟨o, ho, rfl⟩ := List.mem_map.mp hts
  exact closed_operand i fun w s t hofar => hfar w s t (hofar ▸ ho)

lemma read?_of_ne_nil (hi : i.operands ≠ []) {ps : List (List Token)}
    (hps : parts false (Token.ofPieces (Format.Att.operands {} i)) = ps) :
    read? ρ i.addressSize.bits (Token.ofPieces (i.render .att {})) =
      if Format.Att.name i ∈ ["ljmp", "lcall"] ∧ ps.length = 2 then (far? ps).map ([·])
      else ps.mapM (operand? ρ i.addressSize.bits) := by
  have hempty : i.operands.isEmpty = false := by simpa using hi
  rw [read?, behindMnemonic?_render, hempty, ← hps]
  rfl

lemma read?_of_far {w : Size} {s : ℕ} {t : ℤ} (hfar : i.operands = [.far w s t])
    (hname : Format.Att.name i ∈ ["ljmp", "lcall"]) :
    read? ρ i.addressSize.bits (Token.ofPieces (i.render .att {})) =
      some (i.operands.map (i.meaning ρ)).reverse := by
  have hindirection : Format.Att.indirection i (.far w s t) = [] := by
    simp [Format.Att.indirection, Operand.isRegister, Operand.isMemory]
  have hpieces : Format.Att.operands {} i = [⟨.immediate, "$" ++ Number.hex s⟩, ⟨.separator, ","⟩,
      ⟨.immediate, "$" ++ Number.hex t.toNat⟩] := by
    rw [Format.Att.operands, hfar]
    simp [Format.separated, Format.Att.operand, hindirection]
  have hmark (n : ℕ) : (behind? '$' ("$" ++ Number.hex n)).bind number? = some n :=
    (congrArg (·.bind number?) (behind?_append '$' _)).trans (Number.number?_hex n)
  have hparts : parts false (Token.ofPieces (Format.Att.operands {} i)) =
      [[.semantic .immediate ("$" ++ Number.hex s)],
        [.semantic .immediate ("$" ++ Number.hex t.toNat)]] := by
    rw [hpieces]
    rfl
  rw [read?_of_ne_nil (by simp [hfar]) hparts, if_pos ⟨hname, rfl⟩, far?, hmark, hmark, hfar]
  rfl

lemma read?_of_direct (hi : i.Legible) (hfar : ∀ w s t, .far w s t ∉ i.operands)
    (hname : Format.Att.name i ∈ ["ljmp", "lcall"] → i.mnemonic.isFar) :
    read? ρ i.addressSize.bits (Token.ofPieces (i.render .att {})) =
      some (i.operands.map (i.meaning ρ)).reverse := by
  by_cases hops : i.operands = []
  · rw [read?, behindMnemonic?_render, hops]
    rfl
  · have hparts : parts false (Token.ofPieces (Format.Att.operands {} i)) =
        i.operands.reverse.map fun o => Token.ofPieces (Format.Att.operand {} i o) :=
      parts_operands (by simpa using hops) (by simpa using hfar)
    have hone : ¬(Format.Att.name i ∈ ["ljmp", "lcall"] ∧ (i.operands.reverse.map
        fun o => Token.ofPieces (Format.Att.operand {} i o)).length = 2) := by
      rintro ⟨hmem, hlength⟩
      have hle := hi.far (hname hmem)
      rw [List.length_map, List.length_reverse] at hlength
      omega
    rw [read?_of_ne_nil hops hparts, if_neg hone, List.mapM_map, ← List.map_reverse]
    apply mapM_of_forall
    intro o ho
    have ho : o ∈ i.operands := List.mem_reverse.mp ho
    apply operand?_operand (hi.operands o ho) hi.addressSize
    exact fun w s t hofar => hfar w s t (hofar ▸ ho)

lemma name_notMem (m : Mnemonic) : m.name ∉ ["ljmp", "lcall", "lcal"] := by
  cases m with
  | invalid => decide
  | general m | bmi m | system m | x87 m | sse m | avx m => cases m <;> decide +kernel

lemma vexName_notMem (m : Mnemonic) : m.vexName ∉ ["ljmp", "lcall", "lcal"] := by
  have hv (t : String) : "v" ++ t ∉ ["ljmp", "lcall", "lcal"] := by
    intro h
    have hhead : ∀ u ∈ ["ljmp", "lcall", "lcal"], u.toList.head? ≠ some 'v' := by decide
    apply hhead _ h
    rw [String.toList_append]
    rfl
  cases m with
  | invalid => exact name_notMem .invalid
  | bmi m => exact name_notMem (.bmi m)
  | avx m => exact name_notMem (.avx m)
  | _ => exact hv _

lemma stem_notMem (hi : i.mnemonic.isFar = false) :
    Format.Att.stem i ∉ ["ljmp", "lcall", "lcal"] := by
  rw [Format.Att.stem]
  split
  · rename_i hm
    rw [hm] at hi
    cases hi
  · rename_i hm
    rw [hm] at hi
    cases hi
  · decide
  · rw [Instruction.name]
    split
    · exact vexName_notMem _
    · exact name_notMem _

lemma mem_of_suffix? {c : Char} (h : Format.Att.suffix? i = some c) : c ∈ ['b', 'w', 'l', 'q'] := by
  rw [Format.Att.suffix?] at h
  split at h
  · cases h
  · obtain ⟨m, -, hm⟩ := Option.bind_eq_some_iff.mp h
    rw [Size.suffix?.eq_def] at hm
    split at hm <;> cases hm <;> decide

lemma mem_of_push {t : String} {c : Char} (hc : c ∈ ['b', 'w', 'l', 'q'])
    (h : t.push c ∈ ["ljmp", "lcall"]) : t ∈ ["ljmp", "lcall", "lcal"] := by
  have hsplit (cs : List Char) (d : Char) (htu : t.push c = String.ofList (cs ++ [d])) :
      t.toList = cs ∧ [c] = [d] := by
    rw [← String.toList_inj, String.toList_push, String.toList_ofList] at htu
    exact List.append_inj' htu rfl
  rw [List.mem_pair] at h
  rcases h with h | h
  · obtain ⟨-, hp⟩ := hsplit ['l', 'j', 'm'] 'p' h
    rw [List.singleton_inj.mp hp] at hc
    exact absurd hc (by decide)
  · obtain ⟨ht, -⟩ := hsplit ['l', 'c', 'a', 'l'] 'l' h
    rw [String.toList_inj.mp (ht.trans (rfl : _ = "lcal".toList))]
    decide

lemma isFar_of_name (h : Format.Att.name i ∈ ["ljmp", "lcall"]) : i.mnemonic.isFar = true := by
  by_contra hfar
  have hstem := stem_notMem (Bool.eq_false_of_not_eq_true hfar)
  rw [Format.Att.name] at h
  split at h
  · rename_i c hc
    exact hstem (mem_of_push (mem_of_suffix? hc) h)
  · exact hstem (List.mem_append_left ["lcal"] h)

lemma name_of_far {w : Size} {s : ℕ} {t : ℤ} (hops : i.operands = [.far w s t])
    (hi : i.mnemonic.isFar = true) : Format.Att.name i ∈ ["ljmp", "lcall"] := by
  have hsuffix : Format.Att.suffix? i = none := by
    rw [Format.Att.suffix?, Instruction.memory?, hops]
    split <;> rfl
  have hstem : Format.Att.stem i ∈ ["ljmp", "lcall"] := by
    rw [Mnemonic.isFar.eq_def] at hi
    split at hi
    · rename_i hm
      rw [Format.Att.stem, hm]
      exact List.mem_cons_self
    · rename_i hm
      rw [Format.Att.stem, hm]
      exact List.mem_cons_of_mem _ List.mem_cons_self
    · cases hi
  rw [Format.Att.name, hsuffix]
  exact hstem

lemma read?_render (hi : i.Legible) :
    read? ρ i.addressSize.bits (Token.ofPieces (i.render .att {})) =
      some (i.operands.map (i.meaning ρ)).reverse := by
  by_cases hfar : ∃ w s t, .far w s t ∈ i.operands
  · obtain ⟨w, s, t, hmem⟩ := hfar
    have hmnemonic : i.mnemonic.isFar = true := (hi.operands _ hmem).2
    have hops : i.operands = [.far w s t] := by
      obtain ⟨o, ho⟩ := List.length_eq_one_iff.mp
        (le_antisymm (hi.far hmnemonic) (List.length_pos_of_mem hmem))
      rw [ho, List.mem_singleton] at hmem
      rw [ho, hmem]
    exact read?_of_far hops (name_of_far hops hmnemonic)
  · exact read?_of_direct hi (by simpa using hfar) isFar_of_name

end X86.Reading.Att
