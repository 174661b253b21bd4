import Mathlib
import X86.Proofs.NumberText
import X86.Proofs.OperandRegisters
import X86.Text.Token

/-! What operands mean, and what is read from their tokens in either dialect. -/

namespace X86

open Numeral

inductive Meaning where
  | register (name : String)
  | immediate (value : ℕ)
  | far (selector offset : ℕ)
  | memory (segment : Option String) (address : ℤ)
  | relative (distance : ℤ)

def Memory.address (ρ : Register → ℤ) (m : Memory) : ℤ :=
  (m.base.map ρ).getD 0 + (m.index.map ρ).getD 0 * m.scale + m.displacement

def Instruction.meaning (ρ : Register → ℤ) (i : Instruction) : Operand → Meaning
  | .register r => .register r.name
  | .immediate v w => .immediate (v % 2 ^ w.bits).toNat
  | .memory m => .memory (i.segment.map Register.name) (m.address ρ % 2 ^ i.addressSize.bits)
  | .short d => .relative (i.length + d)
  | .near _ d => .relative (i.length + d)
  | .far _ selector offset => .far selector offset.toNat

def addressRegisters : List Register :=
  [Size.word, .dword, .qword].flatMap (fun w => (List.range 16).map (Register.mk .gpr w)) ++
    [Size.dword, .qword].map Register.ip

def addressRegister? (name : String) : Option Register :=
  addressRegisters.find? (·.name == name)

lemma addressRegister?_name {r : Register} (h : r ∈ addressRegisters) :
    addressRegister? r.name = some r := by
  have hall : ∀ r ∈ addressRegisters, addressRegister? r.name = some r := by decide +kernel
  exact hall r h

/-- Constants fit the widths they are written at, and registers in addresses are known by name. -/
def Operand.Legible (i : Instruction) : Operand → Prop
  | .register _ => True
  | .immediate v w => w ∈ Register.generalSizes ∧
      -(2 ^ w.bits) ≤ 2 * v ∧ 2 * v < 2 ^ w.bits
  | .memory m => (∀ r ∈ m.registers, r ∈ addressRegisters) ∧ 0 < m.scale
  | .short d => -(2 ^ 63) ≤ i.length + d ∧ i.length + d < 2 ^ 63
  | .near _ d => -(2 ^ 63) ≤ i.length + d ∧ i.length + d < 2 ^ 63
  | .far _ _ offset => 0 ≤ offset ∧ i.mnemonic.isFar

structure Instruction.Legible (i : Instruction) : Prop where
  addressSize : i.addressSize.IsGeneral
  operands : ∀ o ∈ i.operands, o.Legible i
  far : i.mnemonic.isFar → i.operands.length ≤ 1

lemma Size.truncate_of_mem {w : Size} (hw : w ∈ Register.generalSizes) (v : ℤ) :
    w.truncate v = (v % 2 ^ w.bits).toNat := by
  have hbits : ∀ w ∈ Register.generalSizes, w.shownBits = w.bits := by decide
  rw [truncate, hbits w hw, Nat.one_shiftLeft]
  push_cast
  rfl

lemma Size.cast_truncate {z : Size} (hz : z.IsGeneral) (v : ℤ) :
    (z.truncate v : ℤ) = v % 2 ^ z.bits := by
  rw [truncate_of_mem hz.mem_generalSizes]
  exact Int.toNat_of_nonneg (Int.emod_nonneg _ (by positivity))

lemma Memory.address_of_isAbsolute {m : Memory} (h : m.isAbsolute = true) (ρ : Register → ℤ) :
    m.address ρ = m.displacement := by
  obtain ⟨hbase, hindex⟩ : m.base = none ∧ m.index = none := by simpa [isAbsolute] using h
  simp [address, hbase, hindex]

namespace Reading

def behind? (mark : Char) (t : String) : Option (List Char) :=
  match t.toList with
  | c :: cs => if c = mark then some cs else none
  | [] => none

def behindMnemonic? : List Token → Option (String × List Token)
  | .semantic .mnemonic t :: ts => some (t, ts)
  | _ :: ts => behindMnemonic? ts
  | [] => none

lemma behind?_relative {i : Instruction} (here : String) (mark : Char)
    (hhere : here.toList = [mark]) {d : ℤ} (hlow : -(2 ^ 63) ≤ i.length + d)
    (hhigh : i.length + d < 2 ^ 63) : behind? mark (Format.relative {} i here d).text =
      some (Number.offset (i.length + d)).toList := by
  have hd : Int.bmod (i.length + d) (1 <<< 64) = i.length + d := by
    rw [Nat.one_shiftLeft]
    exact Int.bmod_eq_of_le (by norm_num; omega) (by norm_num; omega)
  have htext : (Format.relative {} i here d).text = here ++ Number.offset (i.length + d) := by
    rw [Format.relative, hd]
    rfl
  rw [htext, behind?, String.toList_append, hhere]
  simp

lemma relative?_relative {i : Instruction} (here : String) (mark : Char)
    (hhere : here.toList = [mark]) {d : ℤ} (hlow : -(2 ^ 63) ≤ i.length + d)
    (hhigh : i.length + d < 2 ^ 63) :
    (behind? mark (Format.relative {} i here d).text).bind offset? = some (i.length + d) := by
  rw [behind?_relative here mark hhere hlow hhigh, Option.bind_some, Number.offset?_offset]

lemma behindMnemonic?_prefixes (i : Instruction) (ts : List Token) :
    behindMnemonic? (Token.ofPieces (Format.prefixes i) ++ ts) = behindMnemonic? ts := by
  rw [Format.prefixes]
  generalize Format.prefixNames = names
  induction names with
  | nil => rfl
  | cons x names ih =>
    rw [Token.ofPieces] at ih ⊢
    rw [List.flatMap_cons, List.flatMap_append, List.append_assoc]
    dsimp only
    split
    · exact ih
    · exact ih

lemma behindMnemonic?_render (dialect : Dialect) (i : Instruction) :
    behindMnemonic? (Token.ofPieces (i.render dialect {})) = some (dialect.name i,
      if i.operands.isEmpty then []
      else .whitespace " " :: Token.ofPieces (dialect.operands {} i)) := by
  have hrender : Token.ofPieces (i.render dialect {}) = Token.ofPieces (Format.prefixes i) ++
      .semantic .mnemonic (dialect.name i) :: (if i.operands.isEmpty then []
        else .whitespace " " :: Token.ofPieces (dialect.operands {} i)) := by
    rw [Instruction.render, if_neg (by simp), Token.ofPieces, List.flatMap_append]
    by_cases h : i.operands.isEmpty
    · rw [if_pos h, if_pos h]
      rfl
    · rw [if_neg h, if_neg h]
      rfl
  rw [hrender, behindMnemonic?_prefixes]
  rfl

lemma mapM_of_forall {α β : Type} {f : α → Option β} {g : α → β} {xs : List α}
    (h : ∀ x ∈ xs, f x = some (g x)) : xs.mapM f = some (xs.map g) := by
  induction xs with
  | nil => rfl
  | cons x xs ih =>
    rw [List.forall_mem_cons] at h
    simp [h.1, ih h.2]

end Reading

end X86
