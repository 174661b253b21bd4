import Mathlib
import X86.Proofs.AttReading
import X86.Proofs.IntelReading
import X86.Proofs.OperandKinds
import X86.Proofs.PrefixStability
import X86.Proofs.RegisterNamespace

/-! What either dialect writes for a decoded instruction is read back as the operands it has. -/

namespace X86

open Cursor Scan

variable {mode : Mode} {strictLock : Bool} {bytes : List UInt8} {e : Encoding} {i : Instruction}
  {c : Cursor}

lemma Cursor.readField_bounds (c : Cursor) (n : ℕ) :
    -(256 ^ n) ≤ 2 * (c.readField n).1 ∧ 2 * (c.readField n).1 < 256 ^ n := by
  have hpos : (0 : ℤ) < 256 ^ n := by positivity
  rw [readField]
  split
  · have hnat : 0 < 256 ^ n := by positivity
    have hlow := Int.le_bmod (x := ((c.readUnsigned n).1 : ℤ)) hnat
    have hhigh := Int.bmod_lt (x := ((c.readUnsigned n).1 : ℤ)) hnat
    have hread : (c.readSigned n).1 = Int.bmod (c.readUnsigned n).1 (256 ^ n) := by
      rw [readSigned, Nat.one_shiftLeft, pow_mul]
      rfl
    push_cast at hlow hhigh
    rw [hread]
    omega
  · simp

namespace Encoding.IsAddressRegister

lemma mem_addressRegisters {r : Register} (hr : IsAddressRegister mode e r) (he : e.Sized)
    (hmode : e.OfMode mode) : r ∈ addressRegisters := by
  have hgpr {w : Size} {n : ℕ} (hw : w ∈ [Size.word, .dword, .qword]) (hn : n < 16) :
      Register.mk .gpr w n ∈ addressRegisters := by
    rw [addressRegisters, List.mem_append, List.mem_flatMap]
    exact Or.inl ⟨w, hw, List.mem_map_of_mem (List.mem_range.mpr hn)⟩
  cases hr with
  | @word n hz hn =>
    rw [Register.gpr_of_ne_byte (by decide)]
    exact hgpr (by decide) (by omega)
  | ip hlong =>
    rcases hmode.addressSize with h | h
    · rw [h]
      decide
    · rw [h, hlong]
      decide
  | numbered field bit =>
    rw [addressRegister, Register.gpr_of_ne_byte hmode.addressSize_ne_byte]
    exact hgpr (by rcases he.addressSize with h | h | h <;> simp [h]) (extended_lt _ _)

end Encoding.IsAddressRegister

namespace OperandShape

def isLegible : OperandShape → Bool
  | immediate w => w ∈ [Width.byte, .word, .atMostDword, .operand]
  | signedByte w => w = .operand
  | _ => true

end OperandShape

@[mk_iff]
structure Leaf.Legible (l : Leaf) : Prop where
  shapes : ∀ s ∈ l.entry.operands, s.isLegible = true
  far : .farAddress ∈ l.entry.operands → l.entry.mnemonic.isFar = true
  transfer : l.entry.mnemonic.isFar = true → l.entry.operands.length ≤ 1
  exchange : l.entry.exception = .exchangeOrNop → l.entry.mnemonic.isFar = false

instance (l : Leaf) : Decidable l.Legible := decidable_of_iff _ (Leaf.legible_iff l).symm

lemma OpcodeMap.legible_of_table (m : OpcodeMap) :
    ∀ t ∈ m.table, ∀ l ∈ t.leaves {}, l.Legible := by
  cases m <;> decide +kernel

lemma Encoding.isFar_mnemonic
    (he : e.entry.exception = .exchangeOrNop → e.entry.mnemonic.isFar = false) :
    e.mnemonic.isFar = e.entry.mnemonic.isFar :=
  mnemonic_induction (P := fun m => m.isFar = e.entry.mnemonic.isFar) rfl
    (fun hx => by rw [he hx]; exact ⟨rfl, rfl⟩)
    (fun m n hm => (Mnemonic.shared_isFar.eq_of_kin (m.forOperandSize_kin n)).trans hm)
    (fun m n hm => (Mnemonic.shared_isFar.eq_of_kin (m.forAddressSize_kin n)).trans hm)
    fun m hm => (Mnemonic.shared_isFar.eq_of_kin m.wide_kin).trans hm

namespace Operand

lemma legible_immediate {w : Size} (hw : w ∈ Register.generalSizes) {n : ℕ} (hn : 8 * n ≤ w.bits)
    {v : ℤ} (hv : -(256 ^ n) ≤ 2 * v ∧ 2 * v < 256 ^ n) : (immediate v w).Legible i := by
  have hle : (256 : ℤ) ^ n ≤ 2 ^ w.bits := by
    rw [show (256 : ℤ) = 2 ^ 8 by norm_num, ← pow_mul]
    exact pow_le_pow_right₀ (by norm_num) hn
  exact ⟨hw, by omega, by omega⟩

lemma distance_bounds (hi : i.length ≤ 15) {n : ℕ} (hn : n ≤ 4) {d : ℤ}
    (hd : -(256 ^ n) ≤ 2 * d ∧ 2 * d < 256 ^ n) :
    -(2 ^ 63) ≤ i.length + d ∧ i.length + d < 2 ^ 63 := by
  have hle : (256 : ℤ) ^ n ≤ 256 ^ 4 := pow_le_pow_right₀ (by norm_num) hn
  norm_num at hle ⊢
  omega

lemma legible_short (hi : i.length ≤ 15) (c : Cursor) : (short (c.readField 1).1).Legible i :=
  distance_bounds hi (by decide) (c.readField_bounds 1)

lemma legible_near (hi : i.length ≤ 15) {w : Size} {n : ℕ} (hn : n ≤ 4) (c : Cursor) :
    (near w (c.readField n).1).Legible i :=
  distance_bounds hi hn (c.readField_bounds n)

end Operand

namespace Fields

variable {x : Fields} {shape : OperandShape} {o : Operand}

structure Legible (x : Fields) (i : Instruction) : Prop where
  length : i.length ≤ 15
  operandSize : x.encoding.operandSize.IsGeneral
  memory : ∀ a ∈ x.memory, (∀ r ∈ a.registers, r ∈ addressRegisters) ∧ 0 < a.scale

lemma legible_memoryAt (hx : x.Legible i) {z : Size} (ho : o ∈ x.memoryAt z) : o.Legible i := by
  obtain ⟨a, ha, rfl⟩ := Option.map_eq_some_iff.mp ho
  exact hx.memory a ha

lemma legible_getD (hx : x.Legible i) (z : Size) (ho : o.Legible i) :
    ((x.memoryAt z).getD o).Legible i := by
  cases hm : x.memoryAt z with
  | none => exact ho
  | some a => exact legible_memoryAt hx hm

lemma legible_field? (hx : x.Legible i) (ho : o ∈ x.field? shape) : o.Legible i := by
  cases shape with
  | rm w | rmSplit w v | vectorRm w | mmxRm w | boundRm =>
    obtain rfl := Option.some.inj ho
    exact legible_getD hx _ trivial
  | memory w => exact legible_memoryAt hx ho
  | vectorVex w | generalVex w =>
    obtain ⟨n, -, rfl⟩ := Option.map_eq_some_iff.mp ho
    trivial
  | one =>
    obtain rfl := Option.some.inj ho
    exact ⟨by decide, by decide, by decide⟩
  | immediate w | signedByte w | relativeByte | relative | farAddress | direct w | vectorTail =>
    cases ho
  | _ =>
    obtain rfl := Option.some.inj ho
    trivial

lemma legible_constant (hx : x.Legible i) {w : Width} (hw : (OperandShape.immediate w).isLegible)
    (c : Cursor) :
    (Operand.immediate (c.readField ((OperandShape.immediate w).trailingBytes
      x.encoding.operandSize x.encoding.addressSize)).1 (x.immediateSize w)).Legible i := by
  have hbounds := c.readField_bounds ((OperandShape.immediate w).trailingBytes
    x.encoding.operandSize x.encoding.addressSize)
  cases w with
  | byte => exact Operand.legible_immediate (w := .byte) (n := 1) (by decide) (by decide) hbounds
  | word => exact Operand.legible_immediate (w := .word) (n := 2) (by decide) (by decide) hbounds
  | atMostDword =>
    refine Operand.legible_immediate hx.operandSize.mem_generalSizes ?_ hbounds
    rcases hx.operandSize with h | h | h <;>
      simp [OperandShape.trailingBytes, h, Size.bits]
  | operand =>
    refine Operand.legible_immediate hx.operandSize.mem_generalSizes ?_ hbounds
    rcases hx.operandSize with h | h | h <;>
      simp [OperandShape.trailingBytes, h, Size.bits, Size.bytes]
  | _ => cases hw

lemma legible_operand (hx : x.Legible i) (hs : shape.isLegible = true)
    (hfar : shape = .farAddress → i.mnemonic.isFar = true) (ho : o ∈ (x.operand c shape).1) :
    o.Legible i := by
  by_cases ht : shape.trails = false
  · rw [operand_of_not_trails ht] at ho
    exact legible_field? hx ho
  · cases shape with
    | immediate w =>
      obtain rfl := Option.some.inj ho
      exact legible_constant hx hs c
    | signedByte w =>
      simp only [operand, Option.mem_def, Option.some.injEq] at ho
      obtain rfl : w = .operand := of_decide_eq_true hs
      have hbits : 8 * 1 ≤ x.encoding.operandSize.bits := by
        rcases hx.operandSize with h | h | h <;> rw [h] <;> decide
      rw [← ho]
      exact Operand.legible_immediate hx.operandSize.mem_generalSizes hbits (readField_bounds c 1)
    | relativeByte =>
      simp only [operand, Option.mem_def, Option.some.injEq] at ho
      rw [← ho]
      exact Operand.legible_short hx.length c
    | relative =>
      obtain rfl := Option.some.inj ho
      have hn : OperandShape.relative.trailingBytes x.encoding.operandSize
          x.encoding.addressSize ≤ 4 := by
        rw [OperandShape.trailingBytes]
        split <;> decide
      exact Operand.legible_near hx.length hn c
    | farAddress =>
      obtain rfl := Option.some.inj ho
      exact ⟨Int.natCast_nonneg _, hfar rfl⟩
    | direct w =>
      obtain rfl := Option.some.inj ho
      exact ⟨by simp [Memory.registers, Memory.direct], Nat.one_pos⟩
    | vectorTail =>
      obtain rfl := Option.some.inj ho
      trivial
    | _ => exact absurd rfl ht

lemma legible_operands (hx : x.Legible i) {ss : List OperandShape}
    (hs : ∀ shape ∈ ss, shape.isLegible = true)
    (hfar : .farAddress ∈ ss → i.mnemonic.isFar = true) :
    ∀ o ∈ (x.operands ss c).1, o.Legible i := by
  intro o ho
  obtain ⟨shape, hshape, d, hd⟩ := exists_of_mem_operands ho
  exact legible_operand hx (hs shape hshape) (fun h => hfar (h ▸ hshape)) hd

lemma length_operands_le (ss : List OperandShape) : (x.operands ss c).1.length ≤ ss.length := by
  induction ss generalizing c with
  | nil => exact le_rfl
  | cons shape ss ih =>
    have hone : (x.operand c shape).1.toList.length ≤ 1 := by
      cases (x.operand c shape).1 <;> simp
    have hrest := @ih (x.operand c shape).2
    simp only [operands, List.length_append, List.length_cons]
    omega

end Fields

lemma Encoding.length_operands_le (mode : Mode) (bytes : List UInt8) (e : Encoding) :
    (e.extract mode bytes).operands.length ≤ e.entry.operands.length := by
  rw [extract_operands]
  exact (Fields.length_operands_le _).trans e.length_shapes_le

namespace Instruction

lemma legible_of_decode (hi : decode mode strictLock bytes = .ok i) : i.Legible := by
  obtain ⟨e, he, rfl⟩ := decode_eq_ok.mp hi
  obtain ⟨l, hleaf, hentry⟩ := Encoding.exists_leaf_of_scan OpcodeMap.legible_of_table he
  have hsized := Encoding.sized_of_scan he
  have hmode := (Encoding.ofMode_of_scan he).1
  have hlength : e.length ≤ 15 := (Encoding.length_le_of_scan he).trans (min_le_left _ _)
  have hfar : e.mnemonic.isFar = e.entry.mnemonic.isFar :=
    Encoding.isFar_mnemonic (hentry ▸ hleaf.exchange)
  have hmem {shape : OperandShape} (hshape : shape ∈ e.shapes) : shape ∈ l.entry.operands :=
    hentry ▸ Encoding.mem_operands_of_shapes hshape
  have hx : (Fields.read mode bytes e).1.Legible (e.extract mode bytes) := by
    refine ⟨hlength, ?_, fun a ha => ?_⟩
    · rw [Fields.read, Fields.encoding_behindOpcode]
      exact hsized.operandSize
    · obtain ⟨m, d, rfl⟩ := Fields.address_of_mem_memory ha
      have hscale : ∀ k ∈ [1, 2, 4, 8], 0 < k := by decide
      refine ⟨fun r hr => ?_, hscale _ (Encoding.scale_address m d)⟩
      exact (Encoding.isAddressRegister_address m d r hr).mem_addressRegisters hsized hmode
  constructor
  · exact hsized.addressSize
  · rw [Encoding.extract_operands]
    refine Fields.legible_operands hx (fun shape hshape => hleaf.shapes shape (hmem hshape)) ?_
    exact fun hshape => hfar.trans (hentry ▸ hleaf.far (hmem hshape))
  · intro hi
    have hlength : l.entry.operands.length ≤ 1 := hleaf.transfer (by rwa [hentry, ← hfar])
    exact (e.length_operands_le mode bytes).trans (hentry ▸ hlength)

/-- From the tokens of either dialect the operands are read back, in the one order or in the other.
The digits of a constant give its value back, once it is sign-extended at its width. -/
theorem readings_of_decode (hi : decode mode strictLock bytes = .ok i) (ρ : Register → ℤ) :
    Reading.Intel.read? ρ i.addressSize.bits (Token.ofPieces (i.render .intel {})) =
      some (i.operands.map (i.meaning ρ)) ∧
    Reading.Att.read? ρ i.addressSize.bits (Token.ofPieces (i.render .att {})) =
      some (i.operands.map (i.meaning ρ)).reverse ∧
    (∀ v w, .immediate v w ∈ i.operands →
      Int.bmod (v % 2 ^ w.bits).toNat (2 ^ w.bits) = v) ∧
    ∀ w selector offset, .far w selector offset ∈ i.operands → (offset.toNat : ℤ) = offset := by
  have hlegible := legible_of_decode hi
  refine ⟨Reading.Intel.read?_render hlegible, Reading.Att.read?_render hlegible, ?_, ?_⟩
  · intro v w hv
    obtain ⟨-, hlow, hhigh⟩ := hlegible.operands _ hv
    have hnonneg : 0 ≤ v % 2 ^ w.bits := Int.emod_nonneg _ (by positivity)
    have hcast : ((2 ^ w.bits : ℕ) : ℤ) = 2 ^ w.bits := by push_cast; rfl
    rw [Int.toNat_of_nonneg hnonneg, ← hcast, Int.emod_bmod]
    rw [← hcast] at hlow hhigh
    exact Int.bmod_eq_of_le (by omega) (by omega)
  · intro w selector offset hfar
    exact Int.toNat_of_nonneg (hlegible.operands _ hfar).1

theorem readings_of_decode_mov : ∃ i,
    decode .bits32 true [0x64, 0xC7, 0x44, 0xB3, 0xF8, 0x78, 0x56, 0x34, 0xF2] = .ok i ∧
    i.text .intel {} = "mov dword ptr fs:[ebx+esi*4-8], 0xf2345678" ∧
    i.text .att {} = "movl $0xf2345678,%fs:-8(%ebx,%esi,4)" ∧
    ∀ ρ, Reading.Intel.read? ρ 32 (Token.ofPieces (i.render .intel {})) =
        some [.memory "fs" ((ρ ⟨.gpr, .dword, 3⟩ + ρ ⟨.gpr, .dword, 6⟩ * 4 + -8) % 2 ^ 32),
          .immediate 0xF2345678] ∧
      Reading.Att.read? ρ 32 (Token.ofPieces (i.render .att {})) =
        some [.immediate 0xF2345678,
          .memory "fs" ((ρ ⟨.gpr, .dword, 3⟩ + ρ ⟨.gpr, .dword, 6⟩ * 4 + -8) % 2 ^ 32)] := by
  have hi : decode .bits32 true [0x64, 0xC7, 0x44, 0xB3, 0xF8, 0x78, 0x56, 0x34, 0xF2] =
      .ok ⟨.general .MOV, false, 9, some ⟨.segment, .word, 4⟩, .none, .dword, .dword,
        [.memory ⟨.dword, some ⟨.gpr, .dword, 3⟩, some ⟨.gpr, .dword, 6⟩, 4, -8⟩,
          .immediate (-231451016) .dword]⟩ := rfl
  refine ⟨_, hi, by decide, by decide, fun ρ => ?_⟩
  obtain ⟨hintel, hatt, -⟩ := readings_of_decode hi ρ
  exact ⟨hintel, hatt⟩

end Instruction

end X86
