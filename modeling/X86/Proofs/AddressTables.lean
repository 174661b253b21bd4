import Mathlib
import X86.Proofs.VexPrefixes
import X86.Proofs.WellFormed

namespace X86

open Cursor Scan

namespace Register

def bx : Register := ⟨.gpr, .word, 3⟩
def bp : Register := ⟨.gpr, .word, 5⟩
def si : Register := ⟨.gpr, .word, 6⟩
def di : Register := ⟨.gpr, .word, 7⟩

end Register

def wordRegisters : Fin 8 → Register × Option Register :=
  ![(.bx, some .si), (.bx, some .di), (.bp, some .si), (.bp, some .di), (.si, none), (.di, none),
    (.bp, none), (.bx, none)]

def fullDisplacement (mod : Fin 4) : ℕ := if mod = 2 then 4 else mod

structure AddressRow where
  sib : Option Sib
  base : Option Register
  index : Option Register
  scale : ℕ
  displacement : ℕ

namespace Sib

inductive Index (z : Size) (x : Bool) (s : Sib) : Option Register → ℕ → Prop
  | none (hs : s.index = 4) (hx : x = false) : Index z x s none 1
  | register (h : ¬(s.index = 4 ∧ x = false)) :
      Index z x s (some ⟨.gpr, z, extended s.index x⟩) (2 ^ s.scale.val)

inductive Base (z : Size) (b : Bool) (mod : Fin 4) (s : Sib) : Option Register → ℕ → Prop
  | none (hs : s.base = 5) (hm : mod = 0) : Base z b mod s none 4
  | register (h : ¬(s.base = 5 ∧ mod = 0)) :
      Base z b mod s (some ⟨.gpr, z, extended s.base b⟩) (fullDisplacement mod)

end Sib

/-- The row for a ModR/M byte of a memory form, at an address size and with the extension bits `x`
and `b`. -/
inductive ModRM.Addresses (mode : Mode) (z : Size) (x b : Bool) (m : ModRM) : AddressRow → Prop
  | word {base : Register} {index : Option Register} (hz : z = .word)
      (hm : ¬(m.mod = 0 ∧ m.rm = 6)) (hr : wordRegisters m.rm = (base, index)) :
      Addresses mode z x b m ⟨none, some base, index, 1, m.mod⟩
  | wordDirect (hz : z = .word) (hmod : m.mod = 0) (hrm : m.rm = 6) :
      Addresses mode z x b m ⟨none, none, none, 1, 2⟩
  | base (hz : z ≠ .word) (hrm : m.rm ≠ 4) (hm : ¬(m.mod = 0 ∧ m.rm = 5)) :
      Addresses mode z x b m
        ⟨none, some ⟨.gpr, z, extended m.rm b⟩, none, 1, fullDisplacement m.mod⟩
  | direct (hz : z ≠ .word) (hmod : m.mod = 0) (hrm : m.rm = 5) :
      Addresses mode z x b m ⟨none, if mode.isLong then some (.ip z) else none, none, 1, 4⟩
  | sib {s : Sib} {base index : Option Register} {scale n : ℕ} (hz : z ≠ .word) (hrm : m.rm = 4)
      (hi : s.Index z x index scale) (hb : s.Base z b m.mod base n) :
      Addresses mode z x b m ⟨some s, base, index, scale, n⟩

variable {mode : Mode} {strictLock : Bool} {bytes : List UInt8} {e : Encoding} {m : ModRM}
  {s : Sib} {c : Cursor}

namespace ModRM

lemma dispLength16_eq : m.isRegister = false → ¬(m.mod = 0 ∧ m.rm = 6) →
    m.dispLength16 = m.mod.val := by
  obtain ⟨mod, reg, rm⟩ := m
  revert mod reg rm
  decide

lemma dispLength32_eq : m.isRegister = false → ¬(m.mod = 0 ∧ m.rm = 5) →
    m.dispLength32 = fullDisplacement m.mod := by
  obtain ⟨mod, reg, rm⟩ := m
  revert mod reg rm
  decide

lemma memory16_eq (d : ℤ) : m.isRegister = false → ¬(m.mod = 0 ∧ m.rm = 6) →
    m.memory16 .unset d =
      ⟨.unset, some (wordRegisters m.rm).1, (wordRegisters m.rm).2, 1, d⟩ := by
  have hpair : ∀ mod reg rm, isRegister ⟨mod, reg, rm⟩ = false → ¬(mod = 0 ∧ rm = 6) →
      (pair16 ⟨mod, reg, rm⟩).1.map (fun n => Register.gpr .word n false) =
          some (wordRegisters rm).1 ∧
        (pair16 ⟨mod, reg, rm⟩).2.map (fun n => Register.gpr .word n false) =
          (wordRegisters rm).2 := by decide
  intro hm h
  obtain ⟨hbase, hindex⟩ := hpair m.mod m.reg m.rm hm h
  rw [memory16, hbase, hindex]

end ModRM

lemma Cursor.ofNat_readUnsigned_one (c : Cursor) :
    UInt8.ofNat (c.readUnsigned 1).1 = c.byteAt 0 := by
  rw [readUnsigned, byteAt, Nat.add_zero, List.getD_eq_getElem?_getD, ← List.head?_drop]
  cases c.bytes.drop c.position with
  | nil => rfl
  | cons b t => simp [littleEndian]

namespace Encoding

lemma addressRegister_eq (e : Encoding) (n : ℕ) :
    e.addressRegister n = ⟨.gpr, e.addressSize, n⟩ := by
  simp [addressRegister, Register.gpr]

lemma index_sibAddress (e : Encoding) (m : ModRM) (s : Sib) (c : Cursor) :
    s.Index e.addressSize (e.rexBit Rex.x) (e.sibAddress m s c).1.index
      (e.sibAddress m s c).1.scale := by
  have hindex : (e.sibAddress m s c).1.index =
      (s.indexNumber (e.rexBit Rex.x)).map e.addressRegister := rfl
  have hscale : (e.sibAddress m s c).1.scale =
      if (s.indexNumber (e.rexBit Rex.x)).isSome then s.factor else 1 := rfl
  rw [hindex, hscale, Sib.indexNumber]
  split <;> rename_i h
  · exact .none h.1 h.2
  · rw [Option.map_some, addressRegister_eq, Option.isSome_some, if_pos rfl, Sib.factor,
      Nat.one_shiftLeft]
    exact .register h

lemma base_sibAddress (e : Encoding) (s : Sib) (c : Cursor) (hm : m.isRegister = false)
    (hz : e.addressSize ≠ .word) (hrm : m.rm = 4) :
    s.Base e.addressSize (e.rexBit Rex.b) m.mod (e.sibAddress m s c).1.base
      (m.displacementLength e.addressSize (some s)) := by
  have hbase : (e.sibAddress m s c).1.base =
      (s.baseNumber m.mod (e.rexBit Rex.b)).map e.addressRegister := rfl
  have hdisp := @ModRM.dispLength32_eq m hm (by simp [hrm])
  rw [hbase, ModRM.displacementLength_some hz hrm, Sib.baseNumber]
  split <;> rename_i h
  · simp only [Sib.hasDisp32, Bool.and_eq_true, beq_iff_eq] at h
    exact .none h.2 h.1
  · rw [Option.map_some, addressRegister_eq, hdisp]
    refine .register fun hs => h ?_
    simp [Sib.hasDisp32, hs]

lemma addresses_word (hm : m.isRegister = false) (hz : e.addressSize = .word) :
    m.Addresses mode e.addressSize (e.rexBit Rex.x) (e.rexBit Rex.b)
      ⟨none, (e.address mode m c).1.base, (e.address mode m c).1.index,
        (e.address mode m c).1.scale, m.displacementLength e.addressSize none⟩ := by
  have haddress : (e.address mode m c).1 = m.memory16 .unset (c.readField m.dispLength16).1 := by
    rw [address, if_pos hz]
  rw [haddress, hz, ModRM.displacementLength_word]
  by_cases h : m.mod = 0 ∧ m.rm = 6
  · have hdisp : m.dispLength16 = 2 := by simp [ModRM.dispLength16, h.1, h.2]
    rw [hdisp]
    simpa [ModRM.memory16, ModRM.pair16, h.1, h.2] using .wordDirect rfl h.1 h.2
  · rw [ModRM.memory16_eq _ hm h, ModRM.dispLength16_eq hm h]
    exact .word rfl h rfl

lemma addresses_address {sib : Option Sib} (hm : m.isRegister = false)
    (hs : sib.isSome = true ↔ e.addressSize ≠ .word ∧ m.rm = 4)
    (hb : ∀ s ∈ sib, s = Sib.ofByte (c.byteAt 0)) :
    m.Addresses mode e.addressSize (e.rexBit Rex.x) (e.rexBit Rex.b)
      ⟨sib, (e.address mode m c).1.base, (e.address mode m c).1.index,
        (e.address mode m c).1.scale, m.displacementLength e.addressSize sib⟩ := by
  by_cases hz : e.addressSize = .word
  · obtain rfl : sib = none := by simpa [hz] using hs
    exact addresses_word hm hz
  have hmod : m.mod ≠ 3 := by simpa [ModRM.isRegister] using hm
  have haddress : e.address mode m c = e.address32 mode m c := if_neg hz
  by_cases hrm : m.rm = 4
  · obtain ⟨s, rfl⟩ := Option.isSome_iff_exists.mp (hs.mpr ⟨hz, hrm⟩)
    obtain rfl := hb s rfl
    have hbase : m.addressBase = .sib := by simp [ModRM.addressBase, hmod, hrm]
    have hsib : (e.address32 mode m c).1 =
        (e.sibAddress m (Sib.ofByte (c.byteAt 0)) (c.advance 1)).1 := by
      rw [address32, hbase, ← ofNat_readUnsigned_one]
      rfl
    rw [haddress, hsib]
    exact .sib hz hrm (index_sibAddress ..) (base_sibAddress _ _ _ hm hz hrm)
  obtain rfl : sib = none := by simpa [hrm] using hs
  rw [haddress, ModRM.displacementLength_none hz]
  by_cases h : m.mod = 0 ∧ m.rm = 5
  · have hbase : m.addressBase = .disp32 := by simp [ModRM.addressBase, h.1, h.2]
    rw [address32, hbase, ModRM.dispLength32_of_addressBase hbase]
    exact .direct hz h.1 h.2
  · have hbase : m.addressBase = .base m.rm := by simp [ModRM.addressBase, hmod, hrm, h]
    rw [address32, hbase, ModRM.dispLength32_eq hm h]
    simp only [addressRegister_eq]
    exact .base hz hrm h

end Encoding

namespace Fields

lemma read_of_hasModRM (hm : e.hasModRM = true) : Fields.read mode bytes e =
    behindModRM mode e (bytes.getD e.opcodeOffset 0) (.ofByte (bytes.getD e.operandOffset 0))
      ⟨bytes, e.operandOffset + 1⟩ := by
  have hbyte := ofNat_readUnsigned_one ⟨bytes, e.operandOffset⟩
  rw [byteAt, Nat.add_zero] at hbyte
  rw [Fields.read, behindOpcode, if_pos hm]
  simp only [hbyte]
  rfl

lemma memory_of_namesMemory (hn : e.namesMemory m = true) (opcode : UInt8) :
    (behindModRM mode e opcode m c).1.memory = some (e.address mode m c).1 := by
  rw [behindModRM, if_neg]
  rwa [Encoding.namesMemory, Bool.not_eq_true', ← Bool.not_eq_true] at hn

lemma eq_of_mem_operands {x : Fields} {a a' : Memory} {ss : List OperandShape}
    (hx : x.memory = some a) (hd : ss.any OperandShape.isDirect = false)
    (ha : .memory a' ∈ (x.operands ss c).1) : ∃ w, a' = { a with width := w } := by
  obtain ⟨shape, hshape, d, ho⟩ := exists_of_mem_operands ha
  have hdirect : shape.isDirect = false := by simpa using List.any_eq_false.mp hd shape hshape
  cases haddr : shape.addressed with
  | true =>
    obtain ⟨w, hw⟩ := field?_of_addressed hx haddr
    rw [operand_of_not_trails (OperandShape.not_trails_of_addressed haddr), hw] at ho
    obtain ⟨rfl⟩ : _ = a' := by simpa using ho
    exact ⟨w, rfl⟩
  | false =>
    have hnone := @memory?_operand x shape haddr hdirect d
    rw [Option.mem_def.mp ho] at hnone
    cases hnone

end Fields

structure AddressRow.Describes (r : AddressRow) (a : Memory) (ds : List UInt8) : Prop where
  base : a.base = r.base
  index : a.index = r.index
  scale : a.scale = r.scale
  displacement : IsSigned r.displacement a.displacement ds

lemma getD_of_drop_take {n k : ℕ} {b : UInt8} {t : List UInt8}
    (h : (bytes.take n).drop k = b :: t) :
    bytes.getD k 0 = b ∧ (bytes.take n).drop (k + 1) = t := by
  have hbyte : (bytes.take n)[k]? = some b := by
    rw [← List.head?_drop, h, List.head?_cons]
  constructor
  · have hk : k < n := by
      have := (List.getElem?_eq_some_iff.mp hbyte).1
      rw [List.length_take] at this
      omega
    rw [List.getElem?_take_of_lt hk] at hbyte
    rw [List.getD_eq_getElem?_getD, hbyte, Option.getD_some]
  · rw [← List.drop_drop, h, List.drop_one, List.tail_cons]

lemma Sib.ofByte_toByte (s : Sib) : ofByte s.toByte = s := by
  obtain ⟨scale, index, base⟩ := s
  revert scale index base
  decide

namespace Encoding

lemma isDirect_shapes_of_scan (he : scan mode strictLock bytes = .ok e) (hm : e.hasModRM = true)
    (hn : e.namesMemory (.ofByte (bytes.getD e.operandOffset 0)) = true) :
    e.shapes.any OperandShape.isDirect = false := by
  obtain ⟨h, c, s, c', hh, hs, hes⟩ := scan_eq_ok.mp he
  obtain ⟨hacc, ⟨l, hl⟩, -⟩ := Head.accepted_of_scanBody hs
  have hx := agrees_read hs (Head.position_pos_of_scan hh) hes
  rw [show c.bytes = bytes from bytes_of_run hh, Fields.read_of_hasModRM hm] at hx
  obtain ⟨m, hms⟩ : ∃ m, s.modrm = some m := by
    rw [← Option.isSome_iff_exists, ← hm, hes]
    rfl
  have hmod := hx.modrm m hms
  rw [Fields.modrm_behindModRM] at hmod
  rw [hmod] at hn
  exact (hl.addressed_of_namesMemory hacc (by rw [hes]; rfl) hms hn).2

/-- The address behind a ModR/M byte of a memory form is in the tables, at the address size and with
the extension bits in effect. -/
theorem addresses_of_scan (he : scan mode strictLock bytes = .ok e) (hm : e.hasModRM = true)
    (hn : e.namesMemory (.ofByte (bytes.getD e.operandOffset 0)) = true) :
    ∃ (r : AddressRow) (ds : List UInt8),
      (ModRM.ofByte (bytes.getD e.operandOffset 0)).Addresses mode e.addressSize
        ((Rex.inEffect mode bytes).any Rex.x) ((Rex.inEffect mode bytes).any Rex.b) r ∧
      r.sib.toList.map Sib.toByte ++ ds <+: (bytes.take e.length).drop (e.operandOffset + 1) ∧
      (e.extract mode bytes).memory?.isSome = true ∧
      ∀ a, .memory a ∈ (e.extract mode bytes).operands → r.Describes a ds := by
  have hdirect := isDirect_shapes_of_scan he hm hn
  obtain ⟨-, ⟨m?, sib, ds, trailing⟩, hy, hholds⟩ := layout_of_scan he
  obtain ⟨m, rfl⟩ := Option.isSome_iff_exists.mp (hholds.modrm.trans hm)
  obtain ⟨hbyte, hbehind⟩ := @getD_of_drop_take bytes e.length e.operandOffset m.toByte
    (sib.toList.map Sib.toByte ++ ds ++ trailing) (by simpa [Layout.toBytes] using hy)
  rw [hbyte, ModRM.ofByte_toByte] at hn ⊢
  obtain ⟨a, ha, hbytes⟩ := hholds.memory m rfl hn
  -- the SIB byte of the layout is the one that the address is read with
  have hsib : ∀ s ∈ sib, s = Sib.ofByte (byteAt ⟨bytes, e.operandOffset + 1⟩ 0) := by
    rintro s rfl
    have hs := (@getD_of_drop_take bytes e.length (e.operandOffset + 1) s.toByte (ds ++ trailing)
      (by simpa using hbehind)).1
    rw [byteAt, Nat.add_zero, hs, Sib.ofByte_toByte]
  have hreg : m.isRegister = false := by
    rw [namesMemory, Bool.not_eq_true', Bool.or_eq_false_iff] at hn
    exact hn.1
  have hrow := @addresses_address mode e m ⟨bytes, e.operandOffset + 1⟩ sib hreg hbytes.sib hsib
  set A := (e.address mode m ⟨bytes, e.operandOffset + 1⟩).1
  -- an operand is at the address that is read, at the width of its shape
  have hops (a : Memory) (ha : .memory a ∈ (e.extract mode bytes).operands) :
      ∃ w, a = { A with width := w } := by
    rw [extract_operands, Fields.read_of_hasModRM hm, hbyte, ModRM.ofByte_toByte] at ha
    exact Fields.eq_of_mem_operands (Fields.memory_of_namesMemory hn _) hdirect ha
  have hdisplacement : IsSigned (m.displacementLength e.addressSize sib) A.displacement ds := by
    obtain ⟨o, ho, hoa⟩ := List.exists_of_findSome?_eq_some ha
    cases o with
    | memory a' =>
      obtain rfl := Option.some.inj hoa
      obtain ⟨w, rfl⟩ := hops _ ho
      exact hbytes.displacement
    | _ => cases hoa
  simp only [rexBit, rex_of_scan he] at hrow
  refine ⟨_, ds, hrow, ?_, by rw [ha]; rfl, fun a ha => ?_⟩
  · rw [hbehind]
    exact List.prefix_append _ _
  · obtain ⟨w, rfl⟩ := hops a ha
    exact ⟨rfl, rfl, rfl, hdisplacement⟩

theorem addresses_of_scan_mov : ∃ e,
    scan .bits64 false [0x4B, 0x8B, 0x44, 0xA5, 0x10] = .ok e ∧
      ∃ (r : AddressRow) (ds : List UInt8),
      (ModRM.ofByte 0x44).Addresses .bits64 .qword true true r ∧
      r.sib.toList.map Sib.toByte ++ ds <+: [0xA5, 0x10] ∧
      (e.extract .bits64 [0x4B, 0x8B, 0x44, 0xA5, 0x10]).memory?.isSome = true ∧
      ∀ a, .memory a ∈ (e.extract .bits64 [0x4B, 0x8B, 0x44, 0xA5, 0x10]).operands →
        r.Describes a ds := by
  obtain ⟨e, he, hm, hz, ho, hl, hn⟩ : ∃ e,
      scan .bits64 false [0x4B, 0x8B, 0x44, 0xA5, 0x10] = .ok e ∧ e.hasModRM = true ∧
        e.addressSize = .qword ∧ e.operandOffset = 2 ∧ e.length = 5 ∧
        e.namesMemory (.ofByte 0x44) = true := ⟨_, rfl, rfl, rfl, rfl, rfl, rfl⟩
  have hrex : Rex.inEffect .bits64 [0x4B, 0x8B, 0x44, 0xA5, 0x10] =
      some ⟨true, false, true, true⟩ := rfl
  have hrow := addresses_of_scan he hm (by rw [ho]; exact hn)
  rw [ho, hz, hl, hrex] at hrow
  exact ⟨e, he, hrow⟩

end Encoding

end X86
