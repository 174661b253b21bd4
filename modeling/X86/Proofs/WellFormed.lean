import Mathlib
import X86.Proofs.Layout
import X86.Proofs.OperandRegisters
import X86.Proofs.ScanResults

/-! A decoded instruction is well formed, and no operand of its entry is lost. -/

namespace X86

open Cursor Scan

variable {mode : Mode} {strictLock : Bool} {bytes : List UInt8} {e : Encoding} {h : Head}
  {s : Selection} {c c' : Cursor}

lemma Cursor.littleEndian_next_lt (c : Cursor) (n : ℕ) : littleEndian (c.next n) < 256 ^ n := by
  have hlen : (c.next n).length ≤ n := by simp [Cursor.next]
  calc littleEndian (c.next n) < 256 ^ (c.next n).length := littleEndian_lt _
    _ ≤ 256 ^ n := Nat.pow_le_pow_right (by decide) hlen

namespace OperandShape

def isNameable : OperandShape → Bool
  | rm w | rmSplit _ w | reg w | rmReg w | opcodeReg w | fixed w _ | generalVex w => w.isGeneral
  | _ => true

structure Fits (s : OperandShape) (o : Operand) : Prop where
  memory : s.memoryOnly = true → o.isMemory = true
  register : s.registerOnly = true → o.isRegister = true

end OperandShape

@[mk_iff]
structure Leaf.Nameable (l : Leaf) : Prop where
  mnemonic : l.entry.mnemonic ≠ .invalid
  length : l.entry.operands.length ≤ 4
  shapes : ∀ s ∈ l.entry.operands, s.isNameable = true

instance (l : Leaf) : Decidable l.Nameable := decidable_of_iff _ (Leaf.nameable_iff l).symm

lemma OpcodeMap.nameable_of_table (m : OpcodeMap) :
    ∀ t ∈ m.table, ∀ l ∈ t.leaves {}, l.Nameable := by
  cases m <;> decide +kernel

namespace Fields

variable {x : Fields} {shape : OperandShape} {o : Operand}

structure Sound (x : Fields) : Prop where
  sized : x.encoding.Sized
  register : ∀ v ∈ x.encoding.vex, v.register < 16
  memory : ∀ a ∈ x.memory, a.WellFormed x.encoding.addressSize

def Allows (x : Fields) : OperandShape → Prop
  | .segmentReg => x.modrm.reg ≤ 5
  | .bound => x.regNumber ≤ 3
  | .boundRm => x.memory = none → x.rmNumber ≤ 3
  | _ => True

lemma size_ne_unset (hx : x.Sound) (w : Width) : x.size w ≠ .unset :=
  w.resolve_ne_unset hx.sized.operandSize

lemma vexLong_of_size (hx : x.Sound) {w : Width} (hw : x.size w = .ymmword) :
    x.encoding.vexLong = true :=
  Width.vexLong_of_resolve (k := x.encoding.sizeContext x.mode) hx.sized.operandSize hw

lemma wellFormed_gpr (hx : x.Sound) {w : Width} (hw : w.isGeneral = true) {n : ℕ} (hn : n < 16)
    (rex : Bool) : (Operand.register (.gpr (x.size w) n rex)).WellFormed x.encoding.addressSize
      x.encoding.vexLong := by
  have hsize := Width.resolve_mem_generalSizes (k := x.encoding.sizeContext x.mode)
    hx.sized.operandSize hw
  refine Operand.wellFormed_register (Register.valid_gpr hsize hn) ?_ ?_
  · rw [Register.width_gpr]
    exact size_ne_unset hx w
  · rw [Register.width_gpr]
    exact vexLong_of_size hx

lemma wellFormed_general (hx : x.Sound) {w : Width} (hw : w.isGeneral = true) {n : ℕ}
    (hn : n < 16) : (x.general w n).WellFormed x.encoding.addressSize x.encoding.vexLong :=
  wellFormed_gpr hx hw hn _

lemma wellFormed_vector (hx : x.Sound) (w : Width) {n : ℕ} (hn : n < 16) :
    (x.vector w n).WellFormed x.encoding.addressSize x.encoding.vexLong := by
  refine Operand.wellFormed_register (by simpa [Register.valid] using hn) ?_ ?_
  · dsimp only
    split <;> decide
  · intro hw
    by_cases hy : x.size w = .ymmword
    · exact vexLong_of_size hx hy
    · simp [hy] at hw

lemma wellFormed_memoryAt (hx : x.Sound) {z : Size} (hz : z ≠ .unset)
    (hl : z = .ymmword → x.encoding.vexLong = true) (ho : o ∈ x.memoryAt z) :
    o.WellFormed x.encoding.addressSize x.encoding.vexLong := by
  obtain ⟨a, ha, rfl⟩ := Option.map_eq_some_iff.mp ho
  obtain ⟨hvalid, hwidth, hscale⟩ := hx.memory a ha
  exact Operand.wellFormed_memory ⟨hvalid, hwidth, hscale⟩ hz hl

lemma wellFormed_getD (hx : x.Sound) {z : Size} (hz : z ≠ .unset)
    (hl : z = .ymmword → x.encoding.vexLong = true)
    (ho : x.memory = none → o.WellFormed x.encoding.addressSize x.encoding.vexLong) :
    ((x.memoryAt z).getD o).WellFormed x.encoding.addressSize x.encoding.vexLong := by
  cases hm : x.memory with
  | none =>
    rw [memoryAt, hm]
    exact ho hm
  | some a => exact wellFormed_memoryAt hx hz hl (by simp [memoryAt, hm])

lemma wellFormed_memoryOr (hx : x.Sound) (w : Width)
    (ho : o.WellFormed x.encoding.addressSize x.encoding.vexLong) :
    (x.memoryOr w o).WellFormed x.encoding.addressSize x.encoding.vexLong :=
  wellFormed_getD hx (size_ne_unset hx w) (vexLong_of_size hx) fun _ => ho

lemma regNumber_lt (x : Fields) : x.regNumber < 16 := extended_lt _ _

lemma rmNumber_lt (x : Fields) : x.rmNumber < 16 := extended_lt _ _

lemma vexNumber_lt (hx : x.Sound) {n : ℕ} (hn : n ∈ x.vexNumber?) : n < 16 := by
  obtain ⟨v, hv, rfl⟩ := Option.map_eq_some_iff.mp hn
  exact hx.register v hv

lemma wellFormed_field? (hx : x.Sound) (hs : shape.isNameable = true) (ha : x.Allows shape)
    (ho : o ∈ x.field? shape) :
    o.WellFormed x.encoding.addressSize x.encoding.vexLong := by
  have small {f : RegisterFile} {w : Size} {n : ℕ} (hv : (Register.mk f w n).valid = true)
      (hw : w ∈ [Size.word, .dword, .qword, .tbyte, .xmmword]) :
      (Operand.register ⟨f, w, n⟩).WellFormed x.encoding.addressSize x.encoding.vexLong := by
    refine Operand.wellFormed_register hv ?_ ?_ <;> rintro rfl <;> simp at hw
  have native : x.size .native ∈ [Size.word, .dword, .qword, .tbyte, .xmmword] := by
    simp only [size, Width.resolve]
    split <;> decide
  -- a number comes from r/m, reg, the opcode or a VEX prefix, and has the bound of its source
  cases shape with
  | rm w | rmSplit w v =>
    obtain rfl := Option.some.inj ho
    exact wellFormed_memoryOr hx w (wellFormed_general hx hs x.rmNumber_lt)
  | memory w => exact wellFormed_memoryAt hx (size_ne_unset hx w) (vexLong_of_size hx) ho
  | reg w =>
    obtain rfl := Option.some.inj ho
    exact wellFormed_general hx hs x.regNumber_lt
  | rmReg w =>
    obtain rfl := Option.some.inj ho
    exact wellFormed_general hx hs x.rmNumber_lt
  | opcodeReg w =>
    obtain rfl := Option.some.inj ho
    exact wellFormed_general hx hs (extended_lt _ _)
  | fixed w n =>
    obtain rfl := Option.some.inj ho
    exact wellFormed_gpr hx hs (by omega) false
  | segment n =>
    obtain rfl := Option.some.inj ho
    exact small (Register.valid_segment n) (by decide)
  | segmentReg =>
    obtain rfl := Option.some.inj ho
    have hreg : x.modrm.reg.val ≤ 5 := ha
    exact small (by simp [Register.valid]; omega) (by decide)
  | control | debug =>
    obtain rfl := Option.some.inj ho
    exact small (by simpa [Register.valid] using x.regNumber_lt) native
  | one =>
    obtain rfl := Option.some.inj ho
    exact Operand.wellFormed_constant rfl rfl (by decide) (by simp [Operand.width])
  | stackTop | vectorFirst =>
    obtain rfl := Option.some.inj ho
    exact small rfl (by decide)
  | stack | mmx | mmxRmReg =>
    obtain rfl := Option.some.inj ho
    exact small (by simp [Register.valid]) (by decide)
  | vector w =>
    obtain rfl := Option.some.inj ho
    exact wellFormed_vector hx w x.regNumber_lt
  | vectorRm w =>
    obtain rfl := Option.some.inj ho
    exact wellFormed_memoryOr hx w (wellFormed_vector hx w x.rmNumber_lt)
  | vectorRmReg w =>
    obtain rfl := Option.some.inj ho
    exact wellFormed_vector hx w x.rmNumber_lt
  | vectorVex w =>
    obtain ⟨n, hn, rfl⟩ := Option.map_eq_some_iff.mp ho
    exact wellFormed_vector hx w (vexNumber_lt hx hn)
  | generalVex w =>
    obtain ⟨n, hn, rfl⟩ := Option.map_eq_some_iff.mp ho
    exact wellFormed_general hx hs (vexNumber_lt hx hn)
  | mmxRm w =>
    obtain rfl := Option.some.inj ho
    exact wellFormed_memoryOr hx w (small (by simp [Register.valid]) (by decide))
  | bound =>
    obtain rfl := Option.some.inj ho
    have hreg : x.regNumber ≤ 3 := ha
    exact small (by simp [Register.valid]; omega) (by decide)
  | boundRm =>
    obtain rfl := Option.some.inj ho
    refine wellFormed_getD hx (by split <;> decide) (by split <;> simp) fun hm => ?_
    have hrm : x.rmNumber ≤ 3 := ha hm
    exact small (by simp [Register.valid]; omega) (by decide)
  | immediate w | signedByte w | relativeByte | relative | farAddress | direct w | vectorTail =>
    cases ho

lemma immediateSize_ne_unset (hx : x.Sound) (w : Width) : x.immediateSize w ≠ .unset := by
  cases w with
  | atMostDword => rcases hx.sized.operandSize with h | h | h <;> simp [immediateSize, h]
  | _ => exact size_ne_unset hx _

lemma vexLong_of_immediateSize (hx : x.Sound) {w : Width} (hw : x.immediateSize w = .ymmword) :
    x.encoding.vexLong = true := by
  cases w with
  | atMostDword => rcases hx.sized.operandSize with h | h | h <;> simp [immediateSize, h] at hw
  | _ => exact vexLong_of_size hx hw

lemma wellFormed_operand (hx : x.Sound) (hs : shape.isNameable = true) (ha : x.Allows shape)
    (ho : o ∈ (x.operand c shape).1) :
    o.WellFormed x.encoding.addressSize x.encoding.vexLong := by
  by_cases ht : shape.trails = false
  · rw [operand_of_not_trails ht] at ho
    exact wellFormed_field? hx hs ha ho
  · have hsize := hx.sized.operandSize
    cases shape with
    | immediate w =>
      obtain rfl := Option.some.inj ho
      exact Operand.wellFormed_constant rfl rfl (immediateSize_ne_unset hx w)
        (vexLong_of_immediateSize hx)
    | signedByte w =>
      obtain rfl := Option.some.inj ho
      exact Operand.wellFormed_constant rfl rfl (size_ne_unset hx w) (vexLong_of_size hx)
    | relativeByte =>
      obtain rfl := Option.some.inj ho
      exact Operand.wellFormed_constant rfl rfl nofun nofun
    | relative =>
      obtain rfl := Option.some.inj ho
      refine Operand.wellFormed_constant rfl rfl ?_ ?_ <;> intro hw <;>
        rcases hsize with h | h | h <;> simp [Operand.width, h] at hw
    | farAddress =>
      obtain rfl := Option.some.inj ho
      refine Operand.wellFormed_constant rfl rfl ?_ ?_ <;> simp only [Operand.width] <;>
        split <;> simp
    | direct w =>
      obtain rfl := Option.some.inj ho
      exact Operand.wellFormed_memory ⟨by simp [Memory.registers, Memory.direct],
        by simp [Memory.registers, Memory.direct], by simp [Memory.direct]⟩ (size_ne_unset hx w)
        (vexLong_of_size hx)
    | vectorTail =>
      obtain rfl := Option.some.inj ho
      refine wellFormed_vector hx .vector ?_
      have hb : littleEndian ((c.bytes.drop c.position).take 1) < 256 := c.littleEndian_next_lt 1
      split <;> omega
    | _ => exact absurd rfl ht

lemma exists_of_mem_operands {ss : List OperandShape} (ho : o ∈ (x.operands ss c).1) :
    ∃ shape ∈ ss, ∃ d, o ∈ (x.operand d shape).1 := by
  induction ss generalizing c with
  | nil => simp [operands] at ho
  | cons shape ss ih =>
    simp only [operands, List.mem_append, Option.mem_toList] at ho
    rcases ho with ho | ho
    · exact ⟨shape, List.mem_cons_self, c, ho⟩
    · obtain ⟨y, hy, d, hd⟩ := ih ho
      exact ⟨y, List.mem_cons_of_mem _ hy, d, hd⟩

lemma wellFormed_operands (hx : x.Sound) {ss : List OperandShape}
    (hs : ∀ shape ∈ ss, shape.isNameable = true ∧ x.Allows shape) :
    ∀ o ∈ (x.operands ss c).1, o.WellFormed x.encoding.addressSize x.encoding.vexLong := by
  intro o ho
  obtain ⟨shape, hshape, d, hd⟩ := exists_of_mem_operands ho
  exact wellFormed_operand hx (hs shape hshape).1 (hs shape hshape).2 hd

/-- The shapes that have an operand: a legacy encoding lacks the register of a VEX prefix. -/
def keeps (x : Fields) (shape : OperandShape) : Bool :=
  x.encoding.isVex || !shape.usesVexRegister

lemma fits_operand (ho : o ∈ (x.operand c shape).1) : shape.Fits o := by
  cases shape with
  | memory w =>
    obtain ⟨a, -, rfl⟩ := Option.map_eq_some_iff.mp ho
    exact ⟨fun _ => rfl, nofun⟩
  | rmReg w | vectorRmReg w | mmxRmReg | stack =>
    obtain rfl := Option.some.inj ho
    exact ⟨nofun, fun _ => rfl⟩
  | _ => exact ⟨nofun, nofun⟩

def present (x : Fields) (shape : OperandShape) : Bool :=
  x.keeps shape && (x.memory.isSome || !shape.memoryOnly)

lemma isSome_operand_of_present (hp : x.present shape = true) (c : Cursor) :
    (x.operand c shape).1.isSome = true := by
  simp only [present, keeps, Bool.and_eq_true, Bool.or_eq_true, Bool.not_eq_true'] at hp
  obtain ⟨hv, hm⟩ := hp
  exact isSome_operand (fun h => hm.resolve_right (by simp [h]))
    (fun h => hv.resolve_right (by simp [h])) c

lemma operand_of_absent (hp : x.present shape = false) (c : Cursor) :
    x.operand c shape = (none, c) := by
  simp only [present, keeps, Bool.and_eq_false_iff, Bool.or_eq_false_iff, Bool.not_eq_false'] at hp
  rcases hp with ⟨hv, hu⟩ | ⟨hm, hu⟩
  · exact operand_of_lacking hu hv c
  · cases shape with
    | memory w =>
      obtain hm : x.memory = none := by simpa using hm
      simp [operand, field?, memoryAt, hm]
    | _ => cases hu

lemma forall₂_operands_present (ss : List OperandShape) :
    List.Forall₂ (fun shape o => ∃ d, o ∈ (x.operand d shape).1) (ss.filter x.present)
      (x.operands ss c).1 := by
  -- a shape that is absent has no operand, so both lists pass over it
  induction ss generalizing c with
  | nil => exact .nil
  | cons shape ss ih =>
    cases hp : x.present shape with
    | true =>
      obtain ⟨o, ho⟩ := Option.isSome_iff_exists.mp (isSome_operand_of_present hp c)
      rw [List.filter_cons_of_pos hp]
      simp only [operands, ho, Option.toList_some, List.singleton_append]
      exact .cons ⟨c, ho⟩ ih
    | false =>
      rw [List.filter_cons_of_neg (by simp [hp])]
      simp only [operands, operand_of_absent hp]
      exact ih

lemma fits_operands_present (ss : List OperandShape) :
    List.Forall₂ OperandShape.Fits (ss.filter x.present) (x.operands ss c).1 :=
  (forall₂_operands_present ss).imp fun _ _ ⟨_, ho⟩ => fits_operand ho

lemma forall₂_operands {ss : List OperandShape}
    (hm : ss.any OperandShape.memoryOnly = true → x.memory.isSome = true) :
    List.Forall₂ (fun shape o => ∃ d, o ∈ (x.operand d shape).1) (ss.filter x.keeps)
      (x.operands ss c).1 := by
  have hpresent : ∀ shape ∈ ss, x.present shape = x.keeps shape := by
    intro shape hs
    cases ho : shape.memoryOnly with
    | false => simp [present, ho]
    | true => simp [present, hm (List.any_eq_true.mpr ⟨shape, hs, ho⟩)]
  rw [← List.filter_congr hpresent]
  exact forall₂_operands_present ss

structure Agrees (x : Fields) (e : Encoding) (s : Selection) : Prop where
  encoding : x.encoding = e
  modrm : ∀ m ∈ s.modrm, x.modrm = m
  memory : x.memory.isSome = s.isMemory

lemma modrm_behindModRM (m : ModRM) (opcode : UInt8) :
    (behindModRM mode e opcode m c).1.modrm = m := by
  simp only [behindModRM]
  split <;> rfl

lemma isSome_memory_behindModRM (m : ModRM) (opcode : UInt8) :
    (behindModRM mode e opcode m c).1.memory.isSome = e.namesMemory m := by
  simp only [behindModRM, Encoding.namesMemory]
  split <;> rename_i hm
  · simp [hm]
  · simpa using hm

lemma agrees_behindOpcode (he : e.entry = s.entry) (hm : e.hasModRM = s.modrm.isSome)
    (ht : ModRM.Taken none c s.modrm c') (opcode : UInt8) :
    (behindOpcode mode e opcode c).1.Agrees e s := by
  rcases ht with ⟨hs, -⟩ | ⟨-, b, hb, hs, -⟩
  · have hread : behindOpcode mode e opcode c = (⟨mode, e, opcode, .ofByte 0, none⟩, c) := by
      simp [behindOpcode, hm, hs]
    rw [hread]
    exact ⟨rfl, by simp [hs], by simp [Selection.isMemory, hs]⟩
  · have hread : behindOpcode mode e opcode c =
        behindModRM mode e opcode (ModRM.ofByte b) (c.advance 1) := by
      simp [behindOpcode, hm, hs, readUnsigned_one hb]
    refine ⟨encoding_behindOpcode opcode, ?_, ?_⟩
    · simp [hread, hs, modrm_behindModRM]
    · rw [hread, isSome_memory_behindModRM]
      simp [Encoding.namesMemory, Selection.isMemory, hs, he]

lemma address_of_mem_memory {a : Memory} {opcode : UInt8}
    (ha : a ∈ (behindOpcode mode e opcode c).1.memory) : ∃ m d, a = (e.address mode m d).1 := by
  simp only [behindOpcode, behindModRM] at ha
  split at ha
  · split at ha
    · cases ha
    · exact ⟨_, _, (Option.some.inj ha).symm⟩
  · cases ha

lemma sound_behindOpcode (he : e.Sized) (hv : ∀ v ∈ e.vex, v.register < 16) (opcode : UInt8) :
    (behindOpcode mode e opcode c).1.Sound := by
  refine ⟨by rwa [encoding_behindOpcode], by rwa [encoding_behindOpcode], fun a ha => ?_⟩
  rw [encoding_behindOpcode]
  obtain ⟨m, d, rfl⟩ := address_of_mem_memory ha
  exact Encoding.wellFormed_address he m d

lemma allows_of_accepted (hs : s.Accepted mode strictLock h) (hx : x.Agrees e s)
    (he : e.rex = h.prefixes.rex) (ho : shape ∈ s.entry.operands) : x.Allows shape := by
  have hfield (hu : shape.usesModRM = true) : s.fieldAllowed e.rex x.modrm shape = true := by
    obtain ⟨m, hm⟩ := Option.isSome_iff_exists.mp (hs.modrm (List.any_eq_true.mpr ⟨shape, ho, hu⟩))
    have hall := hs.fields m hm
    rw [Selection.fieldsAllowed, Bool.and_eq_true] at hall
    rw [hx.modrm m hm, he]
    exact List.all_eq_true.mp hall.2 shape ho
  cases shape with
  | segmentReg =>
    have := hfield rfl
    simp only [Selection.fieldAllowed, Bool.and_eq_true, decide_eq_true_eq] at this
    exact this.1
  | bound =>
    have := hfield rfl
    simpa [Selection.fieldAllowed, Allows, regNumber, hx.encoding, Encoding.rexBit] using this
  | boundRm =>
    intro hm
    have hmem : s.isMemory = false := by rw [← hx.memory, hm, Option.isSome_none]
    have := hfield rfl
    simpa [Selection.fieldAllowed, hmem, rmNumber, hx.encoding, Encoding.rexBit] using this
  | _ => trivial

end Fields

namespace Mnemonic

variable {m : Mnemonic}

lemma forOperandSize_ne_invalid (hm : m ≠ .invalid) (n : ℕ) : m.forOperandSize n ≠ .invalid := by
  rw [forOperandSize.eq_def]
  split <;> simp_all

lemma forAddressSize_ne_invalid (hm : m ≠ .invalid) (n : ℕ) : m.forAddressSize n ≠ .invalid := by
  rw [forAddressSize.eq_def]
  split <;> simp_all

lemma wide_ne_invalid (hm : m ≠ .invalid) : m.wide ≠ .invalid := by
  rw [wide.eq_def]
  split <;> simp_all

end Mnemonic

namespace Encoding

def family (e : Encoding) : Mnemonic :=
  if e.entry.exception = .exchangeOrNop then .general (if e.rexBit Rex.b then .XCHG else .NOP)
  else e.entry.mnemonic

lemma family_induction {P : Mnemonic → Prop} (hentry : P e.entry.mnemonic)
    (hexchange : e.entry.exception = .exchangeOrNop → P (.general .XCHG) ∧ P (.general .NOP)) :
    P e.family := by
  rw [family]
  split <;> rename_i hx
  · split
    · exact (hexchange hx).1
    · exact (hexchange hx).2
  · exact hentry

lemma mnemonic_induction {P : Mnemonic → Prop} (hentry : P e.entry.mnemonic)
    (hexchange : e.entry.exception = .exchangeOrNop → P (.general .XCHG) ∧ P (.general .NOP))
    (hoperand : ∀ m n, P m → P (m.forOperandSize n))
    (haddress : ∀ m n, P m → P (m.forAddressSize n)) (hwide : ∀ m, P m → P m.wide) :
    P e.mnemonic := by
  have hsized :
      P ((e.family.forOperandSize e.operandSize.bits).forAddressSize e.addressSize.bits) :=
    haddress _ _ (hoperand _ _ (family_induction hentry hexchange))
  rw [mnemonic]
  split
  · exact hwide _ hsized
  · exact hsized

lemma mnemonic_ne_invalid (he : e.entry.mnemonic ≠ .invalid) : e.mnemonic ≠ .invalid :=
  mnemonic_induction (P := (· ≠ .invalid)) he (fun _ => ⟨nofun, nofun⟩)
    (fun _ n hm => Mnemonic.forOperandSize_ne_invalid hm n)
    (fun _ n hm => Mnemonic.forAddressSize_ne_invalid hm n) fun _ hm => Mnemonic.wide_ne_invalid hm

end Encoding

/-- An instruction all of whose parts are set and whose registers exist; `long` is the L bit of
its VEX prefix. -/
structure Instruction.WellFormed (i : Instruction) (long : Bool) : Prop where
  mnemonic : i.mnemonic ≠ .invalid
  operandSize : i.operandSize.IsGeneral
  addressSize : i.addressSize.IsGeneral
  segment : ∀ r ∈ i.segment, r.valid = true
  operands : ∀ o ∈ i.operands, o.WellFormed i.addressSize long
  names : ∀ r ∈ i.segment.toList ++ i.operands.flatMap Operand.registers, r.name ≠ "?"
  length : i.operands.length ≤ 4

namespace Encoding

def kept (e : Encoding) : List OperandShape :=
  e.shapes.filter fun s => e.isVex || !s.usesVexRegister

lemma length_kept (e : Encoding) : e.kept.length = if e.isNop then 0
    else e.entry.operands.length -
      if e.isVex then 0 else e.entry.operands.countP OperandShape.usesVexRegister := by
  simp only [kept, shapes]
  by_cases hn : e.isNop = true
  · simp [hn]
  · cases hv : e.isVex with
    | true => simp [hn]
    | false =>
      have hcount := List.length_eq_countP_add_countP OperandShape.usesVexRegister
        (l := e.entry.operands)
      have hneg : e.entry.operands.countP (fun s => !s.usesVexRegister) =
          e.entry.operands.countP (fun s => ¬s.usesVexRegister = true) :=
        List.countP_congr fun s _ => by simp
      simp only [hn, Bool.false_or, Bool.false_eq_true, if_false]
      rw [← List.countP_eq_length_filter, hneg]
      omega

lemma length_kept_le (he : e.entry.operands.length ≤ 4) : e.kept.length ≤ 4 := by
  rw [length_kept]
  split <;> omega

lemma mem_operands_of_shapes {shape : OperandShape} (hs : shape ∈ e.shapes) :
    shape ∈ e.entry.operands := by
  rw [shapes] at hs
  split at hs
  · simp at hs
  · exact hs

lemma agrees_read (hs : (h.scanBody mode strictLock).run c = .ok (s, c')) (hpos : 0 < c.position)
    (he : e = ofSelection mode h s c.position c'.position) :
    (Fields.read mode c.bytes e).1.Agrees e s := by
  obtain ⟨-, -, c₁, -, ht, -⟩ := Head.accepted_of_scanBody hs
  have hoffset : e.operandOffset = c.position := by
    rw [he]
    exact Nat.sub_add_cancel hpos
  rw [Fields.read, hoffset]
  exact Fields.agrees_behindOpcode (by rw [he]; rfl) (by rw [he]; rfl) ht _

lemma isSome_memory_read (hs : (h.scanBody mode strictLock).run c = .ok (s, c'))
    (hpos : 0 < c.position) (he : e = ofSelection mode h s c.position c'.position)
    (hany : e.shapes.any OperandShape.memoryOnly = true) :
    (Fields.read mode c.bytes e).1.memory.isSome = true := by
  obtain ⟨hacc, ⟨l, hl⟩, -⟩ := Head.accepted_of_scanBody hs
  have hentry : e.entry = s.entry := by rw [he]; rfl
  obtain ⟨m, hms, hm⟩ := hl.namesMemory_of_memoryOnly hacc hentry hany
  rw [(agrees_read hs hpos he).memory]
  simpa [Selection.isMemory, namesMemory, Option.mem_def.mp hms, hentry] using hm

lemma wellFormed_ofSelection (hsound : h.Sound)
    (hs : (h.scanBody mode strictLock).run c = .ok (s, c')) (hpos : 0 < c.position)
    (he : e = ofSelection mode h s c.position c'.position) :
    (∀ o ∈ (e.extract mode c.bytes).operands, o.WellFormed e.addressSize e.vexLong) ∧
      List.Forall₂ OperandShape.Fits e.kept (e.extract mode c.bytes).operands := by
  obtain ⟨hacc, ⟨l, hl⟩, -⟩ := Head.accepted_of_scanBody hs
  have hentry : e.entry = s.entry := by rw [he]; rfl
  have hrex : e.rex = h.prefixes.rex := by rw [he]; rfl
  have hsized : e.Sized := by
    rw [he]
    exact sized_ofSelection ..
  have hvex : ∀ v ∈ e.vex, v.register < 16 := by
    rw [he]
    exact hsound.register
  have hname := Opcode.forall_leaves OpcodeMap.nameable_of_table hl.mem
  have hx := agrees_read hs hpos he
  rw [extract_operands]
  constructor
  · intro o ho
    have hfields := @Fields.sound_behindOpcode mode e ⟨c.bytes, e.operandOffset⟩ hsized hvex
      (c.bytes.getD e.opcodeOffset 0)
    have hops := Fields.wellFormed_operands hfields (fun shape hshape => ?_) o ho
    · rwa [Fields.encoding_behindOpcode] at hops
    · have hmem : shape ∈ s.entry.operands := hentry ▸ mem_operands_of_shapes hshape
      exact ⟨hname.shapes shape (by rwa [hl.entry]), Fields.allows_of_accepted hacc hx hrex hmem⟩
  · have hkeeps : (Fields.read mode c.bytes e).1.keeps =
        fun s => e.isVex || !s.usesVexRegister := by
      funext shape
      rw [Fields.keeps, hx.encoding]
    rw [kept, ← hkeeps]
    exact (Fields.forall₂_operands (isSome_memory_read hs hpos he)).imp
      fun _ _ ⟨_, ho⟩ => Fields.fits_operand ho

end Encoding

namespace Instruction

/-- A decoded instruction is well formed, and it has an operand for every shape of its entry; only
the register of a VEX prefix is missing where there is no such prefix. -/
theorem wellFormed_of_decode {i : Instruction} (hi : decode mode strictLock bytes = .ok i) :
    ∃ e, Encoding.scan mode strictLock bytes = .ok e ∧ i.vex = e.isVex ∧ i.WellFormed e.vexLong ∧
      List.Forall₂ OperandShape.Fits e.kept i.operands ∧
      i.operands.length = if e.isNop then 0
        else e.entry.operands.length -
          if e.isVex then 0 else e.entry.operands.countP OperandShape.usesVexRegister := by
  obtain ⟨e, he, rfl⟩ := decode_eq_ok.mp hi
  obtain ⟨h, c, s, c', hh, hs, hes⟩ := Encoding.scan_eq_ok.mp he
  have hsound : h.Sound := of_run_of_yields Head.yields_scan hh
  obtain ⟨-, ⟨l, hl⟩, -⟩ := Head.accepted_of_scanBody hs
  have hname := Opcode.forall_leaves OpcodeMap.nameable_of_table hl.mem
  have hentry : e.entry = l.entry := by rw [hes]; exact hl.entry.symm
  have hsized : e.Sized := by
    rw [hes]
    exact Encoding.sized_ofSelection ..
  obtain ⟨hops, hfits⟩ :=
    Encoding.wellFormed_ofSelection hsound hs (Head.position_pos_of_scan hh) hes
  rw [show c.bytes = bytes from bytes_of_run hh] at hops hfits
  have hsegment : ∀ r ∈ e.segment, r.valid = true := by
    rw [hes]
    exact hsound.segment
  have hlength := hfits.length_eq
  refine ⟨e, he, rfl, ?_, hfits, hlength ▸ e.length_kept⟩
  exact {
    mnemonic := Encoding.mnemonic_ne_invalid (hentry ▸ hname.mnemonic)
    operandSize := hsized.operandSize
    addressSize := hsized.addressSize
    segment := hsegment
    operands := hops
    names := by
      intro r hr
      rw [List.mem_append, Option.mem_toList, List.mem_flatMap] at hr
      rcases hr with hr | ⟨o, ho, hr⟩
      · exact Register.name_ne_of_valid (hsegment r hr)
      · exact Register.name_ne_of_valid ((hops o ho).valid r hr)
    length := hlength ▸ Encoding.length_kept_le (hentry ▸ hname.length) }

theorem wellFormed_of_decode_vaddps : ∃ i e,
    decode .bits64 true [0xC4, 0xA1, 0x74, 0x58, 0x44, 0x8B, 0x10] = .ok i ∧
      Encoding.scan .bits64 true [0xC4, 0xA1, 0x74, 0x58, 0x44, 0x8B, 0x10] = .ok e ∧
      i.vex = e.isVex ∧ i.WellFormed e.vexLong ∧
      List.Forall₂ OperandShape.Fits e.kept i.operands ∧
      i.operands.length = if e.isNop then 0
        else e.entry.operands.length -
          if e.isVex then 0 else e.entry.operands.countP OperandShape.usesVexRegister := by
  have hi : decode .bits64 true [0xC4, 0xA1, 0x74, 0x58, 0x44, 0x8B, 0x10] =
      .ok ⟨.sse .ADDPS, true, 7, none, .none, .dword, .qword,
        [.register ⟨.xmm, .ymmword, 0⟩, .register ⟨.xmm, .ymmword, 1⟩,
          .memory ⟨.ymmword, some ⟨.gpr, .qword, 3⟩, some ⟨.gpr, .qword, 9⟩, 4, 16⟩]⟩ := rfl
  obtain ⟨e, he⟩ := wellFormed_of_decode hi
  exact ⟨_, e, hi, he⟩

end Instruction

end X86
