import Mathlib
import X86.Proofs.LegacyPrefixes
import X86.Proofs.WellFormed

/-! Which registers an instruction can name, by the mode and by the prefixes that extend register
numbers. -/

namespace X86

open Cursor Scan PrefixByte

variable {mode : Mode} {strictLock long rex : Bool} {bytes : List UInt8} {e : Encoding} {h : Head}
  {s : Selection} {c c' : Cursor}

namespace Register

variable {r : Register} {f : RegisterFile} {w : Size} {n : ℕ}

def highBytes : List Register :=
  [⟨.gpr, .byte, 16⟩, ⟨.gpr, .byte, 17⟩, ⟨.gpr, .byte, 18⟩, ⟨.gpr, .byte, 19⟩]

example : highBytes.map name = ["ah", "ch", "dh", "bh"] := rfl

def uniformBytes : List Register :=
  [⟨.gpr, .byte, 4⟩, ⟨.gpr, .byte, 5⟩, ⟨.gpr, .byte, 6⟩, ⟨.gpr, .byte, 7⟩]

example : uniformBytes.map name = ["spl", "bpl", "sil", "dil"] := rfl

lemma mem_highBytes : r ∈ highBytes ↔
    r.file = .gpr ∧ r.width = .byte ∧ 16 ≤ r.index ∧ r.index < 20 := by
  obtain ⟨f, w, n⟩ := r
  have hn : n = 16 ∨ n = 17 ∨ n = 18 ∨ n = 19 ↔ 16 ≤ n ∧ n < 20 := by omega
  simp [highBytes, ← hn, ← and_or_left]

lemma mem_uniformBytes : r ∈ uniformBytes ↔
    r.file = .gpr ∧ r.width = .byte ∧ 4 ≤ r.index ∧ r.index < 8 := by
  obtain ⟨f, w, n⟩ := r
  have hn : n = 4 ∨ n = 5 ∨ n = 6 ∨ n = 7 ↔ 4 ≤ n ∧ n < 8 := by omega
  simp [uniformBytes, ← hn, ← and_or_left]

def legacySizes : List Size := [.byte, .word, .dword]

structure Suits (long rex : Bool) (r : Register) : Prop where
  high : r ∈ highBytes → rex = false
  uniform : r ∈ uniformBytes → rex = true
  extended : r ∉ highBytes → r.file ∈ [.gpr, .xmm, .control, .debug] → 8 ≤ r.index → rex = true
  width : long = false → r.isGpr = true → r.width ∈ legacySizes

lemma suits_of_ne_gpr (hf : f ≠ .gpr) (h8 : f ∈ [.xmm, .control, .debug] → 8 ≤ n → rex = true) :
    (Register.mk f w n).Suits long rex where
  high hr := absurd (mem_highBytes.mp hr).1 hf
  uniform hr := absurd (mem_uniformBytes.mp hr).1 hf
  extended _ hfile := h8 ((List.mem_cons.mp hfile).resolve_left hf)
  width _ hr := absurd (by simpa [isGpr] using hr) hf

lemma suits_highByte (hr : r ∈ highBytes) : r.Suits long false := by
  obtain ⟨-, hwidth, h16, -⟩ := mem_highBytes.mp hr
  exact {
    high := fun _ => rfl
    uniform := fun hr => by
      obtain ⟨-, -, -, h7⟩ := mem_uniformBytes.mp hr
      omega
    extended := fun hn => absurd hr hn
    width := fun _ _ => by simp [hwidth, legacySizes] }

lemma suits_general (hw : long = false → w ∈ legacySizes) (hn : n < 16)
    (hb : w = .byte → 4 ≤ n → n < 8 → rex = true) (h8 : 8 ≤ n → rex = true) :
    (Register.mk .gpr w n).Suits long rex where
  high hr := by
    obtain ⟨-, -, hr, -⟩ := mem_highBytes.mp hr
    exact absurd hn (Nat.not_lt.mpr hr)
  uniform hr := by
    obtain ⟨-, hwidth, h4, h7⟩ := mem_uniformBytes.mp hr
    exact hb hwidth h4 h7
  extended _ _ := h8
  width hlong _ := hw hlong

lemma suits_gpr (hw : long = false → w ∈ legacySizes) (hn : n < 16) (h8 : 8 ≤ n → rex = true) :
    (gpr w n rex).Suits long rex := by
  rw [gpr]
  split <;> rename_i hhigh
  · obtain ⟨rfl, rfl, h4, h7⟩ := hhigh
    refine suits_highByte (mem_highBytes.mpr ⟨rfl, rfl, ?_, ?_⟩) <;>
      simp only [highByteBase] <;> omega
  · refine suits_general hw hn (fun hbyte h4 h7 => ?_) h8
    by_contra hrex
    exact hhigh ⟨hbyte, Bool.eq_false_of_not_eq_true hrex, h4, h7⟩

lemma Suits.index_lt (hr : r.Suits long false) (hhigh : r ∉ highBytes)
    (hf : r.file ∈ [.gpr, .xmm, .control, .debug]) : r.index < 8 := by
  by_contra h8
  exact Bool.false_ne_true (hr.extended hhigh hf (Nat.not_lt.mp h8))

lemma gpr_of_ne_byte (hw : w ≠ .byte) : gpr w n rex = ⟨.gpr, w, n⟩ := by simp [gpr, hw]

end Register

open Register

lemma Memory.isIpRelative_of_isGpr {m : Memory} (hm : ∀ r ∈ m.registers, r.isGpr = true) :
    m.isIpRelative = false := by
  rw [isIpRelative, Option.any_eq_false]
  intro r hr
  have hgpr := hm r (List.mem_append_left _ (Option.mem_toList.mpr hr))
  simp [Register.isIp, eq_of_beq hgpr]

structure Operand.Suits (long rex : Bool) (o : Operand) : Prop where
  registers : ∀ r ∈ o.registers, r.Suits long rex
  address : long = false → ∀ m ∈ o.memory?, ∀ r ∈ m.registers, r.isGpr = true

namespace Operand

lemma suits_register {r : Register} (hr : r.Suits long rex) : (register r).Suits long rex :=
  ⟨by simpa [registers], by simp [memory?]⟩

lemma suits_constant {o : Operand} (ho : o.registers = []) (hm : o.memory? = none) :
    o.Suits long rex := ⟨by simp [ho], by simp [hm]⟩

end Operand

structure Encoding.OfMode (mode : Mode) (e : Encoding) : Prop where
  rex : mode.isLong = false → e.rex = none
  vex : mode.isLong = true → e.isVex = true → e.rex.isSome = true
  register : ∀ v ∈ e.vex, v.register < if mode.isLong then 16 else 8
  operandSize : mode.isLong = false → e.operandSize = .word ∨ e.operandSize = .dword
  addressSize : e.addressSize = .dword ∨ e.addressSize = if mode.isLong then .qword else .word

namespace Head.Continues

variable {p : Prefixes}

lemma isSome_rex (hh : Continues mode p h) (hm : mode.isLong = true) :
    h.prefixes.rex.isSome = (p.rex.isSome || h.vex.isSome) := by
  cases hh with
  | opcode o => simp
  | vex hv =>
    obtain ⟨-, w, bits, o, last, rfl⟩ := hv
    simp [vexRex, hm]

lemma register_lt (hh : Continues mode p h) :
    ∀ v ∈ h.vex, v.register < if mode.isLong then 16 else 8 := by
  cases hh with
  | opcode o => exact nofun
  | vex hv =>
    obtain ⟨-, w, bits, o, last, rfl⟩ := hv
    intro v hv
    obtain rfl : Vex.ofByte mode last = v := Option.some.inj hv
    simp only [Vex.ofByte]
    split <;> omega

end Head.Continues

namespace Encoding

lemma operandSize_ofSelection (hm : mode.isLong = false) (body stop : ℕ) :
    (ofSelection mode h s body stop).operandSize = .word ∨
      (ofSelection mode h s body stop).operandSize = .dword := by
  simp only [ofSelection, Selection.operandSize, hm, Bool.false_eq_true, if_false]
  cases mode <;> split <;> decide

lemma addressSize_ofSelection (body stop : ℕ) :
    (ofSelection mode h s body stop).addressSize = .dword ∨
      (ofSelection mode h s body stop).addressSize = if mode.isLong then .qword else .word := by
  simp only [ofSelection, Prefixes.effectiveAddressSize]
  cases mode <;> split <;> decide

lemma ofMode_of_scan (he : scan mode strictLock bytes = .ok e) : e.OfMode mode ∧
    (mode.isLong = true →
      e.rex.isSome = ((rexIn (bytes.takeWhile (IsLegacy mode ·))).isSome || e.isVex)) := by
  obtain ⟨b, t, hsplit, hb, hP⟩ := exists_lead_of_scan he
  generalize bytes.takeWhile (IsLegacy mode ·) = P at hsplit hP ⊢
  rw [hsplit] at he
  obtain ⟨-, h, s, c', hr, rfl⟩ := (scan_append_eq_ok hP hb).mp he
  obtain ⟨d, hh, -⟩ := Head.run_behindLead_iff.mp hr
  have hcontinues := of_run_of_yields Head.yields_ofLead hh
  have hextended (hm : mode.isLong = true) :
      h.1.prefixes.rex.isSome = ((rexIn P).isSome || h.1.vex.isSome) := by
    rw [hcontinues.isSome_rex hm, Prefixes.summary, Option.isSome_map]
  refine ⟨?_, hextended⟩
  exact {
    rex := fun hm => hcontinues.rex_eq_none hm (by rw [Prefixes.summary, rexIn_eq_none hm hP]; rfl)
    vex := fun hm hv => by
      have hsome : h.1.vex.isSome = true := hv
      exact (hextended hm).trans (by rw [hsome, Bool.or_true])
    register := hcontinues.register_lt
    operandSize := fun hm => operandSize_ofSelection hm _ _
    addressSize := addressSize_ofSelection _ _ }

lemma isSome_rex_of_le_extended {n : Fin 8} {bit : Rex → Bool}
    (hn : 8 ≤ extended n (e.rexBit bit)) : e.rex.isSome = true := by
  cases hrex : e.rex with
  | none =>
    rw [rexBit, hrex] at hn
    exact absurd n.isLt (Nat.not_lt.mpr hn)
  | some r => rfl

namespace OfMode

lemma addressSize_ne_byte (he : e.OfMode mode) : e.addressSize ≠ .byte := by
  rcases he.addressSize with h | h <;> rw [h]
  · decide
  · split <;> decide

lemma addressSize_mem_legacySizes (he : e.OfMode mode) (hm : mode.isLong = false) :
    e.addressSize ∈ legacySizes := by
  rcases he.addressSize with h | h <;> rw [h]
  · decide
  · rw [hm]
    decide

lemma suits_addressRegister (he : e.OfMode mode) {r : Register}
    (hr : IsAddressRegister mode e r) :
    r.Suits mode.isLong e.rex.isSome ∧ (mode.isLong = false → r.isGpr = true) := by
  cases hr with
  | @word n hz hn =>
    rw [gpr_of_ne_byte (by decide)]
    exact ⟨suits_general (fun _ => by decide) (by omega) nofun (by omega), fun _ => rfl⟩
  | ip hlong =>
    have hne : mode.isLong ≠ false := by simp [hlong]
    exact ⟨suits_of_ne_gpr nofun nofun, (absurd · hne)⟩
  | numbered field bit =>
    rw [addressRegister, gpr_of_ne_byte he.addressSize_ne_byte]
    exact ⟨suits_general he.addressSize_mem_legacySizes (extended_lt _ _)
      (absurd · he.addressSize_ne_byte) isSome_rex_of_le_extended, fun _ => rfl⟩

end OfMode

end Encoding

namespace Width

def isLegacy : Width → Bool
  | byte | word | dword | operand | general | atMostDword | native => true
  | _ => false

lemma resolve_mem_legacySizes {k : SizeContext} (hm : k.mode.isLong = false)
    (hz : k.operandSize = .word ∨ k.operandSize = .dword) (hwide : k.wide = false) {w : Width}
    (hw : w.isLegacy = true) : w.resolve k ∈ legacySizes := by
  cases w with
  | byte | word | dword => simp [resolve, legacySizes]
  | operand => rcases hz with hz | hz <;> simp [resolve, hz, legacySizes]
  | general => simp [resolve, hwide, legacySizes]
  | atMostDword => rcases hz with hz | hz <;> simp [resolve, hz, legacySizes]
  | native => simp [resolve, hm, legacySizes]
  | _ => cases hw

end Width

def OperandShape.isLegacy : OperandShape → Bool
  | rm w | rmSplit _ w | reg w | rmReg w | opcodeReg w | generalVex w => w.isLegacy
  | fixed w n => w.isLegacy && n < 4
  | _ => true

/-- Only a VEX prefix, which extends the numbers of registers, gives an instruction a register in
a trailing byte. -/
@[mk_iff]
structure Leaf.Unextended (l : Leaf) : Prop where
  shapes : ∀ s ∈ l.entry.operands, s.isLegacy = true
  vex : .vectorTail ∈ l.entry.operands → l.entry.vexUse = .required

instance (l : Leaf) : Decidable l.Unextended := decidable_of_iff _ (Leaf.unextended_iff l).symm

lemma OpcodeMap.unextended_of_table (m : OpcodeMap) :
    ∀ t ∈ m.table, ∀ l ∈ t.leaves {}, l.Unextended := by
  cases m <;> decide +kernel

namespace Fields

variable {x : Fields} {shape : OperandShape} {o : Operand} {n : ℕ} {w : Width}

structure OfMode (x : Fields) : Prop where
  encoding : x.encoding.OfMode x.mode
  memory : ∀ a ∈ x.memory, ∀ r ∈ a.registers,
    r.Suits x.mode.isLong x.encoding.rex.isSome ∧ (x.mode.isLong = false → r.isGpr = true)

def CanName (x : Fields) (o : Operand) : Prop := o.Suits x.mode.isLong x.encoding.rex.isSome

lemma size_mem_legacySizes (hx : x.OfMode) (hw : w.isLegacy = true)
    (hm : x.mode.isLong = false) : x.size w ∈ legacySizes := by
  refine Width.resolve_mem_legacySizes hm (hx.encoding.operandSize hm) ?_ hw
  simp [Encoding.sizeContext, Encoding.rexBit, hx.encoding.rex hm]

lemma canName_general (hx : x.OfMode) (hw : w.isLegacy = true) (hn : n < 16)
    (h8 : 8 ≤ n → x.encoding.rex.isSome = true) : x.CanName (x.general w n) :=
  Operand.suits_register (suits_gpr (size_mem_legacySizes hx hw) hn h8)

lemma canName_fixed (hx : x.OfMode) (hw : w.isLegacy = true) (hn : n < 4) :
    x.CanName (.register (.gpr (x.size w) n false)) := by
  have hgpr : Register.gpr (x.size w) n false = ⟨.gpr, x.size w, n⟩ :=
    if_neg fun ⟨_, _, h4, _⟩ => absurd hn (Nat.not_lt.mpr h4)
  rw [hgpr]
  exact Operand.suits_register (suits_general (size_mem_legacySizes hx hw) (by omega)
    (by omega) (by omega))

lemma canName_vector (w : Width) (h8 : 8 ≤ n → x.encoding.rex.isSome = true) :
    x.CanName (x.vector w n) :=
  Operand.suits_register (suits_of_ne_gpr nofun fun _ => h8)

lemma canName_memoryAt (hx : x.OfMode) {z : Size} (ho : o ∈ x.memoryAt z) : x.CanName o := by
  obtain ⟨a, ha, rfl⟩ := Option.map_eq_some_iff.mp ho
  refine ⟨fun r hr => (hx.memory a ha r hr).1, fun hm m hmem r hr => ?_⟩
  obtain rfl := Option.some.inj hmem
  exact (hx.memory a ha r hr).2 hm

lemma canName_getD (hx : x.OfMode) (z : Size) (ho : x.CanName o) :
    x.CanName ((x.memoryAt z).getD o) := by
  cases hm : x.memoryAt z with
  | none => exact ho
  | some a => exact canName_memoryAt hx hm

lemma vexNumber_lt_sixteen (hx : x.OfMode) (hn : n ∈ x.vexNumber?) : n < 16 := by
  obtain ⟨v, hv, rfl⟩ := Option.map_eq_some_iff.mp hn
  have hlt := hx.encoding.register v hv
  split at hlt <;> omega

lemma isSome_rex_of_le_vexNumber (hx : x.OfMode) (hn : n ∈ x.vexNumber?) (h8 : 8 ≤ n) :
    x.encoding.rex.isSome = true := by
  obtain ⟨v, hv, rfl⟩ := Option.map_eq_some_iff.mp hn
  cases hm : x.mode.isLong with
  | false =>
    have hlt := hx.encoding.register v hv
    rw [hm] at hlt
    exact absurd hlt (Nat.not_lt.mpr h8)
  | true => exact hx.encoding.vex hm (by simp [Encoding.isVex, hv])

lemma canName_field? (hx : x.OfMode) (hs : shape.isLegacy = true) (ho : o ∈ x.field? shape) :
    x.CanName o := by
  -- only these files have registers with extended numbers
  have other {f : RegisterFile} {z : Size} {n : ℕ} (hf : f ∉ [.gpr, .xmm, .control, .debug]) :
      x.CanName (.register ⟨f, z, n⟩) := by
    refine Operand.suits_register (suits_of_ne_gpr ?_ fun hfile => ?_)
    · exact fun hgpr => hf (hgpr ▸ List.mem_cons_self)
    · exact absurd (List.mem_cons_of_mem _ hfile) hf
  have numbered {f : RegisterFile} {z : Size} (hf : f ≠ .gpr) :
      x.CanName (.register ⟨f, z, x.regNumber⟩) :=
    Operand.suits_register (suits_of_ne_gpr hf fun _ => Encoding.isSome_rex_of_le_extended)
  cases shape with
  | rm w | rmSplit w v =>
    obtain rfl := Option.some.inj ho
    exact canName_getD hx _
      (canName_general hx hs x.rmNumber_lt Encoding.isSome_rex_of_le_extended)
  | memory w => exact canName_memoryAt hx ho
  | reg w =>
    obtain rfl := Option.some.inj ho
    exact canName_general hx hs x.regNumber_lt Encoding.isSome_rex_of_le_extended
  | rmReg w =>
    obtain rfl := Option.some.inj ho
    exact canName_general hx hs x.rmNumber_lt Encoding.isSome_rex_of_le_extended
  | opcodeReg w =>
    obtain rfl := Option.some.inj ho
    exact canName_general hx hs (extended_lt _ _) Encoding.isSome_rex_of_le_extended
  | fixed w n =>
    obtain rfl := Option.some.inj ho
    obtain ⟨hw, hn⟩ := (Bool.and_eq_true _ _).mp hs
    exact canName_fixed hx hw (by simpa [Fin.lt_def] using hn)
  | segment n | segmentReg | stackTop | stack | mmx | mmxRmReg | bound =>
    obtain rfl := Option.some.inj ho
    exact other (by decide)
  | control | debug =>
    obtain rfl := Option.some.inj ho
    exact numbered (by decide)
  | one =>
    obtain rfl := Option.some.inj ho
    exact Operand.suits_constant rfl rfl
  | vector w =>
    obtain rfl := Option.some.inj ho
    exact canName_vector w Encoding.isSome_rex_of_le_extended
  | vectorRm w =>
    obtain rfl := Option.some.inj ho
    exact canName_getD hx _ (canName_vector w Encoding.isSome_rex_of_le_extended)
  | vectorRmReg w =>
    obtain rfl := Option.some.inj ho
    exact canName_vector w Encoding.isSome_rex_of_le_extended
  | vectorVex w =>
    obtain ⟨n, hn, rfl⟩ := Option.map_eq_some_iff.mp ho
    exact canName_vector w (isSome_rex_of_le_vexNumber hx hn)
  | generalVex w =>
    obtain ⟨n, hn, rfl⟩ := Option.map_eq_some_iff.mp ho
    exact canName_general hx hs (vexNumber_lt_sixteen hx hn) (isSome_rex_of_le_vexNumber hx hn)
  | vectorFirst =>
    obtain rfl := Option.some.inj ho
    exact Operand.suits_register (suits_of_ne_gpr nofun (by simp))
  | mmxRm w | boundRm =>
    obtain rfl := Option.some.inj ho
    exact canName_getD hx _ (other (by decide))
  | immediate w | signedByte w | relativeByte | relative | farAddress | direct w | vectorTail =>
    cases ho

lemma canName_operand (hx : x.OfMode) (hs : shape.isLegacy = true)
    (ht : shape = .vectorTail → x.encoding.isVex = true) (ho : o ∈ (x.operand c shape).1) :
    x.CanName o := by
  by_cases htrail : shape.trails = false
  · rw [operand_of_not_trails htrail] at ho
    exact canName_field? hx hs ho
  · cases shape with
    | immediate w | signedByte w | relativeByte | relative | farAddress =>
      obtain rfl := Option.some.inj ho
      exact Operand.suits_constant rfl rfl
    | direct w =>
      obtain rfl := Option.some.inj ho
      refine ⟨nofun, fun _ m hm => ?_⟩
      obtain rfl := Option.some.inj hm
      exact nofun
    | vectorTail =>
      obtain rfl := Option.some.inj ho
      apply canName_vector
      cases hm : x.mode.isLong with
      | false =>
        simp only [Bool.false_eq_true, if_false]
        omega
      | true => exact fun _ => hx.encoding.vex hm (ht rfl)
    | _ => exact absurd rfl htrail

lemma canName_operands (hx : x.OfMode) {ss : List OperandShape}
    (hs : ∀ shape ∈ ss, shape.isLegacy = true) (ht : .vectorTail ∈ ss → x.encoding.isVex = true) :
    ∀ o ∈ (x.operands ss c).1, x.CanName o := by
  intro o ho
  obtain ⟨shape, hshape, d, hd⟩ := exists_of_mem_operands ho
  exact canName_operand hx (hs shape hshape) (fun h => ht (h ▸ hshape)) hd

lemma ofMode_behindOpcode (he : e.OfMode mode) (opcode : UInt8) :
    (behindOpcode mode e opcode c).1.OfMode := by
  refine ⟨by rwa [encoding_behindOpcode, mode_behindOpcode], fun a ha r hr => ?_⟩
  rw [encoding_behindOpcode, mode_behindOpcode]
  obtain ⟨m, d, rfl⟩ := address_of_mem_memory ha
  exact he.suits_addressRegister (Encoding.isAddressRegister_address m d r hr)

end Fields

lemma Encoding.suits_extract (he : scan mode strictLock bytes = .ok e) (hmode : e.OfMode mode) :
    ∀ o ∈ (e.extract mode bytes).operands, o.Suits mode.isLong e.rex.isSome := by
  obtain ⟨h, c, s, c', -, hs, hes⟩ := scan_eq_ok.mp he
  obtain ⟨hacc, ⟨l, hl⟩, -⟩ := Head.accepted_of_scanBody hs
  have hleaf := Opcode.forall_leaves OpcodeMap.unextended_of_table hl.mem
  have hentry : e.entry = l.entry := by rw [hes]; exact hl.entry.symm
  have hmem {shape : OperandShape} (hshape : shape ∈ e.shapes) : shape ∈ l.entry.operands :=
    hentry ▸ mem_operands_of_shapes hshape
  have htail (ht : .vectorTail ∈ e.shapes) : e.isVex = true := by
    have huse := hacc.vexUse
    rw [← hl.entry, hleaf.vex (hmem ht)] at huse
    rw [hes]
    by_contra hv
    exact huse (if_neg hv).symm
  have hx := @Fields.ofMode_behindOpcode mode e ⟨bytes, e.operandOffset⟩ hmode
    (bytes.getD e.opcodeOffset 0)
  rw [extract_operands]
  intro o ho
  have hname := Fields.canName_operands hx (fun shape hshape => hleaf.shapes shape (hmem hshape))
    (by rwa [Fields.encoding_behindOpcode]) o ho
  rwa [Fields.CanName, Fields.encoding_behindOpcode, Fields.mode_behindOpcode] at hname

namespace Instruction

variable {i : Instruction}

def registers (i : Instruction) : List Register := i.operands.flatMap Operand.registers

structure NamesLegacy (i : Instruction) : Prop where
  operandSize : i.operandSize = .word ∨ i.operandSize = .dword
  addressSize : i.addressSize = .word ∨ i.addressSize = .dword
  general : ∀ r ∈ i.registers, r.isGpr = true →
    r ∈ highBytes ∨ r.width ∈ legacySizes ∧ r.index < 8
  numbered : ∀ r ∈ i.registers, r.file ∈ [.xmm, .control, .debug] → r.index < 8
  uniform : ∀ r ∈ i.registers, r ∉ uniformBytes
  memory : ∀ m ∈ i.operands.filterMap Operand.memory?, m.isIpRelative = false ∧
    ∀ r ∈ m.registers, r.isGpr = true

structure NamesLong (rex : Bool) (i : Instruction) : Prop where
  addressSize : i.addressSize = .dword ∨ i.addressSize = .qword
  high : ∀ r ∈ i.registers, r ∈ highBytes → rex = false
  uniform : ∀ r ∈ i.registers, r ∈ uniformBytes → rex = true
  numbered : ∀ r ∈ i.registers, r ∉ highBytes → r.file ∈ [.gpr, .xmm, .control] →
    8 ≤ r.index → rex = true

lemma suits_registers (hops : ∀ o ∈ i.operands, o.Suits long rex) :
    ∀ r ∈ i.registers, r.Suits long rex := by
  intro r hr
  obtain ⟨o, ho, hr⟩ := List.mem_flatMap.mp hr
  exact (hops o ho).registers r hr

lemma namesLegacy_of_suits (hz : i.operandSize = .word ∨ i.operandSize = .dword)
    (ha : i.addressSize = .word ∨ i.addressSize = .dword)
    (hops : ∀ o ∈ i.operands, o.Suits false false) : i.NamesLegacy where
  operandSize := hz
  addressSize := ha
  general r hr hgpr := by
    have hsuits := suits_registers hops r hr
    refine or_iff_not_imp_left.mpr fun hhigh => ⟨hsuits.width rfl hgpr, ?_⟩
    exact hsuits.index_lt hhigh (by simp [eq_of_beq hgpr])
  numbered r hr hfile := by
    have hhigh : r ∉ highBytes := by
      intro hhigh
      simp [(mem_highBytes.mp hhigh).1] at hfile
    exact (suits_registers hops r hr).index_lt hhigh (List.mem_cons_of_mem _ hfile)
  uniform r hr huniform := Bool.false_ne_true ((suits_registers hops r hr).uniform huniform)
  memory m hm := by
    obtain ⟨o, ho, hm⟩ := List.mem_filterMap.mp hm
    have hgpr := (hops o ho).address rfl m hm
    exact ⟨Memory.isIpRelative_of_isGpr hgpr, hgpr⟩

lemma namesLong_of_suits (ha : i.addressSize = .dword ∨ i.addressSize = .qword)
    (hops : ∀ o ∈ i.operands, o.Suits true rex) : i.NamesLong rex where
  addressSize := ha
  high r hr := (suits_registers hops r hr).high
  uniform r hr := (suits_registers hops r hr).uniform
  numbered r hr hhigh hfile := by
    have hmem : r.file ∈ [.gpr, .xmm, .control] ++ [.debug] := List.mem_append_left _ hfile
    exact (suits_registers hops r hr).extended hhigh hmem

/-- Outside 64-bit mode no prefix extends the numbers of registers. In 64-bit mode a REX prefix in
front of the opcode does, and every VEX prefix. -/
theorem registers_of_decode (hi : decode mode strictLock bytes = .ok i) :
    (mode.isLong = false → i.NamesLegacy) ∧
      (mode.isLong = true →
        i.NamesLong ((rexIn (bytes.takeWhile (IsLegacy mode ·))).isSome || i.vex)) := by
  obtain ⟨e, he, rfl⟩ := decode_eq_ok.mp hi
  obtain ⟨hmode, hextends⟩ := Encoding.ofMode_of_scan he
  have haddress := hmode.addressSize
  have hops := Encoding.suits_extract he hmode
  refine ⟨fun hm => ?_, fun hm => ?_⟩
  · rw [hm] at haddress
    rw [hm, hmode.rex hm] at hops
    exact namesLegacy_of_suits (hmode.operandSize hm) haddress.symm hops
  · rw [hm] at haddress
    rw [hm, hextends hm] at hops
    exact namesLong_of_suits haddress hops

theorem registers_of_decode_mov :
    (∃ i, decode .bits32 true [0x88, 0xE5] = .ok i ∧
      i.registers.map Register.name = ["ch", "ah"] ∧ i.NamesLegacy) ∧
    ∃ i, decode .bits64 true [0x40, 0x88, 0xE5] = .ok i ∧
      i.registers.map Register.name = ["bpl", "spl"] ∧ i.NamesLong true := by
  have hlegacy : decode .bits32 true [0x88, 0xE5] =
      .ok ⟨.general .MOV, false, 2, none, .none, .dword, .dword,
        [.register ⟨.gpr, .byte, 17⟩, .register ⟨.gpr, .byte, 16⟩]⟩ := rfl
  have hlong : decode .bits64 true [0x40, 0x88, 0xE5] =
      .ok ⟨.general .MOV, false, 3, none, .none, .dword, .qword,
        [.register ⟨.gpr, .byte, 5⟩, .register ⟨.gpr, .byte, 4⟩]⟩ := rfl
  exact ⟨⟨_, hlegacy, rfl, (registers_of_decode hlegacy).1 rfl⟩,
    ⟨_, hlong, rfl, (registers_of_decode hlong).2 rfl⟩⟩

end Instruction

end X86
