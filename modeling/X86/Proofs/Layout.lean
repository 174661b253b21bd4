import Mathlib
import X86.Proofs.AddressBytes
import X86.Proofs.Extraction
import X86.Proofs.OpcodeMaps
import X86.Proofs.Selections

/-! Where the parts of an instruction stand behind its opcode byte. -/

namespace X86

open Cursor Scan

variable {mode : Mode} {strictLock : Bool} {bytes : List UInt8} {e : Encoding} {h : Head}
  {s : Selection} {l : Leaf} {c c' : Cursor}

lemma Prefixes.isGeneral_effectiveAddressSize (p : Prefixes) :
    (p.effectiveAddressSize mode).IsGeneral := by
  unfold effectiveAddressSize Size.IsGeneral
  cases mode <;> split <;> decide

lemma Selection.isGeneral_operandSize (s : Selection) (h : Head) :
    (s.operandSize mode h).IsGeneral := by
  unfold operandSize Size.IsGeneral
  cases mode <;> simp only [Mode.isLong] <;> split_ifs <;> decide

def Encoding.namesMemory (e : Encoding) (m : ModRM) : Bool :=
  !(m.isRegister || e.entry.alwaysRegister)

lemma Selection.Accepted.isMemory_of_memoryOnly (hs : s.Accepted mode strictLock h)
    (hr : s.entry.alwaysRegister = false)
    (hm : s.entry.operands.any OperandShape.memoryOnly = true) :
    ∃ m ∈ s.modrm, m.isRegister = false := by
  have huses : s.entry.usesModRM = true := by
    obtain ⟨o, ho, hmo⟩ := List.any_eq_true.mp hm
    refine List.any_eq_true.mpr ⟨o, ho, ?_⟩
    cases o with
    | memory w => rfl
    | _ => cases hmo
  obtain ⟨m, hmod⟩ := Option.isSome_iff_exists.mp (hs.modrm huses)
  refine ⟨m, hmod, ?_⟩
  have hf := hs.fields m hmod
  by_contra hreg
  simp only [fieldsAllowed, isMemory, hmod, hr, hm, Entry.allowsRegister] at hf
  simp [hreg] at hf

structure Layout where
  modrm : Option ModRM
  sib : Option Sib
  displacement : List UInt8
  trailing : List UInt8

namespace Layout

def toBytes (y : Layout) : List UInt8 :=
  y.modrm.toList.map ModRM.toByte ++ y.sib.toList.map Sib.toByte ++ y.displacement ++ y.trailing

structure Holds (y : Layout) (mode : Mode) (e : Encoding) (i : Instruction) : Prop where
  modrm : y.modrm.isSome = e.hasModRM
  memory : ∀ m ∈ y.modrm, e.namesMemory m = true → ∃ a, i.memory? = some a ∧
    m.AddressBytes e.addressSize y.sib a.displacement y.displacement
  register : (∀ m ∈ y.modrm, e.namesMemory m = false) → y.sib = none ∧ y.displacement = []
  trailing : e.Trail mode e.shapes i.operands y.trailing

end Layout

namespace Fields

variable {x : Fields} {a : Memory} {ss : List OperandShape}

lemma field?_of_addressed (hx : x.memory = some a) {s : OperandShape} (hs : s.addressed = true) :
    ∃ w, x.field? s = some (.memory { a with width := w }) := by
  cases s <;> simp_all [field?, memoryOr, memoryAt, OperandShape.addressed]

lemma memory?_field? {s : OperandShape} (hs : s.addressed = false) :
    (x.field? s).bind Operand.memory? = none := by
  cases s <;> simp_all [field?, Operand.memory?, vector, general, stack, mmx, bound,
    OperandShape.addressed]

lemma memory?_operand {s : OperandShape} (hs : s.addressed = false) (hd : s.isDirect = false)
    (c : Cursor) : (x.operand c s).1.bind Operand.memory? = none := by
  cases ht : s.trails with
  | false =>
    rw [operand_of_not_trails ht]
    exact memory?_field? hs
  | true =>
    cases s with
    | direct w => cases hd
    | immediate w | signedByte w | relativeByte | relative | farAddress | vectorTail => rfl
    | _ => cases ht

lemma memory?_operands (hx : x.memory = some a) (hs : ss.any OperandShape.addressed = true)
    (hd : ss.any OperandShape.isDirect = false) :
    ∃ w, (x.operands ss c).1.findSome? Operand.memory? = some { a with width := w } := by
  induction ss generalizing c with
  | nil => simp at hs
  | cons s ss ih =>
    simp only [List.any_cons, Bool.or_eq_true, Bool.or_eq_false_iff] at hs hd
    simp only [operands, List.findSome?_append]
    cases ha : s.addressed with
    | true =>
      obtain ⟨w, hw⟩ := field?_of_addressed hx ha
      rw [operand_of_not_trails (OperandShape.not_trails_of_addressed ha), hw]
      exact ⟨w, rfl⟩
    | false =>
      have hnone : (x.operand c s).1.toList.findSome? Operand.memory? = none := by
        have := @memory?_operand x s ha hd.1 c
        cases ho : (x.operand c s).1 <;> simp_all
      rw [hnone, Option.none_or]
      exact ih (hs.resolve_left (by simp [ha])) hd.2

lemma behindModRM_of_addressTaken {m : ModRM} {o : UInt8} (he : e.entry = s.entry)
    (hm : s.modrm = some m) (h : s.AddressTaken e.addressSize c c') :
    ∃ n sib bs, c' = c.advance n ∧ (behindModRM mode e o m c).2 = c' ∧
      c.next n = sib.toList.map Sib.toByte ++ bs ∧
      (e.namesMemory m = true → ∃ a, (behindModRM mode e o m c).1.memory = some a ∧
        m.AddressBytes e.addressSize sib a.displacement bs) ∧
      (e.namesMemory m = false → sib = none ∧ bs = []) := by
  have hmem : s.isMemory = e.namesMemory m := by
    simp [Selection.isMemory, Encoding.namesMemory, hm, he]
  unfold behindModRM
  rcases h with ⟨m', hm', hs, h⟩ | ⟨hs, rfl⟩
  · obtain rfl : m = m' := by simpa [hm] using hm'
    rw [hmem] at hs
    obtain ⟨hreg, halways⟩ : m.isRegister = false ∧ e.entry.alwaysRegister = false := by
      simpa [Encoding.namesMemory] using hs
    obtain ⟨n, sib, bs, hn, hpos, hbytes, ha⟩ :=
      @Encoding.addressBytes_of_skipAddress mode _ _ e m hreg h
    refine ⟨n, sib, bs, hn, ?_, hbytes, fun _ => ?_, by simp [hs]⟩
    · simpa [hreg, halways] using hpos
    · simpa [hreg, halways] using ha
  · rw [hmem] at hs
    rw [if_pos (by simpa only [Encoding.namesMemory, Bool.not_eq_false'] using hs)]
    exact ⟨0, none, [], rfl, rfl, rfl, by simp [hs], fun _ => ⟨rfl, rfl⟩⟩

lemma behindOpcode_of_taken {c₁ c₂ : Cursor} {o : UInt8} (he : e.entry = s.entry)
    (hm : e.hasModRM = s.modrm.isSome) (ht : ModRM.Taken none c s.modrm c₁)
    (ha : s.AddressTaken e.addressSize c₁ c₂) :
    ∃ n sib bs, c₂ = c.advance n ∧ (behindOpcode mode e o c).2 = c₂ ∧
      c.next n = s.modrm.toList.map ModRM.toByte ++ sib.toList.map Sib.toByte ++ bs ∧
      (∀ m ∈ s.modrm, e.namesMemory m = true → ∃ a, (behindOpcode mode e o c).1.memory = some a ∧
        m.AddressBytes e.addressSize sib a.displacement bs) ∧
      ((∀ m ∈ s.modrm, e.namesMemory m = false) → sib = none ∧ bs = []) := by
  rcases ht with ⟨hs, rfl⟩ | ⟨-, b, hb, hs, rfl⟩
  · have hmem : s.isMemory = false := by simp [Selection.isMemory, hs]
    obtain rfl : c₂ = c₁ := by simpa [Selection.AddressTaken, hs, hmem] using ha
    have hread : behindOpcode mode e o c₂ = (⟨mode, e, o, .ofByte 0, none⟩, c₂) := by
      unfold behindOpcode
      rw [if_neg (by simp [hm, hs])]
    rw [hread, hs]
    exact ⟨0, none, [], rfl, rfl, rfl, by simp, fun _ => ⟨rfl, rfl⟩⟩
  · obtain ⟨n, sib, bs, rfl, hpos, hbytes, hmem, hreg⟩ :=
      @behindModRM_of_addressTaken mode e s _ _ (ModRM.ofByte b) o he hs ha
    have hread : behindOpcode mode e o c = behindModRM mode e o (ModRM.ofByte b) (c.advance 1) := by
      unfold behindOpcode
      rw [if_pos (by simp [hm, hs]), readUnsigned_one hb]
      simp only [UInt8.ofNat_toNat]
    rw [hread]
    refine ⟨1 + n, sib, bs, advance_advance, hpos, ?_, ?_, ?_⟩
    · rw [next_add, next_one hb, hbytes, hs]
      simp [ModRM.toByte_ofByte]
    · simpa [hs] using hmem
    · simpa [hs] using hreg

end Fields

lemma Entry.trailingBytes_eq_zero {e : Entry} (he : e.operands.any OperandShape.trails = false)
    (z a : Size) : e.trailingBytes z a = 0 := by
  refine List.sum_eq_zero fun n hn => ?_
  obtain ⟨s, hs, rfl⟩ := List.mem_map.mp hn
  exact OperandShape.trailingBytes_of_not_trails (by simpa using List.any_eq_false.mp he s hs) z a

namespace Encoding

lemma sum_length_shapes (hl : l.Consistent) (he : l.entry = e.entry) {x : Fields}
    (hx : x.encoding = e) :
    (e.shapes.map x.length).sum = e.entry.trailingBytes e.operandSize e.addressSize := by
  subst hx
  unfold shapes
  split <;> rename_i hn
  · have hex : l.entry.exception = .exchangeOrNop := by
      simp only [isNop, Bool.and_eq_true, beq_iff_eq] at hn
      rw [he, hn.1]
    exact (Entry.trailingBytes_eq_zero (he ▸ (hl.exchange hex).2) _ _).symm
  · rfl

lemma shapes_of_usesModRM (hl : l.Consistent) (he : l.entry = e.entry) (hu : l.usesModRM = true) :
    e.shapes = e.entry.operands := by
  refine if_neg fun hn => ?_
  simp only [isNop, Bool.and_eq_true, beq_iff_eq, ← he] at hn
  have := (hl.exchange hn.1).1
  simp [hu] at this

end Encoding

namespace Leaf.Selects

variable {m : ModRM}

lemma namesMemory_of_memoryOnly (hl : l.Selects mode h s) (hs : s.Accepted mode strictLock h)
    (he : e.entry = s.entry) (hany : e.shapes.any OperandShape.memoryOnly = true) :
    ∃ m ∈ s.modrm, e.namesMemory m = true := by
  have hany : s.entry.operands.any OperandShape.memoryOnly = true := by
    unfold Encoding.shapes at hany
    split at hany
    · simp at hany
    · rwa [he] at hany
  have halways : s.entry.alwaysRegister = false := by
    by_contra halways
    have := (Opcode.consistent_of_leaves hl.mem).register (by rw [hl.entry]; simpa using halways)
    simp [hl.entry, hany] at this
  obtain ⟨m, hms, hm⟩ := hs.isMemory_of_memoryOnly halways hany
  exact ⟨m, hms, by simp [Encoding.namesMemory, he, hm, halways]⟩

lemma addressed_of_namesMemory (hl : l.Selects mode h s) (hs : s.Accepted mode strictLock h)
    (he : e.entry = s.entry) (hms : m ∈ s.modrm) (hm : e.namesMemory m = true) :
    e.shapes.any OperandShape.addressed = true ∧ e.shapes.any OperandShape.isDirect = false := by
  have hcons := Opcode.consistent_of_leaves hl.mem
  have hentry : l.entry = e.entry := hl.entry.trans he.symm
  have huses := hl.hasModRM hms
  obtain ⟨hreg, halways⟩ : m.isRegister = false ∧ e.entry.alwaysRegister = false := by
    simpa [Encoding.namesMemory] using hm
  have hform := hl.hasForm hs hms
  rw [hreg] at hform
  rw [Encoding.shapes_of_usesModRM hcons hentry huses, ← hentry]
  exact ⟨hcons.addressed hform (hentry ▸ halways), hcons.direct huses⟩

end Leaf.Selects

namespace Encoding

lemma sized_ofSelection (h : Head) (s : Selection) (body stop : ℕ) :
    (ofSelection mode h s body stop).Sized :=
  ⟨s.isGeneral_operandSize h, h.prefixes.isGeneral_effectiveAddressSize⟩

lemma sized_of_scan (he : scan mode strictLock bytes = .ok e) : e.Sized := by
  obtain ⟨h, c, s, c', -, -, rfl⟩ := scan_eq_ok.mp he
  exact sized_ofSelection ..

lemma exists_leaf_of_scan {P : Leaf → Prop}
    (hP : ∀ m : OpcodeMap, ∀ t ∈ m.table, ∀ l ∈ t.leaves {}, P l)
    (he : scan mode strictLock bytes = .ok e) : ∃ l, P l ∧ l.entry = e.entry := by
  obtain ⟨h, c, s, c', -, hs, rfl⟩ := scan_eq_ok.mp he
  obtain ⟨-, ⟨l, hl⟩, -⟩ := Head.accepted_of_scanBody hs
  exact ⟨l, Opcode.forall_leaves hP hl.mem, hl.entry⟩

lemma entry_of_scan {P : Entry → Prop}
    (hP : ∀ m : OpcodeMap, ∀ t ∈ m.table, ∀ l ∈ t.leaves {}, P l.entry)
    (he : scan mode strictLock bytes = .ok e) : P e.entry := by
  obtain ⟨l, hl, hentry⟩ := exists_leaf_of_scan (P := fun l => P l.entry) hP he
  exact hentry ▸ hl

lemma layout_ofSelection (hs : (h.scanBody mode strictLock).run c = .ok (s, c'))
    (hpos : 0 < c.position) (he : e = ofSelection mode h s c.position c'.position) :
    (e.finish mode c.bytes).position = c'.position ∧
      ∃ y : Layout, c.next (c'.position - c.position) = y.toBytes ∧
        y.Holds mode e (e.extract mode c.bytes) := by
  obtain ⟨hacc, ⟨l, hl⟩, c₁, c₂, ht, ha, rfl, hlen⟩ := Head.accepted_of_scanBody hs
  have hentry : e.entry = s.entry := by rw [he]; rfl
  have hmodrm : e.hasModRM = s.modrm.isSome := by rw [he]; rfl
  have hoffset : e.operandOffset = c.position := by
    rw [he]
    exact Nat.sub_add_cancel hpos
  have hcons := Opcode.consistent_of_leaves hl.mem
  set r := Fields.read mode c.bytes e with hr
  have hread : r = Fields.behindOpcode mode e (c.bytes.getD e.opcodeOffset 0) c := by
    rw [hr, Fields.read, hoffset]
  obtain ⟨n, sib, displacement, rfl, hc₂, hnext, hmem, hreg⟩ :=
    @Fields.behindOpcode_of_taken mode e s c c₁ c₂ (c.bytes.getD e.opcodeOffset 0) hentry hmodrm ht
      (by rw [he]; exact ha)
  rw [← hread] at hc₂ hmem
  have hx : r.1.encoding = e := by rw [hread, Fields.encoding_behindOpcode]
  have hm : r.1.mode = mode := by rw [hread, Fields.mode_behindOpcode]
  have hsized : r.1.encoding.Sized := by
    rw [hx, he]
    exact sized_ofSelection ..
  have hsum : (e.shapes.map r.1.length).sum = s.trailing mode h := by
    rw [sum_length_shapes hcons (hl.entry.trans hentry.symm) hx, he]
    rfl
  -- a form for memory only has passed its check, so the address is there
  have hmemory (hany : e.shapes.any OperandShape.memoryOnly = true) :
      r.1.memory.isSome = true := by
    obtain ⟨m, hms, hnames⟩ := hl.namesMemory_of_memoryOnly hacc hentry hany
    obtain ⟨a, ha, -⟩ := hmem m hms hnames
    rw [ha, Option.isSome_some]
  -- behind the address the operands take just the bytes that the scan has stepped over
  obtain ⟨hfin, htrail⟩ := @Fields.trail_operands r.1 (c.advance n) e.shapes hsized hmemory
    (by rw [hsum]; exact hlen)
  rw [hsum, hx, hm] at htrail
  rw [hsum] at hfin
  refine ⟨?_, ⟨s.modrm, sib, displacement, (c.advance n).next (s.trailing mode h)⟩, ?_, ?_⟩
  · rw [finish, ← hr, hc₂, hfin]
  · rw [Layout.toBytes, ← hnext, ← next_add]
    congr 1
    simp only [advance_position]
    omega
  · refine ⟨hmodrm.symm, fun m hms hnames => ?_, hreg, ?_⟩
    · obtain ⟨a, ha, hbytes⟩ := hmem m hms hnames
      obtain ⟨haddr, hdirect⟩ := hl.addressed_of_namesMemory hacc hentry hms hnames
      obtain ⟨w, hw⟩ := @Fields.memory?_operands (c.advance n) r.1 a e.shapes ha haddr hdirect
      refine ⟨{ a with width := w }, ?_, hbytes⟩
      rw [Instruction.memory?, extract_operands, ← hr, hc₂, hw]
    · rw [extract_operands, ← hr, hc₂]
      exact htrail

lemma position_finish_of_scan (he : scan mode strictLock bytes = .ok e) :
    (e.finish mode bytes).position = e.length := by
  obtain ⟨h, c, s, c', hh, hs, rfl⟩ := scan_eq_ok.mp he
  rw [show bytes = c.bytes from (bytes_of_run hh).symm]
  exact (layout_ofSelection hs (Head.position_pos_of_scan hh) rfl).1

/-- The scanner and the extractor agree on where the parts of an instruction stand, and the operands
give back the bytes that they were read from. -/
theorem layout_of_scan (he : scan mode strictLock bytes = .ok e) :
    (e.finish mode bytes).position = e.length ∧
      ∃ y : Layout, (bytes.take e.length).drop e.operandOffset = y.toBytes ∧
        y.Holds mode e (e.extract mode bytes) := by
  obtain ⟨h, c, s, c', hh, hs, rfl⟩ := scan_eq_ok.mp he
  have hpos := Head.position_pos_of_scan hh
  have hoffset : (ofSelection mode h s c.position c'.position).operandOffset = c.position :=
    Nat.sub_add_cancel hpos
  obtain ⟨hfin, y, hy, hholds⟩ := layout_ofSelection hs hpos rfl
  rw [hoffset, List.drop_take, show bytes = c.bytes from (bytes_of_run hh).symm]
  exact ⟨hfin, y, hy, hholds⟩

theorem layout_of_scan_mov : ∃ e,
    scan .bits32 false [0xC7, 0x44, 0x24, 0x08, 0x78, 0x56, 0x34, 0x12] = .ok e ∧
      (e.finish .bits32 [0xC7, 0x44, 0x24, 0x08, 0x78, 0x56, 0x34, 0x12]).position = e.length ∧
      ∃ y : Layout, ([0xC7, 0x44, 0x24, 0x08, 0x78, 0x56, 0x34, 0x12].take e.length).drop
          e.operandOffset = y.toBytes ∧
        y.Holds .bits32 e (e.extract .bits32 [0xC7, 0x44, 0x24, 0x08, 0x78, 0x56, 0x34, 0x12]) := by
  obtain ⟨e, he⟩ : ∃ e,
      scan .bits32 false [0xC7, 0x44, 0x24, 0x08, 0x78, 0x56, 0x34, 0x12] = .ok e := ⟨_, rfl⟩
  exact ⟨e, he, layout_of_scan he⟩

end Encoding

end X86
