import Mathlib
import X86.Proofs.AttOperands
import X86.Proofs.OperandKinds

/-! The dialect with sizes behind the name tells how wide the memory of a general instruction is: by
a letter, or by a register beside it. -/

namespace X86

open Scan

variable {mode : Mode} {strictLock strictLock' : Bool} {bytes bytes' : List UInt8} {e : Encoding}
  {i j : Instruction} {a b : Memory} {m n : Mnemonic} {c d : Char}

namespace Operand.Kind

def memory? : Kind → Option Size
  | memory w => some w
  | _ => none

def register? : Kind → Option (RegisterFile × Size)
  | register f w => some (f, w)
  | _ => none

end Operand.Kind

namespace Mnemonic

/-- Whether memory and a register beside it may differ in width, which no part of the name tells. -/
def converts : Mnemonic → Bool
  | general .MOVZX | general .MOVSX | general .CRC32 => true
  | _ => false

def shifts : Mnemonic → Bool
  | general .ROL | general .ROR | general .RCL | general .RCR => true
  | general .SHL | general .SHR | general .SAL | general .SAR => true
  | _ => false

def widthBeside (m : Mnemonic) (z : Size) : Size :=
  match m with
  | general .MOVSXD => .dword
  | general .LES | general .LDS | general .LSS | general .LFS | general .LGS => .dword
  | general .BOUND => if z = .word then .dword else .qword
  | _ => z

def isWhole (m : Mnemonic) : Bool :=
  !([some 'b', some 'w', some 'l', some 'q'].contains m.name.toList.getLast?) ||
    reserved.contains (String.ofList m.name.toList.dropLast)

structure Beside (m : Mnemonic) (w : Size) (rs : List (RegisterFile × Size)) : Prop where
  common : ∀ r ∈ rs, r.1 = .gpr ∨ r.1 = .segment ∧ r.2 = .word
  original : m ∉ kin.map Prod.snd
  whole : m.isWhole = true
  width : m.converts = true ∨ m.shifts = true ∨ ∀ r ∈ rs.head?, w = m.widthBeside r.2

def isBeside (m : Mnemonic) (w : Size) (rs : List (RegisterFile × Size)) : Bool :=
  rs.all (fun r => r.1 == .gpr || r.1 == .segment && r.2 == .word) &&
    !((kin.map Prod.snd).contains m) && m.isWhole &&
    (m.converts || m.shifts || rs.head?.all fun r => w == m.widthBeside r.2)

lemma beside_of_isBeside {w : Size} {rs : List (RegisterFile × Size)}
    (h : m.isBeside w rs = true) : m.Beside w rs := by
  simp only [isBeside, Bool.and_eq_true, Bool.or_eq_true, Bool.not_eq_true', List.all_eq_true,
    beq_iff_eq, List.contains_eq_mem, decide_eq_false_iff_not, Option.all_eq_true] at h
  obtain ⟨⟨⟨hcommon, horiginal⟩, hwhole⟩, hwidth⟩ := h
  exact ⟨hcommon, horiginal, hwhole, or_assoc.mp hwidth⟩

end Mnemonic

def SizeContext.plain : List SizeContext :=
  [Mode.bits16, .bits32].flatMap (fun mode =>
    [Size.word, .dword].map fun z => ⟨mode, z, false, false⟩) ++
    [Size.word, .dword, .qword].flatMap fun z =>
      [false, true].map fun wide => ⟨.bits64, z, wide, false⟩

namespace Entry

def kinds (x : Entry) (k : SizeContext) : List (List Operand.Kind) :=
  ((x.operands.filter fun s => !s.usesVexRegister).map (OperandShape.kinds k)).sections

def tells (x : Entry) (w : Size) (rs : List (RegisterFile × Size)) : Bool :=
  x.mnemonic != .general .RETF && (rs.isEmpty || x.mnemonic.isBeside w rs)

def isClear (x : Entry) : Bool :=
  x.mnemonic.classOf != .general || x.mnemonic.isTransfer ||
    SizeContext.plain.all fun k => (x.kinds k).all fun ks =>
      (ks.findSome? Operand.Kind.memory?).all fun w =>
        !(Register.generalSizes.contains w) || x.tells w (ks.filterMap Operand.Kind.register?)

lemma tells_of_isClear {x : Entry} {k : SizeContext} {ks : List Operand.Kind} {w : Size}
    (hx : x.isClear = true) (hclass : x.mnemonic.classOf = .general)
    (htransfer : x.mnemonic.isTransfer = false) (hk : k ∈ SizeContext.plain) (hks : ks ∈ x.kinds k)
    (hmemory : ks.findSome? Operand.Kind.memory? = some w) (hw : w ∈ Register.generalSizes) :
    x.tells w (ks.filterMap Operand.Kind.register?) = true := by
  rw [isClear, hclass, htransfer] at hx
  have htells := List.all_eq_true.mp (List.all_eq_true.mp hx k hk) ks hks
  rw [hmemory] at htells
  simpa [hw] using htells

end Entry

lemma OpcodeMap.isClear_of_table (t : OpcodeMap) :
    ∀ d ∈ t.table, ∀ l ∈ d.leaves {}, l.entry.isClear = true := by
  have hall : (t.table.all fun d => (d.leaves {}).all fun l => l.entry.isClear) = true := by
    cases t <;> decide +kernel
  simpa only [List.all_eq_true] using hall

namespace Operand

lemma findSome?_kind (os : List Operand) :
    (os.map kind).findSome? Kind.memory? = (os.findSome? memory?).map Memory.width := by
  rw [List.findSome?_map, List.map_findSome?]
  congr 1
  funext o
  cases o <;> rfl

lemma filterMap_kind (os : List Operand) : (os.map kind).filterMap Kind.register? =
    (os.filterMap register?).map fun r => (r.file, r.width) := by
  rw [List.filterMap_map, List.map_filterMap]
  congr 1
  funext o
  cases o <;> rfl

end Operand

structure Instruction.Accesses (i : Instruction) (a : Memory) : Prop where
  vex : i.vex = false
  classOf : i.mnemonic.classOf = .general
  transfer : i.mnemonic.isTransfer = false
  memory : i.memory? = some a
  width : a.width ∈ Register.generalSizes

lemma Instruction.Accesses.operands_ne_nil (ha : i.Accesses a) : i.operands ≠ [] := by
  intro h
  have hmemory := ha.memory
  rw [memory?, h] at hmemory
  cases hmemory

namespace Encoding

lemma sizeContext_mem_plain (he : e.OfMode mode) (hsized : e.Sized) (hv : e.isVex = false) :
    e.sizeContext mode ∈ SizeContext.plain := by
  have hnone : e.vex = none := by simpa [isVex] using hv
  rw [sizeContext, vexLong, hnone, Option.any_none]
  cases mode with
  | bits16 | bits32 =>
    rw [rexBit, he.rex rfl, Option.any_none]
    rcases he.operandSize rfl with h | h <;> rw [h] <;> decide
  | bits64 =>
    rcases hsized.operandSize with h | h | h <;> rw [h] <;> cases e.rexBit Rex.w <;> decide

lemma kinds_mem_of_scan (he : scan mode strictLock bytes = .ok e) (hv : e.isVex = false)
    (hne : (e.extract mode bytes).operands ≠ []) :
    (e.extract mode bytes).operands.map Operand.kind ∈ e.entry.kinds (e.sizeContext mode) := by
  have hkinds := kinds_of_scan he
  have hnop : e.isNop = false := by
    by_contra hnop
    rw [kept, shapes, if_pos (Bool.eq_true_of_not_eq_false hnop)] at hkinds
    exact hne (List.forall₂_nil_left_iff.mp hkinds)
  rw [kept, shapes, hnop, hv] at hkinds
  rw [Entry.kinds, List.mem_sections, List.forall₂_map_left_iff, List.forall₂_map_right_iff]
  exact hkinds.flip

lemma tells_of_scan (he : scan mode strictLock bytes = .ok e)
    (ha : (e.extract mode bytes).Accesses a) : e.entry.mnemonic ≠ .general .RETF ∧
      ((e.extract mode bytes).registerOperands ≠ [] → e.entry.mnemonic.Beside a.width
        ((e.extract mode bytes).registerOperands.map fun r => (r.file, r.width))) := by
  have hclass := ha.classOf
  have htransfer := ha.transfer
  change e.mnemonic.classOf = _ at hclass
  change e.mnemonic.isTransfer = _ at htransfer
  rw [mnemonic_of_shared Mnemonic.shared_classOf he] at hclass
  rw [mnemonic_of_shared Mnemonic.shared_isTransfer he] at htransfer
  have hplain := sizeContext_mem_plain (ofMode_of_scan he).1 (sized_of_scan he) ha.vex
  have hmemory := congrArg (Option.map Memory.width) ha.memory
  rw [Instruction.memory?, ← Operand.findSome?_kind] at hmemory
  have hclear := entry_of_scan (P := fun x => x.isClear = true) OpcodeMap.isClear_of_table he
  have htells := Entry.tells_of_isClear hclear hclass htransfer hplain
    (kinds_mem_of_scan he ha.vex ha.operands_ne_nil) hmemory ha.width
  rw [Entry.tells, Operand.filterMap_kind, Bool.and_eq_true, Bool.or_eq_true, bne_iff_ne,
    List.isEmpty_iff, List.map_eq_nil_iff] at htells
  exact ⟨htells.1, fun hr => Mnemonic.beside_of_isBeside (htells.2.resolve_left hr)⟩

end Encoding

namespace Instruction

/-- Whether the width of memory shows in no letter, and not in a register either. -/
def hidesWidth (i : Instruction) : Bool :=
  i.mnemonic.converts || i.mnemonic.shifts && i.operands.any Operand.isRegister

lemma any_isRegister (i : Instruction) :
    i.operands.any Operand.isRegister = !i.registerOperands.isEmpty := by
  rw [registerOperands]
  induction i.operands with
  | nil => rfl
  | cons o os ih =>
    rw [List.any_cons, ih, List.filterMap_cons]
    cases o <;> rfl

lemma beside_of_decode (hi : decode mode strictLock bytes = .ok i) (ha : i.Accesses a)
    (hr : i.registerOperands ≠ []) :
    i.mnemonic.Beside a.width (i.registerOperands.map fun r => (r.file, r.width)) := by
  obtain ⟨e, he, rfl⟩ := decode_eq_ok.mp hi
  have hbeside := (Encoding.tells_of_scan he ha).2 hr
  change e.mnemonic.Beside _ _
  rwa [Encoding.mnemonic_eq_entry he hbeside.original]

lemma common_of_decode (hi : decode mode strictLock bytes = .ok i) (ha : i.Accesses a) :
    i.Common := by
  refine ⟨legible_of_decode hi, ha.transfer, fun r hr => ?_⟩
  have hbeside := beside_of_decode hi ha (List.ne_nil_of_mem hr)
  have hfile := hbeside.common _ (List.mem_map_of_mem hr)
  obtain ⟨o, ho, hor⟩ := List.mem_filterMap.mp hr
  obtain ⟨e, he, rfl⟩ := decode_eq_ok.mp hi
  have hvalid := (Encoding.wellFormed_operands_of_scan he o ho).valid
  cases o with
  | register s =>
    obtain rfl := Option.some.inj hor
    exact Register.mem_common (hvalid s List.mem_cons_self) hfile
  | memory m | short d | near w d | far w s t | immediate v w => cases hor

lemma stem_eq_name (hi : decode mode strictLock bytes = .ok i) (ha : i.Accesses a) :
    Format.Att.stem i = i.mnemonic.name := by
  obtain ⟨e, he, rfl⟩ := decode_eq_ok.mp hi
  have hshared : Mnemonic.Shared (fun m => m == .general .RETF) := by decide
  have hnear := Encoding.mnemonic_of_shared hshared he
  rw [beq_eq_false_iff_ne.mpr (Encoding.tells_of_scan he ha).1] at hnear
  have htransfer := ha.transfer
  rw [Format.Att.stem]
  split
  · rename_i hm
    rw [hm] at htransfer
    cases htransfer
  · rename_i hm
    rw [hm] at htransfer
    cases htransfer
  · rename_i hm
    exact absurd hm (beq_eq_false_iff_ne.mp hnear)
  · rw [name, ha.vex]
    rfl

lemma attName_of_registerOperands (hi : decode mode strictLock bytes = .ok i) (ha : i.Accesses a) :
    if i.registerOperands = [] then ∃ c ∈ ['b', 'w', 'l', 'q'], a.width.suffix? = some c ∧
      Dialect.name .att i = i.mnemonic.name.push c
    else Dialect.name .att i = i.mnemonic.name := by
  have hsuffix : Format.Att.suffix? i =
      if i.registerOperands = [] then a.width.suffix? else none := by
    rw [Format.Att.suffix?, ha.vex, ha.classOf, ha.transfer, any_isRegister, ha.memory]
    by_cases hr : i.registerOperands = [] <;> simp [hr]
  rw [Dialect.name, Format.Att.name, stem_eq_name hi ha, hsuffix]
  split
  · rename_i hr
    have hwidth : ∀ w ∈ Register.generalSizes, w.suffix?.isSome = true := by decide
    obtain ⟨c, hc⟩ := Option.isSome_iff_exists.mp (hwidth _ ha.width)
    rw [if_pos hr, hc] at hsuffix
    rw [hc]
    exact ⟨c, Reading.Att.mem_of_suffix? hsuffix, rfl, rfl⟩
  · rfl

end Instruction

namespace Size

lemma eq_of_suffix? {w z : Size} (hw : w.suffix? = some c) (hz : z.suffix? = some c) : w = z := by
  cases w <;> cases z <;> simp [suffix?, ← hw] at hz ⊢ <;> simp [suffix?] at hw

end Size

namespace Mnemonic

lemma namesake_of_general (hm : m.classOf = .general) (ht : m.isTransfer = false) :
    m.namesake = m := by
  rw [namesake.eq_def]
  split
  · cases ht
  · cases ht
  · cases hm
  · cases hm
  · rfl

lemma isName_push (m : Mnemonic) (hc : c ∈ ['b', 'w', 'l', 'q']) : IsName (m.name.push c) := by
  have hflags : ∀ w ∈ flagWords, w.toList.getLast? ∉ ['b', 'w', 'l', 'q'].map some := by decide
  have hblank : ' ' ∉ ['b', 'w', 'l', 'q'] := by decide
  constructor
  · rw [String.toList_push, List.mem_append, not_or, List.mem_singleton]
    exact ⟨m.blank_notMem_name, fun h => hblank (h ▸ hc)⟩
  · intro h
    apply hflags _ h
    rw [String.toList_push, List.getLast?_concat]
    exact List.mem_map_of_mem hc

lemma name_ne_push (hm : m.isWhole = true) (hc : c ∈ ['b', 'w', 'l', 'q']) :
    m.name ≠ n.name.push c := by
  intro h
  have htoList : m.name.toList = n.name.toList ++ [c] := by rw [h, String.toList_push]
  have hletter : some c ∈ ['b', 'w', 'l', 'q'].map some := List.mem_map_of_mem hc
  rw [isWhole, htoList, List.getLast?_concat, List.dropLast_concat, String.ofList_toList] at hm
  simp only [List.contains_eq_mem, Bool.or_eq_true, Bool.not_eq_true', decide_eq_false_iff_not,
    decide_eq_true_eq] at hm
  exact hm.elim (absurd hletter) n.name_notMem_reserved

end Mnemonic

namespace Instruction

lemma isName_attName (hi : decode mode strictLock bytes = .ok i) (ha : i.Accesses a) :
    IsName (Dialect.name .att i) := by
  have hname := attName_of_registerOperands hi ha
  split at hname
  · obtain ⟨c, hc, -, hname⟩ := hname
    rw [hname]
    exact i.mnemonic.isName_push hc
  · rw [hname]
    exact i.mnemonic.isName_name

lemma width_eq_of_registerOperands (hi : decode mode strictLock bytes = .ok i) (ha : i.Accesses a)
    (hhides : i.hidesWidth = false) {r : Register} {rs : List Register}
    (hr : i.registerOperands = r :: rs) : a.width = i.mnemonic.widthBeside r.width := by
  have hbeside := beside_of_decode hi ha (by simp [hr])
  rw [hidesWidth, any_isRegister, hr, Bool.or_eq_false_iff] at hhides
  obtain ⟨hconverts, hshifts⟩ := hhides
  rcases hbeside.width with h | h | h
  · rw [h] at hconverts
    cases hconverts
  · rw [h] at hshifts
    cases hshifts
  · exact h (r.file, r.width) (by rw [hr]; rfl)

lemma width_eq_of_registers (hi : decode mode strictLock bytes = .ok i)
    (hj : decode mode strictLock' bytes' = .ok j) (ha : i.Accesses a) (hb : j.Accesses b)
    (hhides : i.hidesWidth = false) (hr : i.registerOperands ≠ [])
    (hname : i.mnemonic.name = j.mnemonic.name)
    (hbehind : i.behindName .att = j.behindName .att) : a.width = b.width := by
  have hmnemonic : i.mnemonic = j.mnemonic := by
    have hnamesake := Mnemonic.namesake_eq_of_name_eq hname
    rwa [Mnemonic.namesake_of_general ha.classOf ha.transfer,
      Mnemonic.namesake_of_general hb.classOf hb.transfer] at hnamesake
  have hregisters : i.registerOperands = j.registerOperands :=
    registerOperands_eq_of_operandChars (common_of_decode hi ha) (common_of_decode hj hb)
      ha.operands_ne_nil hb.operands_ne_nil
      (operandChars_of_behindName ha.operands_ne_nil hbehind)
  have hhides' : j.hidesWidth = false := by
    rwa [hidesWidth, any_isRegister, ← hmnemonic, ← hregisters, ← any_isRegister]
  obtain ⟨r, rs, hrs⟩ := List.exists_cons_of_ne_nil hr
  calc a.width = i.mnemonic.widthBeside r.width := width_eq_of_registerOperands hi ha hhides hrs
    _ = j.mnemonic.widthBeside r.width := by rw [hmnemonic]
    _ = b.width := (width_eq_of_registerOperands hj hb hhides' (hregisters ▸ hrs)).symm

/-- Equal texts are of memory of one width, unless neither a letter nor a register shows it. -/
theorem width_eq_of_text_eq (hi : decode mode strictLock bytes = .ok i)
    (hj : decode mode strictLock' bytes' = .ok j) (ha : i.Accesses a) (hb : j.Accesses b)
    (hhides : i.hidesWidth = false) (h : i.text .att {} = j.text .att {}) : a.width = b.width := by
  obtain ⟨hname, hbehind⟩ := eq_of_text_eq (isName_attName hi ha) (isName_attName hj hb) h
  have hnamei := attName_of_registerOperands hi ha
  have hnamej := attName_of_registerOperands hj hb
  -- a letter on both sides, on one of them, or on neither
  split at hnamei <;> rename_i hri <;> split at hnamej <;> rename_i hrj
  · obtain ⟨c, -, hac, hnamei⟩ := hnamei
    obtain ⟨d, -, hbd, hnamej⟩ := hnamej
    rw [hnamei, hnamej] at hname
    exact Size.eq_of_suffix? hac ((String.push_inj.mp hname).2 ▸ hbd)
  · obtain ⟨c, hc, -, hnamei⟩ := hnamei
    rw [hnamei, hnamej] at hname
    exact absurd hname.symm (Mnemonic.name_ne_push (beside_of_decode hj hb hrj).whole hc)
  · obtain ⟨d, hd, -, hnamej⟩ := hnamej
    rw [hnamei, hnamej] at hname
    exact absurd hname (Mnemonic.name_ne_push (beside_of_decode hi ha hri).whole hd)
  · exact width_eq_of_registers hi hj ha hb hhides hri (by rw [← hnamei, ← hnamej, hname]) hbehind

theorem width_eq_of_text_eq_mov : ∃ i j a b, decode .bits32 true [0x89, 0x18] = .ok i ∧
    decode .bits32 true [0x89, 0x58, 0x00] = .ok j ∧ i.Accesses a ∧ j.Accesses b ∧
    i.hidesWidth = false ∧ i.text .att {} = j.text .att {} ∧ a.width = b.width := by
  have hi : decode .bits32 true [0x89, 0x18] = .ok ⟨.general .MOV, false, 2, none, .none, .dword,
      .dword, [.memory ⟨.dword, some ⟨.gpr, .dword, 0⟩, none, 1, 0⟩,
        .register ⟨.gpr, .dword, 3⟩]⟩ := rfl
  have hj : decode .bits32 true [0x89, 0x58, 0x00] = .ok ⟨.general .MOV, false, 3, none, .none,
      .dword, .dword, [.memory ⟨.dword, some ⟨.gpr, .dword, 0⟩, none, 1, 0⟩,
        .register ⟨.gpr, .dword, 3⟩]⟩ := rfl
  refine ⟨_, _, _, _, hi, hj, ⟨rfl, rfl, rfl, rfl, by decide⟩, ⟨rfl, rfl, rfl, rfl, by decide⟩, rfl,
    rfl, ?_⟩
  exact width_eq_of_text_eq hi hj ⟨rfl, rfl, rfl, rfl, by decide⟩ ⟨rfl, rfl, rfl, rfl, by decide⟩
    rfl rfl

/-- Conversions from 8 bits and from 16, checksums of 8 bits and of 32, and each shift by `cl`. -/
theorem width_ne_of_text_eq : List.Forall (fun p : List UInt8 × List UInt8 =>
      ∃ i j a b, decode .bits32 true p.1 = .ok i ∧ decode .bits32 true p.2 = .ok j ∧
        i.Accesses a ∧ j.Accesses b ∧ i.text .att {} = j.text .att {} ∧ a.width ≠ b.width)
    [([0x0F, 0xB6, 0x00], [0x0F, 0xB7, 0x00]), ([0x0F, 0xBE, 0x00], [0x0F, 0xBF, 0x00]),
      ([0xF2, 0x0F, 0x38, 0xF0, 0x00], [0xF2, 0x0F, 0x38, 0xF1, 0x00]),
      ([0xD2, 0x00], [0xD3, 0x00]), ([0xD2, 0x08], [0xD3, 0x08]), ([0xD2, 0x10], [0xD3, 0x10]),
      ([0xD2, 0x18], [0xD3, 0x18]), ([0xD2, 0x20], [0xD3, 0x20]), ([0xD2, 0x28], [0xD3, 0x28]),
      ([0xD2, 0x30], [0xD3, 0x30]), ([0xD2, 0x38], [0xD3, 0x38])] := by
  rw [List.forall_iff_forall_mem]
  intro p hp
  fin_cases hp
  all_goals exact ⟨_, _, _, _, rfl, rfl, ⟨rfl, rfl, rfl, rfl, by decide⟩,
    ⟨rfl, rfl, rfl, rfl, by decide⟩, by decide, by decide⟩

end Instruction

end X86
