import Mathlib
import X86.Proofs.OperandKinds
import X86.Proofs.OperandText
import X86.Proofs.RegisterNamespace

/-! The dialect with sizes beside the operands names the operation, but for the width of a jump or a
call through memory. -/

namespace X86

open Scan

variable {mode : Mode} {strictLock : Bool} {bytes : List UInt8} {e : Encoding} {i j : Instruction}

namespace Mnemonic

def isScalar : Mnemonic → Bool
  | sse .MOVSD | sse .CMPSD => true
  | _ => false

lemma shared_isScalar : Shared isScalar := by decide

end Mnemonic

@[mk_iff]
structure Entry.Named (x : Entry) : Prop where
  far : x.mnemonic.isFar = true → x.operands = [.farAddress] ∨ x.operands = [.memory .farPointer]
  near : x.mnemonic.isTransfer = true → x.mnemonic.isFar = false →
    x.operands = [.relativeByte] ∨ x.operands = [.relative] ∨
      x.operands = [.rm .operand] ∧ x.longSize = .qword
  string : x.mnemonic.isString = true → x.operands = []
  scalar : x.mnemonic.isScalar = true → x.operands.any (fun s => !s.usesVexRegister) = true

instance (x : Entry) : Decidable x.Named := decidable_of_iff _ (Entry.named_iff x).symm

lemma OpcodeMap.named_of_table (t : OpcodeMap) :
    ∀ d ∈ t.table, ∀ l ∈ d.leaves {}, l.entry.Named := by
  cases t <;> decide +kernel

namespace Encoding

lemma kept_eq (hnop : e.mnemonic ≠ .general .NOP)
    (hv : ∀ s ∈ e.entry.operands, s.usesVexRegister = false) : e.kept = e.entry.operands := by
  rw [kept, shapes, if_neg (by simp [isNop, hnop]), List.filter_eq_self]
  intro s hs
  simp [hv s hs]

lemma operands_of_singleton {s : OperandShape} (he : scan mode strictLock bytes = .ok e)
    (hnop : e.mnemonic ≠ .general .NOP) (hs : e.entry.operands = [s])
    (hv : s.usesVexRegister = false) :
    ∃ o, (e.extract mode bytes).operands = [o] ∧ o.kind ∈ s.kinds (e.sizeContext mode) := by
  have hkinds := kinds_of_scan he
  rw [kept_eq hnop (by simpa [hs] using hv), hs] at hkinds
  obtain ⟨o, os, ho, hos, hops⟩ := List.forall₂_cons_left_iff.mp hkinds
  rw [List.forall₂_nil_left_iff.mp hos] at hops
  exact ⟨o, hops, ho⟩

lemma operands_of_far (he : scan mode strictLock bytes = .ok e) (hfar : e.mnemonic.isFar = true) :
    ∃ o, (e.extract mode bytes).operands = [o] ∧
      (o.kind = .far ∨ o.kind = .memory (Width.farPointer.resolve (e.sizeContext mode))) := by
  have hnop : e.mnemonic ≠ .general .NOP := by
    intro h
    rw [h] at hfar
    cases hfar
  rw [mnemonic_of_shared Mnemonic.shared_isFar he] at hfar
  rcases (entry_of_scan OpcodeMap.named_of_table he).far hfar with hs | hs
  · obtain ⟨o, hops, ho⟩ := operands_of_singleton he hnop hs rfl
    exact ⟨o, hops, Or.inl (List.mem_singleton.mp ho)⟩
  · obtain ⟨o, hops, ho⟩ := operands_of_singleton he hnop hs rfl
    exact ⟨o, hops, Or.inr (List.mem_singleton.mp ho)⟩

lemma operandSize_ne_dword (he : scan mode strictLock bytes = .ok e) (hm : mode = .bits64)
    (hl : e.entry.longSize = .qword) : e.operandSize ≠ .dword := by
  obtain ⟨h, c, s, c', -, -, rfl⟩ := scan_eq_ok.mp he
  change s.entry.longSize = _ at hl
  change s.operandSize mode h ≠ _
  rw [hm, Selection.operandSize, if_pos (show Mode.bits64.isLong = true from rfl), hl]
  split_ifs <;> simp_all

lemma operands_of_near (he : scan mode strictLock bytes = .ok e)
    (ht : e.mnemonic.isTransfer = true) (hfar : e.mnemonic.isFar = false) :
    ∃ o, (e.extract mode bytes).operands = [o] ∧
      (o.kind = .relative ∨ o.kind = .register .gpr e.operandSize ∨
        o.kind = .memory e.operandSize ∧ (mode = .bits64 → e.operandSize ≠ .dword)) := by
  have hnop : e.mnemonic ≠ .general .NOP := by
    intro h
    rw [h] at ht
    cases ht
  rw [mnemonic_of_shared Mnemonic.shared_isTransfer he] at ht
  rw [mnemonic_of_shared Mnemonic.shared_isFar he] at hfar
  rcases (entry_of_scan OpcodeMap.named_of_table he).near ht hfar with hs | hs | ⟨hs, hl⟩
  · obtain ⟨o, hops, ho⟩ := operands_of_singleton he hnop hs rfl
    exact ⟨o, hops, Or.inl (List.mem_singleton.mp ho)⟩
  · obtain ⟨o, hops, ho⟩ := operands_of_singleton he hnop hs rfl
    exact ⟨o, hops, Or.inl (List.mem_singleton.mp ho)⟩
  · obtain ⟨o, hops, ho⟩ := operands_of_singleton he hnop hs rfl
    rcases List.mem_pair.mp ho with ho | ho
    · exact ⟨o, hops, Or.inr (Or.inr ⟨ho, fun hm => operandSize_ne_dword he hm hl⟩)⟩
    · exact ⟨o, hops, Or.inr (Or.inl ho)⟩

lemma operands_of_string (he : scan mode strictLock bytes = .ok e)
    (hm : e.mnemonic.isString = true) : (e.extract mode bytes).operands = [] := by
  rw [mnemonic_of_shared Mnemonic.shared_isString he] at hm
  have hkinds := kinds_of_scan he
  rw [kept, shapes, (entry_of_scan OpcodeMap.named_of_table he).string hm, ite_self,
    List.filter_nil] at hkinds
  exact List.forall₂_nil_left_iff.mp hkinds

lemma operands_of_scalar (he : scan mode strictLock bytes = .ok e)
    (hm : e.mnemonic.isScalar = true) : (e.extract mode bytes).operands ≠ [] := by
  have hnop : e.isNop = false := by
    rw [isNop, Bool.and_eq_false_iff]
    right
    rw [beq_eq_false_iff_ne]
    intro h
    rw [h] at hm
    cases hm
  rw [mnemonic_of_shared Mnemonic.shared_isScalar he] at hm
  obtain ⟨s, hs, hv⟩ := List.any_eq_true.mp
    ((entry_of_scan OpcodeMap.named_of_table he).scalar hm)
  intro hops
  have hkinds := kinds_of_scan he
  rw [hops, List.forall₂_nil_right_iff, kept, shapes, hnop, List.filter_eq_nil_iff] at hkinds
  exact hkinds s hs (by simpa using Or.inr hv)

end Encoding

namespace Size

lemma eq_of_keyword? {w z : Size} {t : String} (hw : w.keyword? = some t)
    (hz : z.keyword? = some t) : w = z := by
  cases w <;> cases z <;> simp [keyword?, ← hw] at hz ⊢ <;> simp [keyword?] at hw

end Size

namespace Format.Intel

def operandChars (i : Instruction) (o : Operand) : List Char := Piece.chars (operand {} i o)

variable {o p : Operand}

lemma unmarked_relative (i : Instruction) (d : ℤ) :
    ' ' ∉ Piece.chars [relative {} i "$" d] ∧ ':' ∉ Piece.chars [relative {} i "$" d] := by
  obtain ⟨sign, hsign, cs, hcs, htext⟩ :=
    Number.offset_eq (Int.bmod (i.length + d) (1 <<< 64))
  have hchars : Piece.chars [relative {} i "$" d] = '$' :: (sign ++ cs) := by
    rw [Piece.chars_singleton, ← htext]
    exact String.toList_append
  have hblank := hcs.notMem (show isPlain ' ' = false by decide)
  have hcolon := hcs.notMem (show isPlain ':' = false by decide)
  rw [hchars]
  fin_cases hsign <;> simp [hblank, hcolon]

lemma unmarked_operand (ho : o.kind = .relative ∨ ∃ w, o.kind = .register .gpr w) :
    ' ' ∉ operandChars i o ∧ ':' ∉ operandChars i o := by
  cases o with
  | register r =>
    have hfile : r.file ≠ .fpu := by
      rcases ho with ho | ⟨w, ho⟩
      · cases ho
      · rw [(Operand.Kind.register.inj ho).1]
        decide
    have hplain := Register.plain_name hfile
    rw [operandChars, operand, Piece.chars_singleton]
    exact ⟨hplain.notMem (by decide), hplain.notMem (by decide)⟩
  | short d => exact unmarked_relative i d
  | near w d => exact unmarked_relative i d
  | memory m | far w s t | immediate v w => rcases ho with ho | ⟨w, ho⟩ <;> cases ho

lemma marked_far (ho : o.kind = .far) : ' ' ∉ operandChars i o ∧ ':' ∈ operandChars i o := by
  cases o with
  | far w s t =>
    have hs := (Number.plain_hex s).notMem (show isPlain ' ' = false by decide)
    have ht := (Number.plain_hex t.toNat).notMem (show isPlain ' ' = false by decide)
    simp [operandChars, operand, Piece.chars_cons, Piece.chars_nil, hs, ht]
  | register r | memory m | short d | near w d | immediate v w => cases ho

lemma chars_of_memory {w : Size} {t : String} (ho : o.kind = .memory w) (hw : w.keyword? = some t) :
    ∃ cs, operandChars i o = t.toList ++ ' ' :: cs := by
  cases o with
  | memory m =>
    obtain rfl : m.width = w := Operand.Kind.memory.inj ho
    have htext : operandChars i (.memory m) =
        t.toList ++ (" ptr ".toList ++ Piece.chars (segment i ++ ([⟨.separator, "["⟩] ++
          (base m ++ (index m ++ (displacement i m ++ [⟨.separator, "]"⟩])))))) := by
      simp [operandChars, operand, memory, width, hw, Piece.chars_cons]
    exact ⟨_, htext⟩
  | register r | far w s t | short d | near w d | immediate v w => cases ho

lemma kind_of_operandChars_eq {w z : Size} (hw : w.keyword?.isSome = true)
    (hz : z.keyword?.isSome = true)
    (ho : o.kind = .relative ∨ o.kind = .register .gpr w ∨ o.kind = .memory w)
    (hp : p.kind = .far ∨ p.kind = .memory z) (h : operandChars i o = operandChars j p) :
    o.kind = .memory w ∧ p.kind = .memory z ∧ w = z := by
  obtain ⟨t, ht⟩ := Option.isSome_iff_exists.mp hw
  obtain ⟨u, hu⟩ := Option.isSome_iff_exists.mp hz
  have hblank {cs ds : List Char} : ' ' ∈ cs ++ ' ' :: ds :=
    List.mem_append_right _ List.mem_cons_self
  -- memory shows a blank, a far address a colon, and a distance or a register neither
  rcases or_assoc.mpr ho with ho | ho
  · have hunmarked := unmarked_operand (i := i) (ho.imp id fun h => ⟨w, h⟩)
    rw [h] at hunmarked
    rcases hp with hp | hp
    · exact absurd (marked_far hp).2 hunmarked.2
    · obtain ⟨cs, hcs⟩ := chars_of_memory (i := j) hp hu
      exact absurd (hcs ▸ hblank) hunmarked.1
  · obtain ⟨cs, hcs⟩ := chars_of_memory (i := i) ho ht
    rcases hp with hp | hp
    · have hfar := (marked_far (i := j) hp).1
      rw [← h, hcs] at hfar
      exact absurd hblank hfar
    · obtain ⟨ds, hds⟩ := chars_of_memory (i := j) hp hu
      have hkeyword : ∀ v : Size, ∀ x ∈ v.keyword?, ' ' ∉ x.toList := by
        intro v
        cases v <;> decide
      have hends (cs : List Char) : EndsWord (' ' :: cs) := fun c hc => (Option.some.inj hc).symm
      rw [hcs, hds] at h
      obtain ⟨htext, -⟩ := append_inj_of_endsWord (hkeyword w t ht) (hkeyword z u hu) (hends cs)
        (hends ds) h
      exact ⟨ho, hp, Size.eq_of_keyword? ht (String.toList_inj.mp htext ▸ hu)⟩

end Format.Intel

lemma Operand.exists_of_kind_memory {o : Operand} {w : Size} (ho : o.kind = .memory w) :
    ∃ a, o = .memory a ∧ a.width = w := by
  cases o with
  | memory m => exact ⟨m, rfl, Operand.Kind.memory.inj ho⟩
  | register r | far w s t | short d | near w d | immediate v w => cases ho

namespace Mnemonic

def transfers : List (Mnemonic × Mnemonic) :=
  [(.general .CALL, .general .CALLF), (.general .JMP, .general .JMPF)]

def Homonyms (m n : Mnemonic) : Prop :=
  (m, n) ∈ transfers ∨ m.isString = true ∧ n.isScalar = true

lemma homonyms_of_namesake_eq {m n : Mnemonic} (h : m.namesake = n.namesake) :
    m = n ∨ Homonyms m n ∨ Homonyms n m := by
  rw [namesake.eq_def m, namesake.eq_def n] at h
  split at h <;> split at h <;> first | exact Or.inl h | cases h
  all_goals simp [Homonyms, transfers, isString, isScalar]

end Mnemonic

namespace Instruction

lemma operandChars_of_singleton {o : Operand} (ho : i.operands = [o]) :
    i.operandChars .intel = Format.Intel.operandChars i o := by
  rw [operandChars, Dialect.operands, Format.Intel.operands, ho]
  simp [Piece.chars_separated, Format.Intel.operandChars]

/-- A jump or a call through 32 bits of memory that hold the offset of its target, and one through
as many that hold an offset of 16 bits and a segment. -/
structure Twins (near far : Instruction) : Prop where
  mnemonics : (near.mnemonic, far.mnemonic) ∈ Mnemonic.transfers
  operandSizes : near.operandSize = .dword ∧ far.operandSize = .word
  operands : ∃ a b, near.operands = [.memory a] ∧ far.operands = [.memory b] ∧
    a.width = .dword ∧ b.width = .dword

end Instruction

namespace Encoding

variable {strictLock' : Bool} {bytes' : List UInt8} {f : Encoding}

lemma twins_of_behindName_eq (he : scan mode strictLock bytes = .ok e)
    (hf : scan mode strictLock' bytes' = .ok f)
    (hm : (e.mnemonic, f.mnemonic) ∈ Mnemonic.transfers)
    (h : (e.extract mode bytes).behindName .intel = (f.extract mode bytes').behindName .intel) :
    mode ≠ .bits64 ∧ (e.extract mode bytes).Twins (f.extract mode bytes') := by
  obtain ⟨ht, hnear, hfar⟩ : e.mnemonic.isTransfer = true ∧ e.mnemonic.isFar = false ∧
      f.mnemonic.isFar = true := by
    rcases List.mem_pair.mp hm with hm | hm <;>
      rw [(Prod.mk.inj hm).1, (Prod.mk.inj hm).2] <;> exact ⟨rfl, rfl, rfl⟩
  obtain ⟨o, hops, ho⟩ := operands_of_near he ht hnear
  obtain ⟨p, hops', hp⟩ := operands_of_far hf hfar
  have hsize := (sized_of_scan he).operandSize
  have hsize' := (sized_of_scan hf).operandSize
  have hchars := Instruction.operandChars_of_behindName (by simp [hops]) h
  rw [Instruction.operandChars_of_singleton hops, Instruction.operandChars_of_singleton hops']
    at hchars
  have hw : e.operandSize.keyword?.isSome = true := by
    rcases hsize with h | h | h <;> rw [h] <;> rfl
  have hz : (Width.farPointer.resolve (f.sizeContext mode)).keyword?.isSome = true := by
    rcases hsize' with h | h | h <;> simp [Width.resolve, sizeContext, h, Size.keyword?]
  obtain ⟨ho', hp', hwidth⟩ := Format.Intel.kind_of_operandChars_eq hw hz
    (ho.imp id (Or.imp id And.left)) hp hchars
  -- a far pointer is 16 bits wider than its offset, so equal widths leave these sizes only
  obtain ⟨hdword, hword⟩ : e.operandSize = .dword ∧ f.operandSize = .word := by
    rcases hsize with h | h | h <;> rcases hsize' with h' | h' | h' <;>
      simp [Width.resolve, sizeContext, h, h'] at hwidth ⊢
  obtain ⟨a, rfl, ha⟩ := Operand.exists_of_kind_memory ho'
  obtain ⟨b, rfl, hb⟩ := Operand.exists_of_kind_memory hp'
  refine ⟨fun hmode => ?_, hm, ⟨hdword, hword⟩, a, b, hops, hops', ha.trans hdword, ?_⟩
  · rcases ho with ho | ho | ho
    · cases ho
    · cases ho
    · exact ho.2 hmode hdword
  · rw [hb, ← hwidth, hdword]

lemma twins_of_homonyms (he : scan mode strictLock bytes = .ok e)
    (hf : scan mode strictLock' bytes' = .ok f) (hm : Mnemonic.Homonyms e.mnemonic f.mnemonic)
    (h : (e.extract mode bytes).behindName .intel = (f.extract mode bytes').behindName .intel) :
    mode ≠ .bits64 ∧ (e.extract mode bytes).Twins (f.extract mode bytes') := by
  rcases hm with hm | ⟨hstring, hscalar⟩
  · exact twins_of_behindName_eq he hf hm h
  · have hempty := Instruction.isEmpty_operands_of_behindName h
    rw [operands_of_string he hstring] at hempty
    exact absurd (List.isEmpty_iff.mp hempty.symm) (operands_of_scalar hf hscalar)

end Encoding

namespace Instruction

variable {strictLock' : Bool} {bytes' : List UInt8}

/-- Equal texts are of one operation, unless outside 64-bit mode a jump or a call through memory is
near in one and far in the other. -/
theorem mnemonic_eq_of_text_eq (hi : decode mode strictLock bytes = .ok i)
    (hj : decode mode strictLock' bytes' = .ok j) (h : i.text .intel {} = j.text .intel {}) :
    i.mnemonic = j.mnemonic ∨ mode ≠ .bits64 ∧ (i.Twins j ∨ j.Twins i) := by
  obtain ⟨e, he, rfl⟩ := decode_eq_ok.mp hi
  obtain ⟨f, hf, rfl⟩ := decode_eq_ok.mp hj
  obtain ⟨hname, hbehind⟩ := eq_of_text_eq (d := .intel) (isName_name _) (isName_name _) h
  rcases Mnemonic.homonyms_of_namesake_eq (namesake_eq_of_name_eq hname) with hm | hm | hm
  · exact Or.inl hm
  · obtain ⟨hmode, htwins⟩ := Encoding.twins_of_homonyms he hf hm hbehind
    exact Or.inr ⟨hmode, Or.inl htwins⟩
  · obtain ⟨hmode, htwins⟩ := Encoding.twins_of_homonyms hf he hm hbehind.symm
    exact Or.inr ⟨hmode, Or.inr htwins⟩

theorem mnemonic_eq_of_text_eq_add : ∃ i j, decode .bits64 true [0x01, 0xD8] = .ok i ∧
    decode .bits64 true [0x03, 0xC3] = .ok j ∧ i.text .intel {} = j.text .intel {} ∧
    i.mnemonic = j.mnemonic := by
  have hi : decode .bits64 true [0x01, 0xD8] = .ok ⟨.general .ADD, false, 2, none, .none, .dword,
      .qword, [.register ⟨.gpr, .dword, 0⟩, .register ⟨.gpr, .dword, 3⟩]⟩ := rfl
  have hj : decode .bits64 true [0x03, 0xC3] = .ok ⟨.general .ADD, false, 2, none, .none, .dword,
      .qword, [.register ⟨.gpr, .dword, 0⟩, .register ⟨.gpr, .dword, 3⟩]⟩ := rfl
  have hm := mnemonic_eq_of_text_eq hi hj rfl
  exact ⟨_, _, hi, hj, rfl, hm.resolve_right fun h => h.1 rfl⟩

theorem mnemonic_ne_of_text_eq_call : ∃ i j, decode .bits16 true [0x66, 0xFF, 0x10] = .ok i ∧
    decode .bits16 true [0xFF, 0x18] = .ok j ∧ i.text .intel {} = "call dword ptr [bx+si]" ∧
    j.text .intel {} = "call dword ptr [bx+si]" ∧ i.mnemonic = .general .CALL ∧
    j.mnemonic = .general .CALLF :=
  ⟨_, _, rfl, rfl, by decide, by decide, rfl, rfl⟩

end Instruction

end X86
