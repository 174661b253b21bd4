import Mathlib
import X86.Proofs.WellFormed

/-! What an entry of the opcode maps says of the operands: the kind of each and its width. -/

namespace X86

open Scan

variable {mode : Mode} {strictLock : Bool} {bytes : List UInt8} {e : Encoding}

namespace Operand

inductive Kind where
  | register (file : RegisterFile) (width : Size)
  | memory (width : Size)
  | constant
  | relative
  | far
  deriving DecidableEq

def kind : Operand → Kind
  | register r => .register r.file r.width
  | memory m => .memory m.width
  | short _ | near _ _ => .relative
  | far _ _ _ => .far
  | immediate _ _ => .constant

end Operand

namespace Mnemonic

def kin : List (Mnemonic × Mnemonic) :=
  [(.general .CWDE, .general .CBW), (.general .CDQE, .general .CBW),
    (.general .CDQ, .general .CWD), (.general .CQO, .general .CWD),
    (.general .MOVSD, .general .MOVSW), (.general .MOVSQ, .general .MOVSW),
    (.general .CMPSD, .general .CMPSW), (.general .CMPSQ, .general .CMPSW),
    (.general .STOSD, .general .STOSW), (.general .STOSQ, .general .STOSW),
    (.general .LODSD, .general .LODSW), (.general .LODSQ, .general .LODSW),
    (.general .SCASD, .general .SCASW), (.general .SCASQ, .general .SCASW),
    (.general .INSD, .general .INSW), (.general .OUTSD, .general .OUTSW),
    (.general .PUSHAD, .general .PUSHA), (.general .POPAD, .general .POPA),
    (.general .PUSHFD, .general .PUSHF), (.general .PUSHFQ, .general .PUSHF),
    (.general .POPFD, .general .POPF), (.general .POPFQ, .general .POPF),
    (.system .IRETD, .system .IRET), (.system .IRETQ, .system .IRET),
    (.general .JECXZ, .general .JCXZ), (.general .JRCXZ, .general .JCXZ),
    (.sse .MOVQ, .sse .MOVD), (.sse .PEXTRQ, .sse .PEXTRD), (.sse .PINSRQ, .sse .PINSRD),
    (.general .CMPXCHG16B, .general .CMPXCHG8B), (.system .FXSAVE64, .system .FXSAVE),
    (.system .FXRSTOR64, .system .FXRSTOR), (.system .XSAVE64, .system .XSAVE),
    (.system .XRSTOR64, .system .XRSTOR), (.system .XSAVEOPT64, .system .XSAVEOPT),
    (.system .XSAVEC64, .system .XSAVEC), (.system .XSAVES64, .system .XSAVES),
    (.system .XRSTORS64, .system .XRSTORS), (.general .XCHG, .general .NOP)]

lemma forOperandSize_kin (m : Mnemonic) (n : ℕ) :
    m.forOperandSize n = m ∨ (m.forOperandSize n, m) ∈ kin := by
  rw [forOperandSize.eq_def]
  split <;> first | exact Or.inl rfl | exact Or.inr (by decide)

lemma forAddressSize_kin (m : Mnemonic) (n : ℕ) :
    m.forAddressSize n = m ∨ (m.forAddressSize n, m) ∈ kin := by
  rw [forAddressSize.eq_def]
  split <;> first | exact Or.inl rfl | exact Or.inr (by decide)

lemma wide_kin (m : Mnemonic) : m.wide = m ∨ (m.wide, m) ∈ kin := by
  rw [wide.eq_def]
  split <;> first | exact Or.inl rfl | exact Or.inr (by decide)

def Shared {β : Type} (f : Mnemonic → β) : Prop := ∀ p ∈ kin, f p.1 = f p.2

variable {β : Type} {f : Mnemonic → β}

instance [DecidableEq β] : Decidable (Shared f) :=
  inferInstanceAs (Decidable (∀ p ∈ kin, f p.1 = f p.2))

lemma Shared.eq_of_kin (hf : Shared f) {m n : Mnemonic} (h : n = m ∨ (n, m) ∈ kin) : f n = f m := by
  rcases h with rfl | h
  · rfl
  · exact hf _ h

lemma shared_classOf : Shared classOf := by decide

lemma shared_isFar : Shared isFar := by decide

lemma shared_isTransfer : Shared isTransfer := by decide

lemma shared_isString : Shared isString := by decide

end Mnemonic

lemma OpcodeMap.exchange_of_table (t : OpcodeMap) : ∀ d ∈ t.table, ∀ l ∈ d.leaves {},
    l.entry.exception = .exchangeOrNop → l.entry.mnemonic = .general .NOP := by
  cases t <;> decide +kernel

namespace OperandShape

def kinds (k : SizeContext) : OperandShape → List Operand.Kind
  | rm w => [.memory (w.resolve k), .register .gpr (w.resolve k)]
  | rmSplit w v => [.memory (w.resolve k), .register .gpr (v.resolve k)]
  | memory w | direct w => [.memory (w.resolve k)]
  | reg w | rmReg w | opcodeReg w | fixed w _ | generalVex w => [.register .gpr (w.resolve k)]
  | segment _ | segmentReg => [.register .segment .word]
  | control => [.register .control (Width.native.resolve k)]
  | debug => [.register .debug (Width.native.resolve k)]
  | immediate _ | signedByte _ | one => [.constant]
  | relativeByte | relative => [.relative]
  | farAddress => [.far]
  | stackTop | stack => [.register .fpu .tbyte]
  | vector w | vectorRmReg w | vectorVex w => [ofVector (w.resolve k)]
  | vectorRm w => [.memory (w.resolve k), ofVector (w.resolve k)]
  | vectorTail => [ofVector (Width.vector.resolve k)]
  | vectorFirst => [.register .xmm .xmmword]
  | mmx | mmxRmReg => [.register .mmx .qword]
  | mmxRm w => [.memory (w.resolve k), .register .mmx .qword]
  | bound => [.register .bound .xmmword]
  | boundRm => [.memory (if k.mode.isLong then .xmmword else .qword), .register .bound .xmmword]
where
  ofVector (z : Size) : Operand.Kind :=
    .register .xmm (if z = .ymmword then .ymmword else .xmmword)

end OperandShape

namespace Fields

variable {x : Fields} {s : OperandShape} {c : Cursor} {o : Operand}

lemma kind_general (x : Fields) (w : Width) (n : ℕ) :
    (x.general w n).kind = .register .gpr (x.size w) := by
  simp only [general, Operand.kind, Register.gpr]
  split <;> rfl

lemma kind_memoryAt {z : Size} (ho : o ∈ x.memoryAt z) : o.kind = .memory z := by
  obtain ⟨a, -, rfl⟩ := Option.map_eq_some_iff.mp ho
  rfl

lemma kind_getD {z : Size} {r : Operand} (ho : (x.memoryAt z).getD r = o) :
    o.kind ∈ [.memory z, r.kind] := by
  cases hm : x.memoryAt z with
  | none =>
    obtain rfl : r = o := by rwa [hm] at ho
    exact List.mem_cons_of_mem _ List.mem_cons_self
  | some a =>
    obtain rfl : a = o := by rwa [hm] at ho
    rw [kind_memoryAt hm]
    exact List.mem_cons_self

lemma kind_memoryOr {w : Width} {r : Operand} (ho : x.memoryOr w r = o) :
    o.kind ∈ [.memory (x.size w), r.kind] := kind_getD ho

lemma kind_mem_kinds (ho : o ∈ (x.operand c s).1) :
    o.kind ∈ s.kinds (x.encoding.sizeContext x.mode) := by
  cases s with
  | rm w | rmSplit w v =>
    have h := kind_memoryOr (Option.some.inj ho)
    rwa [kind_general] at h
  | memory w => exact List.mem_singleton.mpr (kind_memoryAt ho)
  | reg w | rmReg w | opcodeReg w =>
    obtain rfl := Option.some.inj ho
    exact List.mem_singleton.mpr (x.kind_general w _)
  | fixed w n =>
    obtain rfl := Option.some.inj ho
    simp only [Operand.kind, Register.gpr]
    split <;> exact List.mem_singleton_self _
  | generalVex w =>
    obtain ⟨n, -, rfl⟩ := Option.map_eq_some_iff.mp ho
    exact List.mem_singleton.mpr (x.kind_general w n)
  | vectorVex w =>
    obtain ⟨n, -, rfl⟩ := Option.map_eq_some_iff.mp ho
    exact List.mem_singleton_self _
  | vectorRm w | mmxRm w => exact kind_memoryOr (Option.some.inj ho)
  | boundRm => exact kind_getD (Option.some.inj ho)
  | _ =>
    obtain rfl := Option.some.inj ho
    exact List.mem_singleton_self _

end Fields

namespace Encoding

lemma mnemonic_of_kin {P : Mnemonic → Prop} (hP : ∀ p ∈ Mnemonic.kin, P p.2 → P p.1)
    (he : scan mode strictLock bytes = .ok e) (h : P e.entry.mnemonic) : P e.mnemonic := by
  have hkin {m n : Mnemonic} (hn : n = m ∨ (n, m) ∈ Mnemonic.kin) (hm : P m) : P n := by
    rcases hn with rfl | hn
    · exact hm
    · exact hP _ hn hm
  obtain ⟨l, hl, hentry⟩ := exists_leaf_of_scan OpcodeMap.exchange_of_table he
  rw [hentry] at hl
  refine mnemonic_induction (P := P) h (fun hx => ?_) (fun m n => hkin (m.forOperandSize_kin n))
    (fun m n => hkin (m.forAddressSize_kin n)) fun m => hkin m.wide_kin
  rw [hl hx] at h
  exact ⟨hkin (m := .general .NOP) (Or.inr (by decide)) h, h⟩

lemma mnemonic_of_shared {β : Type} {f : Mnemonic → β} (hf : Mnemonic.Shared f)
    (he : scan mode strictLock bytes = .ok e) : f e.mnemonic = f e.entry.mnemonic :=
  mnemonic_of_kin (P := fun m => f m = f e.entry.mnemonic) (fun p hp h => (hf p hp).trans h) he rfl

lemma mnemonic_eq_entry (he : scan mode strictLock bytes = .ok e)
    (hm : e.entry.mnemonic ∉ Mnemonic.kin.map Prod.snd) : e.mnemonic = e.entry.mnemonic :=
  mnemonic_of_kin (P := (· = e.entry.mnemonic))
    (fun p hp h => absurd (List.mem_map.mpr ⟨p, hp, h⟩) hm) he rfl

lemma kinds_of_scan (he : scan mode strictLock bytes = .ok e) :
    List.Forall₂ (fun s o => o.kind ∈ s.kinds (e.sizeContext mode)) e.kept
      (e.extract mode bytes).operands := by
  obtain ⟨h, c, s, c', hh, hs, hes⟩ := scan_eq_ok.mp he
  have hpos := Head.position_pos_of_scan hh
  have hbytes : c.bytes = bytes := bytes_of_run hh
  have hx := agrees_read hs hpos hes
  have hmemory := isSome_memory_read hs hpos hes
  rw [hbytes] at hx hmemory
  have hkeeps : (Fields.read mode bytes e).1.keeps = fun s => e.isVex || !s.usesVexRegister := by
    funext shape
    rw [Fields.keeps, hx.encoding]
  have hmode : (Fields.read mode bytes e).1.mode = mode := Fields.mode_behindOpcode _
  rw [kept, extract_operands, ← hkeeps]
  refine (Fields.forall₂_operands hmemory).imp fun shape o hoperand => ?_
  obtain ⟨d, ho⟩ := hoperand
  have hkind := Fields.kind_mem_kinds ho
  rwa [hx.encoding, hmode] at hkind

lemma wellFormed_operands_of_scan (he : scan mode strictLock bytes = .ok e) :
    ∀ o ∈ (e.extract mode bytes).operands, o.WellFormed e.addressSize e.vexLong := by
  obtain ⟨h, c, s, c', hh, hs, hes⟩ := scan_eq_ok.mp he
  have hops := (wellFormed_ofSelection (of_run_of_yields Head.yields_scan hh) hs
    (Head.position_pos_of_scan hh) hes).1
  rwa [show c.bytes = bytes from bytes_of_run hh] at hops

end Encoding

end X86
