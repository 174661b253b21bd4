import Mathlib
import X86.Proofs.RegisterNamespace
import X86.Proofs.VexPrefixes
import X86.Proofs.WellFormed

/-! The name of an instruction agrees with the sizes in effect, where it speaks of them. -/

namespace X86

open Scan

variable {mode : Mode} {strictLock : Bool} {bytes : List UInt8} {e : Encoding} {i : Instruction}
  {m : Mnemonic} {z : Size}

lemma Size.IsGeneral.mem (hz : z.IsGeneral) : z ∈ [word, dword, qword] := by
  simpa [IsGeneral] using hz

namespace Mnemonic

def operandSizes : Mnemonic → List Size
  | general .CBW | general .CWD | general .MOVSW | general .CMPSW | general .STOSW
  | general .LODSW | general .SCASW | general .INSW | general .OUTSW | general .PUSHA
  | general .POPA | general .PUSHF | general .POPF | system .IRET => [.word]
  | general .CWDE | general .CDQ | general .MOVSD | general .CMPSD | general .STOSD
  | general .LODSD | general .SCASD | general .PUSHAD | general .POPAD | general .PUSHFD
  | general .POPFD | system .IRETD => [.dword]
  | general .CDQE | general .CQO | general .MOVSQ | general .CMPSQ | general .STOSQ
  | general .LODSQ | general .SCASQ | general .PUSHFQ | general .POPFQ | system .IRETQ => [.qword]
  | general .INSD | general .OUTSD => [.dword, .qword]
  | _ => [.word, .dword, .qword]

def addressSizes : Mnemonic → List Size
  | general .JCXZ => [.word]
  | general .JECXZ => [.dword]
  | general .JRCXZ => [.qword]
  | _ => [.word, .dword, .qword]

def wideBits : Mnemonic → List Bool
  | general .CMPXCHG8B | sse .MOVD | sse .PEXTRD | sse .PINSRD | system .FXSAVE
  | system .FXRSTOR | system .XSAVE | system .XRSTOR | system .XSAVEOPT | system .XSAVEC
  | system .XSAVES | system .XRSTORS => [false]
  | general .CMPXCHG16B | sse .PEXTRQ | sse .PINSRQ | system .FXSAVE64 | system .FXRSTOR64
  | system .XSAVE64 | system .XRSTOR64 | system .XSAVEOPT64 | system .XSAVEC64
  | system .XSAVES64 | system .XRSTORS64 => [true]
  | _ => [false, true]

def pairWidth? : Mnemonic → Option Size
  | general .CMPXCHG8B => some .qword
  | general .CMPXCHG16B => some .xmmword
  | _ => none

def sizeHeads : List Mnemonic :=
  [.general .CBW, .general .CWD, .general .MOVSW, .general .CMPSW, .general .STOSW,
    .general .LODSW, .general .SCASW, .general .INSW, .general .OUTSW, .general .PUSHA,
    .general .POPA, .general .PUSHF, .general .POPF, .system .IRET]

@[mk_iff]
structure IsHead (m : Mnemonic) : Prop where
  operandSize : .word ∈ m.operandSizes
  addressSize : .word ∈ m.addressSizes
  wide : false ∈ m.wideBits

instance (m : Mnemonic) : Decidable m.IsHead := decidable_of_iff _ (isHead_iff m).symm

lemma addressSizes_forOperandSize (m : Mnemonic) (n : ℕ) :
    (m.forOperandSize n).addressSizes = m.addressSizes := by
  rw [forOperandSize.eq_def]
  split <;> rfl

lemma wideBits_forOperandSize (m : Mnemonic) (n : ℕ) :
    (m.forOperandSize n).wideBits = m.wideBits := by
  rw [forOperandSize.eq_def]
  split <;> rfl

lemma operandSizes_forAddressSize (m : Mnemonic) (n : ℕ) :
    (m.forAddressSize n).operandSizes = m.operandSizes := by
  rw [forAddressSize.eq_def]
  split <;> rfl

lemma wideBits_forAddressSize (m : Mnemonic) (n : ℕ) :
    (m.forAddressSize n).wideBits = m.wideBits := by
  rw [forAddressSize.eq_def]
  split <;> rfl

lemma operandSizes_wide (m : Mnemonic) : m.wide.operandSizes = m.operandSizes := by
  rw [wide.eq_def]
  split <;> rfl

lemma addressSizes_wide (m : Mnemonic) : m.wide.addressSizes = m.addressSizes := by
  rw [wide.eq_def]
  split <;> rfl

lemma operandSizes_mem (m : Mnemonic) : m.operandSizes ∈
    [[Size.word], [.dword], [.qword], [.dword, .qword], [.word, .dword, .qword]] := by
  rw [operandSizes.eq_def]
  split <;> decide

lemma mem_sizeHeads (hm : m.operandSizes = [.word]) : m ∈ sizeHeads := by
  rw [operandSizes.eq_def] at hm
  split at hm <;> first | decide | cases hm

lemma forOperandSize_of_operandSizes (hm : m.operandSizes = [.word, .dword, .qword]) (n : ℕ) :
    m.forOperandSize n = m := by
  rw [forOperandSize.eq_def]
  split <;> first | rfl | cases hm

lemma pairWidth?_forOperandSize (m : Mnemonic) (n : ℕ) :
    (m.forOperandSize n).pairWidth? = m.pairWidth? := by
  rw [forOperandSize.eq_def]
  split <;> rfl

lemma pairWidth?_forAddressSize (m : Mnemonic) (n : ℕ) :
    (m.forAddressSize n).pairWidth? = m.pairWidth? := by
  rw [forAddressSize.eq_def]
  split <;> rfl

lemma isSome_pairWidth?_wide (m : Mnemonic) : m.wide.pairWidth?.isSome = m.pairWidth?.isSome := by
  rw [wide.eq_def]
  split <;> rfl

lemma eq_of_mem_pairWidth? (hz : z ∈ m.pairWidth?) {w : Bool} (hw : w ∈ m.wideBits) :
    z = if w then .xmmword else .qword := by
  rw [pairWidth?.eq_def] at hz
  split at hz
  · obtain rfl : w = false := List.mem_singleton.mp hw
    exact (Option.some.inj hz).symm
  · obtain rfl : w = true := List.mem_singleton.mp hw
    exact (Option.some.inj hz).symm
  · cases hz

lemma mem_operandSizes_forOperandSize (hm : .word ∈ m.operandSizes) (hz : z.IsGeneral)
    (hall : m = .general .PUSHA ∨ m = .general .POPA → z ≠ .qword) :
    z ∈ (m.forOperandSize z.bits).operandSizes := by
  have hsizes : m.operandSizes = [.word] ∨ m.operandSizes = [.word, .dword, .qword] := by
    have hmem := m.operandSizes_mem
    simp only [List.mem_cons, List.not_mem_nil, or_false] at hmem
    rcases hmem with h | h | h | h | h <;> simp [h] at hm ⊢
  rcases hsizes with hsizes | hsizes
  · have hhead : ∀ m ∈ sizeHeads, ∀ z ∈ [Size.word, .dword, .qword],
        (m = .general .PUSHA ∨ m = .general .POPA → z ≠ .qword) →
        z ∈ (m.forOperandSize z.bits).operandSizes := by decide
    exact hhead m (mem_sizeHeads hsizes) z hz.mem hall
  · rw [forOperandSize_of_operandSizes hsizes, hsizes]
    exact hz.mem

lemma mem_addressSizes_forAddressSize (hm : .word ∈ m.addressSizes) (hz : z.IsGeneral) :
    z ∈ (m.forAddressSize z.bits).addressSizes := by
  rw [addressSizes.eq_def] at hm
  split at hm
  · rcases hz with rfl | rfl | rfl <;> decide
  · simp at hm
  · simp at hm
  · rename_i hword _ _
    have hfix : m.forAddressSize z.bits = m := by
      rw [forAddressSize.eq_def]
      split <;> first | rfl | exact absurd rfl hword
    rw [hfix, addressSizes.eq_def]
    split <;> first | exact hz.mem | contradiction

lemma true_mem_wideBits_wide (hm : false ∈ m.wideBits) : true ∈ m.wide.wideBits := by
  rw [wide.eq_def]
  split
  case h_13 =>
    rw [wideBits.eq_def] at hm ⊢
    split at hm <;> simp_all
  all_goals decide

end Mnemonic

@[mk_iff]
structure Entry.Heads (e : Entry) : Prop where
  mnemonic : e.mnemonic.IsHead
  all : e.mnemonic = .general .PUSHA ∨ e.mnemonic = .general .POPA → e.availability = .notIn64
  pair : e.mnemonic.pairWidth?.isSome = true → e.operands = [.memory .pair]

instance (e : Entry) : Decidable e.Heads := decidable_of_iff _ (Entry.heads_iff e).symm

lemma OpcodeMap.heads_of_table (m : OpcodeMap) :
    ∀ t ∈ m.table, ∀ l ∈ t.leaves {}, l.entry.Heads := by
  cases m <;> decide +kernel

namespace Encoding

lemma mnemonic_mem_families (hm : e.family.IsHead) (hz : e.operandSize.IsGeneral)
    (ha : e.addressSize.IsGeneral)
    (hall : e.family = .general .PUSHA ∨ e.family = .general .POPA → e.operandSize ≠ .qword) :
    e.operandSize ∈ e.mnemonic.operandSizes ∧ e.addressSize ∈ e.mnemonic.addressSizes ∧
      e.rexBit Rex.w ∈ e.mnemonic.wideBits := by
  have hoperand := Mnemonic.mem_operandSizes_forOperandSize hm.operandSize hz hall
  have haddress := Mnemonic.mem_addressSizes_forAddressSize
    (m := e.family.forOperandSize e.operandSize.bits)
    (by rw [Mnemonic.addressSizes_forOperandSize]; exact hm.addressSize) ha
  have hwide : false ∈ ((e.family.forOperandSize e.operandSize.bits).forAddressSize
      e.addressSize.bits).wideBits := by
    rw [Mnemonic.wideBits_forAddressSize, Mnemonic.wideBits_forOperandSize]
    exact hm.wide
  rw [← Mnemonic.operandSizes_forAddressSize _ e.addressSize.bits] at hoperand
  change _ ∈ Mnemonic.operandSizes (if e.rexBit Rex.w then _ else _) ∧
    _ ∈ Mnemonic.addressSizes (if e.rexBit Rex.w then _ else _) ∧
    _ ∈ Mnemonic.wideBits (if e.rexBit Rex.w then _ else _)
  cases e.rexBit Rex.w with
  | false => exact ⟨hoperand, haddress, hwide⟩
  | true =>
    simp only [if_true, Mnemonic.operandSizes_wide, Mnemonic.addressSizes_wide]
    exact ⟨hoperand, haddress, Mnemonic.true_mem_wideBits_wide hwide⟩

lemma available_of_scan (he : scan mode strictLock bytes = .ok e) :
    e.entry.availableIn mode = true := by
  obtain ⟨h, c, s, c', -, hs, rfl⟩ := scan_eq_ok.mp he
  exact (Head.accepted_of_scanBody hs).1.available

lemma families_of_scan (he : scan mode strictLock bytes = .ok e) :
    e.operandSize ∈ e.mnemonic.operandSizes ∧ e.addressSize ∈ e.mnemonic.addressSizes ∧
      e.rexBit Rex.w ∈ e.mnemonic.wideBits := by
  have hentry := entry_of_scan OpcodeMap.heads_of_table he
  have hsized := sized_of_scan he
  refine mnemonic_mem_families ?_ hsized.operandSize hsized.addressSize fun hall hz => ?_
  · exact family_induction hentry.mnemonic fun _ => ⟨by decide, by decide⟩
  · -- the family of all registers has no member for 64 bits, and 64-bit mode does without it
    have hnot : e.entry.availability = .notIn64 :=
      family_induction (P := fun m => m = .general .PUSHA ∨ m = .general .POPA →
        e.entry.availability = .notIn64) hentry.all (fun _ => ⟨by simp, by simp⟩) hall
    have hlong : mode.isLong = false := by
      have havailable := available_of_scan he
      rw [Entry.availableIn, hnot] at havailable
      simpa using havailable
    rcases (ofMode_of_scan he).1.operandSize hlong with h | h <;> rw [h] at hz <;> cases hz

lemma operands_of_pairWidth? (he : scan mode strictLock bytes = .ok e)
    (hp : e.mnemonic.pairWidth?.isSome = true) :
    ∃ a, (e.extract mode bytes).operands = [.memory a] ∧
      a.width = if e.rexBit Rex.w then .xmmword else .qword := by
  have hpair : e.entry.mnemonic.pairWidth?.isSome = true := by
    refine mnemonic_induction
      (P := fun m => m.pairWidth?.isSome = true → e.entry.mnemonic.pairWidth?.isSome = true)
      id (fun _ => ⟨nofun, nofun⟩) (fun m n hm => ?_) (fun m n hm => ?_) (fun m hm => ?_) hp
    · rwa [Mnemonic.pairWidth?_forOperandSize]
    · rwa [Mnemonic.pairWidth?_forAddressSize]
    · rwa [Mnemonic.isSome_pairWidth?_wide]
  have hshapes : e.shapes = [.memory .pair] := by
    have hne : e.mnemonic ≠ .general .NOP := by
      intro hnop
      rw [hnop] at hp
      cases hp
    rw [shapes, if_neg (by simp [isNop, hne])]
    exact (entry_of_scan OpcodeMap.heads_of_table he).pair hpair
  have hmemory : (Fields.read mode bytes e).1.memory.isSome = true := by
    obtain ⟨h, c, s, c', hh, hs, hes⟩ := scan_eq_ok.mp he
    rw [← show c.bytes = bytes from bytes_of_run hh]
    exact isSome_memory_read hs (Head.position_pos_of_scan hh) hes (by rw [hshapes]; rfl)
  obtain ⟨a, ha⟩ := Option.isSome_iff_exists.mp hmemory
  refine ⟨{ a with width := (Fields.read mode bytes e).1.size .pair }, ?_, ?_⟩
  · rw [extract_operands, hshapes]
    simp [Fields.operands, Fields.operand, Fields.field?, Fields.memoryAt, ha]
  · rw [Fields.size, Fields.read, Fields.encoding_behindOpcode]
    rfl

end Encoding

namespace Instruction

/-- Where a name speaks of the operand size, the address size or the W bit, it says the one that is
in effect. The memory that is compared and exchanged with a pair of registers is as wide as its
name says. -/
theorem sizes_of_decode (hi : decode mode strictLock bytes = .ok i) :
    i.operandSize ∈ i.mnemonic.operandSizes ∧ i.addressSize ∈ i.mnemonic.addressSizes ∧
      (Rex.inEffect mode bytes).any Rex.w ∈ i.mnemonic.wideBits ∧
      ((Rex.inEffect mode bytes).any Rex.w = true → mode = .bits64) ∧
      ∀ w ∈ i.mnemonic.pairWidth?, ∃ a, i.operands = [.memory a] ∧ a.width = w := by
  obtain ⟨e, he, rfl⟩ := decode_eq_ok.mp hi
  obtain ⟨hoperand, haddress, hwide⟩ := Encoding.families_of_scan he
  have hrex := Encoding.rex_of_scan he
  refine ⟨hoperand, haddress, ?_, fun hw => ?_, fun w hw => ?_⟩
  · rwa [← hrex]
  · rw [← hrex] at hw
    cases hm : mode.isLong with
    | true => cases mode <;> first | rfl | cases hm
    | false => rw [(Encoding.ofMode_of_scan he).1.rex hm] at hw; cases hw
  · obtain ⟨a, ha, hwidth⟩ := Encoding.operands_of_pairWidth? he (Option.isSome_of_mem hw)
    exact ⟨a, ha, hwidth.trans (Mnemonic.eq_of_mem_pairWidth? hw hwide).symm⟩

theorem sizes_of_decode_cmpxchg16b : ∃ i, decode .bits64 true [0x48, 0x0F, 0xC7, 0x0F] = .ok i ∧
    i.mnemonic = .general .CMPXCHG16B ∧
    (Rex.inEffect .bits64 [0x48, 0x0F, 0xC7, 0x0F]).any Rex.w = true ∧
    ∃ a, i.operands = [.memory a] ∧ a.width = .xmmword := by
  obtain ⟨i, hi, hm⟩ : ∃ i, decode .bits64 true [0x48, 0x0F, 0xC7, 0x0F] = .ok i ∧
      i.mnemonic = .general .CMPXCHG16B := ⟨_, rfl, rfl⟩
  obtain ⟨-, -, hwide, -, hpair⟩ := sizes_of_decode hi
  rw [hm] at hwide hpair
  exact ⟨i, hi, hm, List.mem_singleton.mp hwide, hpair .xmmword rfl⟩

end Instruction

end X86
