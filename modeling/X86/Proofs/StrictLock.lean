import Mathlib
import X86.Proofs.LegacyPrefixes
import X86.Proofs.WellFormed

/-! The check of LOCK prefixes: it refuses what a scan without it accepts, and nothing else. -/

namespace X86

open Cursor Scan PrefixByte

variable {mode : Mode} {strictLock : Bool} {bytes : List UInt8} {e : Encoding} {h : Head}
  {s : Selection} {c c' : Cursor}

namespace Scan

variable {α β γ : Type}

lemma run_bind_bind {t : Scan α} {k : α → Scan β} {k' : α → Scan γ}
    {f : β × Cursor → Except DecodeError (γ × Cursor)}
    (hk : ∀ a d, (k' a).run d = ((k a).run d).bind f) (c : Cursor) :
    (t >>= k').run c = ((t >>= k).run c).bind f := by
  rw [run_bind, run_bind]
  cases t.run c with
  | ok r => exact hk r.1 r.2
  | error err => rfl

end Scan

namespace Head

lemma run_scanBody_strict (h : Head) (c : Cursor) : (h.scanBody mode true).run c =
    ((h.scanBody mode false).run c).bind fun r =>
      if h.prefixes.lock && !r.1.lockAllowed then .error ⟨.invalid, r.2.position⟩ else .ok r := by
  apply run_bind_bind
  intro s d
  apply run_bind_bind
  intro _ d
  apply run_bind_bind
  intro s d
  apply run_bind_bind
  intro _ d
  apply run_bind_bind
  intro _ d
  rw [run_bind, run_bind]
  cases hlock : h.prefixes.lock && !s.lockAllowed <;> simp [require, run, hlock, Except.bind]

end Head

namespace Encoding

def lockAllowed (e : Encoding) (bytes : List UInt8) : Bool :=
  e.entry.lockable && e.hasModRM && e.namesMemory (ModRM.ofByte (bytes.getD e.operandOffset 0))

lemma lockAllowed_ofSelection (hs : (h.scanBody mode strictLock).run c = .ok (s, c'))
    (hpos : 0 < c.position) :
    (ofSelection mode h s c.position c'.position).lockAllowed c.bytes = s.lockAllowed := by
  obtain ⟨-, -, c₁, -, ht, -⟩ := Head.accepted_of_scanBody hs
  have hoffset : (ofSelection mode h s c.position c'.position).operandOffset = c.position :=
    Nat.sub_add_cancel hpos
  rw [lockAllowed, hoffset]
  rcases ht with ⟨hm, -⟩ | ⟨-, b, hb, hm, -⟩
  · simp [Selection.lockAllowed, Selection.isMemory, ofSelection, hm]
  · have hbyte : c.bytes.getD c.position 0 = b := by
      obtain ⟨-, hb⟩ := current_eq_ok.mp hb
      rw [rest, List.getElem?_drop, Nat.add_zero] at hb
      rw [List.getD_eq_getElem?_getD, hb, Option.getD_some]
    rw [hbyte]
    simp [Selection.lockAllowed, Selection.isMemory, ofSelection, namesMemory, hm]

def refuseLock (bytes : List UInt8) : Except DecodeError Encoding → Except DecodeError Encoding
  | .ok e =>
    if e.flags.meets .lock && !e.lockAllowed bytes then .error ⟨.invalid, e.length⟩ else .ok e
  | .error err => .error err

lemma scan_strict (mode : Mode) (bytes : List UInt8) :
    scan mode true bytes = refuseLock bytes (scan mode false bytes) := by
  unfold scan scanBy
  cases hh : (Head.scan mode).run (.start bytes) with
  | error err => rfl
  | ok r =>
    obtain ⟨h, c⟩ := r
    dsimp only
    rw [Head.run_scanBody_strict]
    cases hs : (h.scanBody mode false).run c with
    | error err => rfl
    | ok r =>
      obtain ⟨s, c'⟩ := r
      have hbytes : c.bytes = bytes := bytes_of_run hh
      have hallowed := lockAllowed_ofSelection hs (Head.position_pos_of_scan hh)
      have hflag : (ofSelection mode h s c.position c'.position).flags.meets .lock =
          h.prefixes.lock := s.meets_lock_flags h
      rw [hbytes] at hallowed
      simp only [refuseLock, Except.bind, hallowed, hflag]
      cases h.prefixes.lock && !s.lockAllowed <;> rfl

lemma scan_strict_of_notMem (hlock : 0xF0 ∉ bytes.takeWhile (IsLegacy mode ·)) :
    scan mode true bytes = scan mode false bytes := by
  rw [scan_strict]
  cases he : scan mode false bytes with
  | error err => rfl
  | ok e =>
    obtain ⟨b, t, hsplit, hb, hP⟩ := exists_lead_of_scan he
    rw [hsplit] at he
    obtain ⟨-, -, hflag, -⟩ := effects_of_scan hP hb he
    have hclear : e.flags.meets .lock = false := by simpa [hlock] using hflag
    simp [refuseLock, hclear]

end Encoding

def Mnemonic.lockable : List Mnemonic :=
  [.general .ADD, .general .OR, .general .ADC, .general .SBB, .general .AND, .general .SUB,
    .general .XOR, .general .INC, .general .DEC, .general .NOT, .general .NEG, .general .XCHG,
    .general .XADD, .general .CMPXCHG, .general .CMPXCHG8B, .general .CMPXCHG16B, .general .BTS,
    .general .BTR, .general .BTC]

@[mk_iff]
structure Leaf.Lockable (l : Leaf) : Prop where
  mnemonic : l.entry.mnemonic ∈ Mnemonic.lockable
  exception : l.entry.exception = .none
  destination : l.entry.operands.head?.any OperandShape.addressed = true

instance (l : Leaf) : Decidable l.Lockable := decidable_of_iff _ (Leaf.lockable_iff l).symm

lemma OpcodeMap.lockable_of_table (m : OpcodeMap) :
    ∀ t ∈ m.table, ∀ l ∈ t.leaves {}, l.entry.lockable = true → l.Lockable := by
  cases m <;> decide +kernel

namespace Encoding

lemma mnemonic_mem_lockable (hm : e.entry.mnemonic ∈ Mnemonic.lockable)
    (hx : e.entry.exception = .none) : e.mnemonic ∈ Mnemonic.lockable := by
  have hsize : ∀ m ∈ Mnemonic.lockable, ∀ n k, (m.forOperandSize n).forAddressSize k = m := by
    intro m hm n k
    fin_cases hm <;> rfl
  have hwide : ∀ m ∈ Mnemonic.lockable, m.wide ∈ Mnemonic.lockable := by decide
  rw [mnemonic, hx]
  simp only [reduceCtorEq, if_false, hsize _ hm]
  split
  · exact hwide _ hm
  · exact hm

lemma memory_of_lock (hs : (h.scanBody mode true).run c = .ok (s, c'))
    (hpos : 0 < c.position) (he : e = ofSelection mode h s c.position c'.position)
    (hlock : h.prefixes.lock = true) :
    (∃ a os, (e.extract mode c.bytes).operands = .memory a :: os) ∧
      (e.extract mode c.bytes).mnemonic ∈ Mnemonic.lockable := by
  obtain ⟨hacc, ⟨l, hl⟩, -⟩ := Head.accepted_of_scanBody hs
  have hallowed := hacc.lock rfl hlock
  rw [Selection.lockAllowed, Bool.and_eq_true] at hallowed
  have hentry : e.entry = l.entry := by rw [he]; exact hl.entry.symm
  have hrule : l.Lockable := Opcode.forall_leaves OpcodeMap.lockable_of_table hl.mem
    (by rw [hl.entry]; exact hallowed.1)
  have hexception : e.entry.exception = .none := hentry ▸ hrule.exception
  refine ⟨?_, mnemonic_mem_lockable (hentry ▸ hrule.mnemonic) hexception⟩
  have hmemory := (agrees_read hs hpos he).memory
  rw [hallowed.2] at hmemory
  obtain ⟨a, ha⟩ := Option.isSome_iff_exists.mp hmemory
  -- the destination comes first, and it has the address in r/m
  obtain ⟨shape, hshape, haddressed⟩ := (Option.any_eq_true _ _).mp hrule.destination
  obtain ⟨w, hw⟩ := Fields.field?_of_addressed ha haddressed
  obtain ⟨ss, hshapes⟩ := List.head?_eq_some_iff.mp hshape
  have hnop : e.isNop = false := by simp [isNop, hexception]
  refine ⟨{ a with width := w },
    ((Fields.read mode c.bytes e).1.operands ss (Fields.read mode c.bytes e).2).1, ?_⟩
  rw [extract_operands, shapes, hnop, hentry, hshapes]
  simp only [Bool.false_eq_true, if_false, Fields.operands]
  rw [Fields.operand_of_not_trails (OperandShape.not_trails_of_addressed haddressed), hw]
  rfl

end Encoding

namespace Instruction

lemma memory_of_decode_strict {i : Instruction} (hi : decode mode true bytes = .ok i)
    (hlock : i.flags.meets .lock = true) :
    (∃ a os, i.operands = .memory a :: os) ∧ i.mnemonic ∈ Mnemonic.lockable := by
  obtain ⟨e, he, rfl⟩ := decode_eq_ok.mp hi
  obtain ⟨h, c, s, c', hh, hs, hes⟩ := Encoding.scan_eq_ok.mp he
  have hprefix : h.prefixes.lock = true := by
    rw [← s.meets_lock_flags h]
    rw [hes] at hlock
    exact hlock
  have hmemory := Encoding.memory_of_lock hs (Head.position_pos_of_scan hh) hes hprefix
  rwa [show c.bytes = bytes from bytes_of_run hh] at hmemory

end Instruction

/-- With the check of LOCK prefixes a scan gives what it gives without, unless the instruction has
such a prefix and is not one that the prefix makes atomic. -/
theorem Encoding.strict_scan_refines (mode : Mode) (bytes : List UInt8) :
    scan mode true bytes = refuseLock bytes (scan mode false bytes) ∧
      (0xF0 ∉ bytes.takeWhile (IsLegacy mode ·) →
        scan mode true bytes = scan mode false bytes ∧
          Instruction.decode mode true bytes = Instruction.decode mode false bytes) ∧
      ∀ i, Instruction.decode mode true bytes = .ok i → i.flags.meets .lock = true →
        (∃ a os, i.operands = .memory a :: os) ∧ i.mnemonic ∈ Mnemonic.lockable := by
  refine ⟨scan_strict mode bytes, fun hlock => ?_,
    fun i hi => Instruction.memory_of_decode_strict hi⟩
  have hscan := scan_strict_of_notMem hlock
  refine ⟨hscan, ?_⟩
  rw [Instruction.decode, Instruction.decode, hscan]

theorem Encoding.strict_scan_refines_add :
    scan .bits32 true [0xF0, 0x01, 0xC3] = .error ⟨.invalid, 3⟩ ∧
      scan .bits32 true [0x3E, 0x01, 0xC3] = scan .bits32 false [0x3E, 0x01, 0xC3] ∧
      ∃ i, Instruction.decode .bits32 true [0xF0, 0x01, 0x03] = .ok i ∧
        i.flags.meets .lock = true ∧ (∃ a os, i.operands = .memory a :: os) ∧
        i.mnemonic ∈ Mnemonic.lockable := by
  refine ⟨(strict_scan_refines .bits32 [0xF0, 0x01, 0xC3]).1.trans rfl,
    ((strict_scan_refines .bits32 [0x3E, 0x01, 0xC3]).2.1 (by decide)).1, ?_⟩
  obtain ⟨i, hi, hlock⟩ : ∃ i, Instruction.decode .bits32 true [0xF0, 0x01, 0x03] = .ok i ∧
      i.flags.meets .lock = true := ⟨_, rfl, rfl⟩
  exact ⟨i, hi, hlock, (strict_scan_refines .bits32 [0xF0, 0x01, 0x03]).2.2 i hi hlock⟩

end X86
