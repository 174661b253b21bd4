import Mathlib
import X86.Proofs.Selections

namespace X86

open Scan

variable {mode : Mode} {strictLock : Bool} {h : Head} {s : Selection} {l : Leaf} {o : Opcode}
  {c c' : Cursor}

structure OpcodeRecord.Covers (r : OpcodeRecord) (mode : Mode) (strictLock : Bool) (h : Head)
    (s : Selection) : Prop where
  mode : (if mode.isLong then r.validIn64 else r.validOutside64) = true
  modrm : ∀ m ∈ s.modrm, r.hasModRM = true ∧ m.reg ∈ r.extensions ∧
    (if m.isRegister then r.registerForm else r.memoryForm) = true
  slot : s.slot.getD .plain ∈ r.slots
  encoding : (if h.vex.isSome then r.vex else r.legacy) = true
  register : ∀ v ∈ h.vex, v.register ≠ 0 → r.usesVexRegister = true
  lock : strictLock = true → h.prefixes.lock = true → r.lockable = true

namespace OpcodeRecord

lemma ofOpcode?_of_mem (hl : l ∈ o.tree.leaves {}) :
    ∃ first, ofOpcode? o = some (ofLeaves o first (o.tree.leaves {})) := by
  unfold ofOpcode?
  cases ht : o.tree.leaves {} with
  | nil => simp [ht] at hl
  | cons first rest => exact ⟨first, rfl⟩

lemma covers_ofLeaves {first : Leaf} {ls : List Leaf} (hmem : l ∈ ls) (hl : l.Selects mode h s)
    (hs : s.Accepted mode strictLock h) : (ofLeaves o first ls).Covers mode strictLock h s := by
  have hany {p : Leaf → Bool} (hp : p l = true) : ls.any p = true :=
    List.any_eq_true.mpr ⟨l, hmem, hp⟩
  constructor
  · have := hl.valid hs.toSuitsPrefixes
    cases hm : mode.isLong <;> rw [hm] at this <;> exact hany this
  · intro m hm
    refine ⟨hany (hl.hasModRM hm), ?_, ?_⟩
    · exact List.mem_filter.mpr ⟨List.mem_finRange _, hany (hl.hasExtension hm)⟩
    · have := hl.hasForm hs hm
      cases hr : m.isRegister <;> rw [hr] at this <;> exact hany this
  · refine List.mem_filter.mpr ⟨PrefixSlot.mem_all _, hany ?_⟩
    simp [Leaf.slot, hl.slot]
  · have := hl.hasEncoding hs.toSuitsPrefixes
    cases hv : h.vex.isSome <;> rw [hv] at this <;> exact hany this
  · intro v hv hne
    refine hany (Bool.and_eq_true_iff.mpr ⟨?_, ?_⟩)
    · simpa [Option.mem_def.mp hv] using hl.hasEncoding hs.toSuitsPrefixes
    · rw [hl.entry]
      exact (hs.register v hv).resolve_left hne
  · intro hst hlk
    have := hs.lock hst hlk
    rw [Selection.lockAllowed, Bool.and_eq_true] at this
    exact hany (by rw [hl.entry]; exact this.1)

lemma exists_covers (hs : (h.scanBody mode strictLock).run c = .ok (s, c')) :
    ∃ r, ofOpcode? h.opcode = some r ∧ r.opcode = h.opcode ∧ r.Covers mode strictLock h s := by
  obtain ⟨hacc, ⟨l, hl⟩, -⟩ := Head.accepted_of_scanBody hs
  obtain ⟨first, hfirst⟩ := ofOpcode?_of_mem hl.mem
  exact ⟨_, hfirst, rfl, covers_ofLeaves hl.mem hl hacc⟩

end OpcodeRecord

namespace Leaf

def sampleMode (l : Leaf) : Mode := if l.validIn64 then .bits64 else .bits32

def sampleModRM (l : Leaf) : ModRM := ⟨if l.hasMemoryForm then 0 else 3, l.path.reg.getD 0, 0⟩

def sample (o : Opcode) (l : Leaf) : List UInt8 :=
  (if l.hasLegacy then l.slot.bytes ++ o.bytes
  else [0xC4, UInt8.ofNat (0xE0 + o.map.rank), UInt8.ofNat (0x78 + l.slot.number), o.byte]) ++
    l.sampleModRM.toByte :: List.replicate 8 0

def reaches (o : Opcode) (l : Leaf) : Bool :=
  match (Head.scan l.sampleMode).run (.start (l.sample o)) with
  | .ok (h, c) => h.opcode == o && ((h.scanBody l.sampleMode false).run c).toOption.isSome
  | .error _ => false

end Leaf

def Opcode.isReached (o : Opcode) : Bool := (o.tree.leaves {}).head?.all fun l => l.reaches o

namespace Opcode

lemma all_isReached (m : OpcodeMap) : (ofMap m).all isReached = true := by
  cases m <;> decide +kernel

lemma mem_ofMap (o : Opcode) : o ∈ ofMap o.map :=
  List.mem_map.mpr ⟨o.byte.toNat, List.mem_range.mpr o.byte.toNat_lt, by simp⟩

end Opcode

namespace OpcodeRecord

lemma exists_scan {r : OpcodeRecord} (hr : ofOpcode? o = some r) :
    ∃ mode bytes h c r, (Head.scan mode).run (.start bytes) = .ok (h, c) ∧ h.opcode = o ∧
      (h.scanBody mode false).run c = .ok r := by
  have hreached := List.all_eq_true.mp (Opcode.all_isReached o.map) o o.mem_ofMap
  unfold ofOpcode? at hr
  unfold Opcode.isReached at hreached
  cases hl : o.tree.leaves {} with
  | nil => simp [hl] at hr
  | cons l ls =>
    rw [hl, List.head?_cons, Option.all_some, Leaf.reaches] at hreached
    split at hreached
    · rename_i h c hh
      rw [Bool.and_eq_true, beq_iff_eq] at hreached
      refine ⟨l.sampleMode, l.sample o, h, c, ?_⟩
      cases hs : (h.scanBody l.sampleMode false).run c with
      | ok r => exact ⟨r, hh, hreached.1, rfl⟩
      | error err => simp [hs, Except.toOption] at hreached
    · cases hreached

/-- The survey of an opcode allows for every scanned instruction, and there is one wherever it says
so. -/
theorem covers_of_scan :
    (∀ mode strictLock bytes e, Encoding.scan mode strictLock bytes = .ok e →
      ∃ h c s c', (Head.scan mode).run (.start bytes) = .ok (h, c) ∧
        (h.scanBody mode strictLock).run c = .ok (s, c') ∧
        e = Encoding.ofSelection mode h s c.position c'.position ∧
        ∃ r, ofOpcode? h.opcode = some r ∧ r.opcode = h.opcode ∧ r.Covers mode strictLock h s) ∧
    ∀ o r, ofOpcode? o = some r →
      ∃ mode bytes h c e, (Head.scan mode).run (.start bytes) = .ok (h, c) ∧ h.opcode = o ∧
        Encoding.scan mode false bytes = .ok e := by
  refine ⟨fun mode strictLock bytes e he => ?_, fun o r hr => ?_⟩
  · obtain ⟨h, c, s, c', hh, hs, he⟩ := Encoding.scan_eq_ok.mp he
    exact ⟨h, c, s, c', hh, hs, he, exists_covers hs⟩
  · obtain ⟨mode, bytes, h, c, ⟨s, c'⟩, hh, ho, hs⟩ := exists_scan hr
    exact ⟨mode, bytes, h, c, _, hh, ho, Encoding.scan_eq_ok.mpr ⟨h, c, s, c', hh, hs, rfl⟩⟩

end OpcodeRecord

end X86
