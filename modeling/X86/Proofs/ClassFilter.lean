import Mathlib
import X86.Proofs.GeneratedCode
import X86.Proofs.OperandKinds

/-! Generated instructions belong to the classes that the options allow, as far as the class that an
opcode is recorded with is that of all instructions under it. -/

namespace X86

open Scan

variable {mode : Mode} {strictLock : Bool} {bytes : List UInt8} {e : Encoding}

def DecodeTree.isUniform (strays : List Mnemonic) (d : DecodeTree) : Bool :=
  match d.leaves {} with
  | [] => true
  | first :: ls => (first :: ls).all fun l =>
    l.entry.mnemonic.classOf == first.entry.mnemonic.classOf || strays.contains l.entry.mnemonic

namespace Opcode

/-- The instructions under an opcode that are of another class than the first one. -/
def strays (o : Opcode) : List Mnemonic :=
  if o = ⟨.map0F, 0xAE⟩ then [.sse .LDMXCSR, .sse .STMXCSR]
  else if o = ⟨.map0F, 0xC7⟩ then
    [.system .XRSTORS, .system .XRSTORS64, .system .XSAVEC, .system .XSAVEC64, .system .XSAVES,
      .system .XSAVES64]
  else []

lemma isUniform_of_table (t : OpcodeMap) :
    ∀ p ∈ t.table.zipIdx, p.1.isUniform (strays ⟨t, UInt8.ofNat p.2⟩) = true := by
  have hall : (t.table.zipIdx.all fun p => p.1.isUniform (strays ⟨t, UInt8.ofNat p.2⟩)) = true := by
    cases t <;> decide +kernel
  simpa only [List.all_eq_true] using hall

lemma isUniform_tree (o : Opcode) : o.tree.isUniform o.strays = true := by
  have hlt : o.byte.toNat < o.map.table.length := by
    rw [OpcodeMap.length_table]
    exact o.byte.toNat_lt
  have hmem : (o.tree, o.byte.toNat) ∈ o.map.table.zipIdx := by
    rw [List.mem_zipIdx_iff_getElem?, tree, List.getD_eq_getElem _ _ hlt,
      List.getElem?_eq_getElem hlt]
  simpa using isUniform_of_table o.map _ hmem

lemma key_injective : Function.Injective key := by
  rintro ⟨t, b⟩ ⟨u, c⟩ h
  have hb := b.toNat_lt
  have hc := c.toNat_lt
  have hrank : Function.Injective OpcodeMap.rank := by
    intro t u
    cases t <;> cases u <;> decide
  simp only [key] at h
  obtain rfl : t = u := hrank (by omega)
  rw [UInt8.toNat_inj.mp (show b.toNat = c.toNat by omega)]

lemma mem_all (o : Opcode) : o ∈ all := by
  refine List.mem_flatMap.mpr ⟨o.map, ?_, o.mem_ofMap⟩
  cases o.map <;> decide

variable {o : Opcode}

lemma mem_strays_of_kin : ∀ p ∈ Mnemonic.kin, p.2 ∈ o.strays → p.1 ∈ o.strays := by
  rw [strays]
  split_ifs <;> decide

end Opcode

namespace OpcodeRecord

variable {o : Opcode} {r : OpcodeRecord} {l : Leaf}

lemma classOf_of_mem (hr : ofOpcode? o = some r) (hl : l ∈ o.tree.leaves {}) :
    l.entry.mnemonic.classOf = r.classOf ∨ l.entry.mnemonic ∈ o.strays := by
  have huniform := o.isUniform_tree
  rw [ofOpcode?] at hr
  rw [DecodeTree.isUniform] at huniform
  cases hleaves : o.tree.leaves {} with
  | nil => simp [hleaves] at hl
  | cons first rest =>
    rw [hleaves] at hr huniform hl
    obtain rfl := Option.some.inj hr
    simpa [ofLeaves] using List.all_eq_true.mp huniform l hl

end OpcodeRecord

namespace Encoding

lemma classOf_of_scan {h : Head} {c : Cursor} {r : OpcodeRecord}
    (he : scan mode strictLock bytes = .ok e)
    (hh : (Head.scan mode).run (.start bytes) = .ok (h, c))
    (hr : OpcodeRecord.ofOpcode? h.opcode = some r) :
    e.mnemonic.classOf = r.classOf ∨ e.mnemonic ∈ h.opcode.strays := by
  obtain ⟨h', c', s, d, hh', hs, hes⟩ := scan_eq_ok.mp he
  obtain ⟨rfl, rfl⟩ := Prod.mk.inj (Except.ok.inj (hh'.symm.trans hh))
  obtain ⟨-, ⟨l, hl⟩, -⟩ := Head.accepted_of_scanBody hs
  have hentry : l.entry = e.entry := by rw [hes]; exact hl.entry
  have hclass := OpcodeRecord.classOf_of_mem hr hl.mem
  rw [hentry] at hclass
  refine mnemonic_of_kin (P := fun m => m.classOf = r.classOf ∨ m ∈ h'.opcode.strays)
    (fun p hp => ?_) he hclass
  exact Or.imp (Mnemonic.shared_classOf p hp).trans (Opcode.mem_strays_of_kin p hp)

end Encoding

namespace Generator

variable {o : Options} {g : Generated} {i : Instruction} {ns : List ℕ}

lemma Options.check_eq_ok (hrate : 0 ≤ o.prefixRate ∧ o.prefixRate ≤ 1)
    (hbounds : ∀ x ∈ o.extensions, x.high ≤ 7) : o.check = .ok () := by
  unfold check
  rw [if_neg (by simp [hrate])]
  cases hx : o.extensions with
  | none => rfl
  | some x => exact if_neg (Nat.not_lt.mpr (hbounds x hx))

lemma Options.allowsClass_of_mem_candidates {r : OpcodeRecord} (hr : r ∈ o.candidates) :
    o.allowsClass r.classOf = true := by
  have haccepts := (List.mem_filter.mp hr).2
  simp only [Options.accepts, Bool.and_eq_true] at haccepts
  exact haccepts.1.1.1.2

lemma Generated.Possible.classOf_of_decode {r : OpcodeRecord} (hg : g.Possible o r)
    (hr : r ∈ o.candidates) (hi : Instruction.decode o.mode strictLock g.bytes = .ok i) :
    i.mnemonic.classOf = r.classOf ∨ i.mnemonic ∈ r.opcode.strays := by
  obtain ⟨h, hrun, hopcode, -⟩ := hg.exists_run_scan hr
  obtain ⟨e, he, rfl⟩ := Instruction.decode_eq_ok.mp hi
  rw [hg.record] at hopcode
  have hrecord := OpcodeRecord.ofOpcode?_of_mem_all (List.mem_filter.mp hr).1
  rw [← hopcode] at hrecord ⊢
  exact Encoding.classOf_of_scan he hrun hrecord

/-- The filter looks at the class that an opcode is recorded with, which lets through a few
instructions of two opcodes and no others. -/
theorem allowsClass_of_generate (ho : o.check = .ok ()) (hg : (generate o ns).1 = .ok g)
    (hi : Instruction.decode o.mode strictLock g.bytes = .ok i) :
    o.allowsClass i.mnemonic.classOf = true ∨ i.mnemonic ∈ g.record.opcode.strays := by
  have hgenerate := generate_eq ho ns
  split_ifs at hgenerate with hnone
  · rw [hgenerate] at hg
    cases hg
  · obtain ⟨r, hr, ns', hdrawn⟩ := hgenerate
    obtain rfl := Except.ok.inj (hg.symm.trans hdrawn)
    have hpossible := Options.yields_drawInstruction hr ns'
    rw [hpossible.record]
    refine (hpossible.classOf_of_decode hr hi).imp_left fun hclass => ?_
    rw [hclass]
    exact Options.allowsClass_of_mem_candidates hr

lemma generate_of_opcode {x : Opcode} {r : OpcodeRecord} (ho : o.check = .ok ())
    (hx : o.opcodes = some ⟨x.key, x.key⟩) (hr : OpcodeRecord.ofOpcode? x = some r)
    (haccepts : o.accepts r = true) (ns : List ℕ) :
    (generate o ns).1 = .ok (o.drawInstruction r ns.tail).1 := by
  -- keys tell opcodes apart, so there is one record to pick from
  have hone : ∀ r' ∈ o.candidates, r' = r := by
    intro r' hr'
    obtain ⟨hall, haccepts'⟩ := List.mem_filter.mp hr'
    simp only [Options.accepts, Bool.and_eq_true, hx, Option.all_some, Bounds.contains,
      decide_eq_true_eq] at haccepts'
    have hopcode : r'.opcode = x :=
      Opcode.key_injective (le_antisymm haccepts'.1.2.2 haccepts'.1.2.1)
    have hr'' := OpcodeRecord.ofOpcode?_of_mem_all hall
    rw [hopcode, hr] at hr''
    exact (Option.some.inj hr'').symm
  have hmem : r ∈ o.candidates :=
    List.mem_filter.mpr ⟨List.mem_filterMap.mpr ⟨x, x.mem_all, hr⟩, haccepts⟩
  cases hc : o.candidates with
  | nil => simp [hc] at hmem
  | cons first rest =>
    rw [hc] at hone
    have hpick := hone _ (@Draw.yields_pick _ first _ (List.cons_ne_nil first rest) ns)
    rw [generate_of_candidates ho hc, hpick]

theorem allowsClass_of_generate_add : ∃ o : Options, ∃ g i, o.allowSimd = false ∧
    (generate o [0, 0, 0, 1, 0, 1, 0, 1]).1 = .ok g ∧
    Instruction.decode o.mode false g.bytes = .ok i ∧ i.mnemonic = .general .ADD ∧
    (o.allowsClass i.mnemonic.classOf = true ∨ i.mnemonic ∈ g.record.opcode.strays) := by
  let o : Options := { mode := .bits32, opcodes := some ⟨0, 0⟩, prefixRate := 1 }
  have ho : o.check = .ok () := Options.check_eq_ok (by decide) nofun
  obtain ⟨g, hg, hbytes⟩ : ∃ g, (generate o [0, 0, 0, 1, 0, 1, 0, 1]).1 = .ok g ∧
      g.bytes = 0x2E :: 0x2E :: 0x2E :: List.replicate 12 0 :=
    ⟨_, generate_of_opcode (x := ⟨.primary, 0⟩) ho rfl rfl rfl _,
      by decide⟩
  obtain ⟨i, hi, hm⟩ : ∃ i, Instruction.decode .bits32 false
      (0x2E :: 0x2E :: 0x2E :: List.replicate 12 0) = .ok i ∧ i.mnemonic = .general .ADD :=
    ⟨_, rfl, rfl⟩
  rw [← hbytes] at hi
  exact ⟨o, g, i, rfl, hg, hi, hm, allowsClass_of_generate ho hg hi⟩

/-- Without instructions for operating systems, an opcode of general instructions still yields
one. -/
theorem allowsClass_eq_false_of_generate_xsavec : ∃ o : Options, ∃ g i, o.check = .ok () ∧
    (generate o [0, 0, 0, 1, 0, 1, 0, 1]).1 = .ok g ∧
    Instruction.decode o.mode false g.bytes = .ok i ∧ i.mnemonic = .system .XSAVEC ∧
    o.allowsClass i.mnemonic.classOf = false := by
  let o : Options :=
    { mode := .bits32, opcodes := some ⟨455, 455⟩, extensions := some ⟨4, 4⟩, prefixRate := 1 }
  have ho : o.check = .ok () :=
    Options.check_eq_ok (by decide) fun x hx => by obtain rfl := Option.some.inj hx; decide
  obtain ⟨g, hg, hbytes⟩ : ∃ g, (generate o [0, 0, 0, 1, 0, 1, 0, 1]).1 = .ok g ∧
      g.bytes = [0x2E, 0x2E, 0x2E, 0x0F, 0xC7, 0x20, 0, 0, 0, 0, 0, 0, 0, 0, 0, 0] :=
    ⟨_, generate_of_opcode (x := ⟨.map0F, 0xC7⟩) ho rfl rfl rfl _,
      by decide⟩
  obtain ⟨i, hi, hm⟩ : ∃ i, Instruction.decode .bits32 false
      [0x2E, 0x2E, 0x2E, 0x0F, 0xC7, 0x20, 0, 0, 0, 0, 0, 0, 0, 0, 0, 0] = .ok i ∧
      i.mnemonic = .system .XSAVEC := ⟨_, rfl, rfl⟩
  rw [← hbytes] at hi
  exact ⟨o, g, i, ho, hg, hi, hm, by rw [hm]; rfl⟩

end Generator

end X86
