import Mathlib
import X86.Proofs.ByteDemand
import X86.Proofs.HeadBytes

/-! Generated code decodes as the opcode that it was made of, and there are always enough bytes. -/

namespace X86

open Cursor Scan PrefixByte

variable {strictLock : Bool}

namespace Generator

structure Span where
  start : ℕ
  stop : ℕ

def Span.cut (s : Span) (bs : List UInt8) : List UInt8 := bs.extract s.start s.stop

namespace Options

variable {o : Options}

lemma high_le_of_check (ho : o.check = .ok ()) : ∀ x ∈ o.extensions, x.high ≤ 7 := by
  intro x hx
  unfold check at ho
  simp only [Option.mem_def.mp hx] at ho
  split at ho
  · cases ho
  · by_contra hhigh
    rw [if_pos (Nat.lt_of_not_le hhigh)] at ho
    cases ho

lemma bounds_of_allowsExtension (ho : o.check = .ok ()) {n : Fin 8}
    (hn : o.allowsExtension n = true) : ∀ x ∈ o.extensions, x.low ≤ n ∧ n ≤ x.high := by
  intro x hx
  have hhigh := high_le_of_check ho x hx
  rw [allowsExtension, Option.mem_def.mp hx] at hn
  obtain ⟨k, hk, hkn⟩ := List.any_eq_true.mp hn
  obtain ⟨hlow, hlt⟩ := List.mem_range'_1.mp hk
  have hval : k % 8 = n := congrArg Fin.val (beq_iff_eq.mp hkn)
  omega

end Options

namespace Generated

variable {o : Options} {r : OpcodeRecord} {g : Generated}

def prefixSpan (g : Generated) : Span := ⟨0, g.prefixBytes.length⟩

def opcodeSpan (g : Generated) : Span :=
  ⟨g.prefixBytes.length, g.prefixBytes.length + g.opcodeBytes.length⟩

def modrmSpan (g : Generated) : Option Span :=
  g.modrm.map fun _ => ⟨g.opcodeSpan.stop, g.opcodeSpan.stop + g.modrmBytes.length⟩

namespace Possible

lemma isLegacy_sprinkled (hg : g.Possible o r) : ∀ x ∈ g.sprinkled, IsLegacy mode x :=
  fun x hx => isLegacy_of_pool _ x (hg.prefixes x hx)

lemma isLegacy_prefixBytes (hg : g.Possible o r) {slot : PrefixSlot} {rex : Option (Fin 16)}
    (hl : g.lead = .legacy slot rex) :
    (∀ x ∈ g.prefixBytes, IsLegacy o.mode x) ∧ g.prefixBytes.length ≤ 5 := by
  -- at most three sprinkled prefixes, a mandatory one and a REX prefix
  have hslot : slot.bytes.length ≤ 1 := by
    cases slot <;> decide
  have hrex : ∀ x ∈ rex.toList.map fun n : Fin 16 => UInt8.ofNat (0x40 + n.val),
      IsLegacy o.mode x := by
    intro x hx
    obtain ⟨n, hn, rfl⟩ := List.mem_map.mp hx
    have hsome : rex ≠ none := by
      rintro rfl
      simp at hn
    have hmode : o.mode = .bits64 := by
      have hsuits := hg.lead
      rw [hl] at hsuits
      cases hm : o.mode with
      | bits64 => rfl
      | _ => exact absurd (hsuits (by rw [hm]; rfl)) hsome
    have hIsRex : ∀ n : Fin 16, IsRex (UInt8.ofNat (0x40 + n.val)) := by
      decide
    exact Or.inr (Or.inr (Or.inr ⟨hmode, hIsRex n⟩))
  have hsprinkled := hg.sprinkled
  rw [prefixBytes, hl, Lead.bytes]
  constructor
  · simp only [List.mem_append]
    rintro x (hx | hx | hx)
    · exact hg.isLegacy_sprinkled x hx
    · exact slot.isLegacy_bytes x hx
    · exact hrex x hx
  · have hlength : rex.toList.length ≤ 1 := by
      cases rex <;> simp
    simp only [List.length_append, List.length_map]
    rw [sprinkles] at hsprinkled
    omega

end Possible

lemma bytes_of_vex {v : VexPrefix} (hl : g.lead = .vex v) : g.bytes = g.sprinkled ++
    v.lead :: (v.bytes.tail ++ g.record.opcode.byte :: (g.modrmBytes ++ g.tail)) := by
  have hbytes : v.bytes = v.lead :: v.bytes.tail := by rw [v.bytes_eq]; rfl
  simp only [bytes, prefixBytes, opcodeBytes, hl, Lead.bytes, Lead.isVex, if_true]
  rw [hbytes]
  simp

lemma bytes_of_legacy {slot : PrefixSlot} {rex : Option (Fin 16)} (hl : g.lead = .legacy slot rex) :
    g.bytes = g.prefixBytes ++ (g.record.opcode.bytes ++ (g.modrmBytes ++ g.tail)) := by
  simp [bytes, opcodeBytes, hl, Lead.isVex]

namespace Possible

lemma exists_run_scan_of_vex (hg : g.Possible o r) {v : VexPrefix} (hl : g.lead = .vex v) :
    ∃ h, (Head.scan o.mode).run (.start g.bytes) = .ok (h, ⟨g.bytes, g.opcodeSpan.stop⟩) ∧
      h.opcode = g.record.opcode ∧ h.vex.isSome = true := by
  have hsuits := hg.lead
  rw [hl, ← hg.record] at hsuits
  have hallow : (Prefixes.summary g.sprinkled).allowVex = true := by
    apply Prefixes.allowVex_summary
    simpa [hl, Lead.isVex] using hg.prefixes
  have hnot : ¬IsLegacy o.mode v.lead := by
    unfold VexPrefix.lead
    cases v.short <;> cases o.mode <;> decide
  have hlength : v.bytes.length ≤ 3 := by
    rw [v.bytes_eq]
    cases v.short <;> simp
  have hstop : g.opcodeSpan.stop = g.sprinkled.length + 1 + v.bytes.length := by
    simp [opcodeSpan, prefixBytes, opcodeBytes, hl, Lead.bytes, Lead.isVex]
    omega
  have hsprinkled : g.sprinkled.length ≤ 3 := hg.sprinkled
  have hroom : g.sprinkled.length + 1 + v.bytes.length ≤ maxLength := by
    rw [maxLength]
    omega
  obtain ⟨h, hrun, hopcode, hvex⟩ :=
    Head.exists_run_ofLead_vex hsuits hallow (rest_append_cons _ v.lead _) hroom
  refine ⟨h, ?_, hopcode, hvex⟩
  rw [bytes_of_vex hl, hstop]
  exact (Head.run_scan_eq_ok hg.isLegacy_sprinkled hnot).mpr
    ⟨hsprinkled.trans_lt (by decide), hrun⟩

lemma exists_run_scan_of_legacy (hg : g.Possible o r) (hr : r.Readable o.mode) {slot : PrefixSlot}
    {rex : Option (Fin 16)} (hl : g.lead = .legacy slot rex) :
    ∃ h, (Head.scan o.mode).run (.start g.bytes) = .ok (h, ⟨g.bytes, g.opcodeSpan.stop⟩) ∧
      h.opcode = g.record.opcode ∧ h.vex.isSome = false := by
  obtain ⟨hP, hlength⟩ := hg.isLegacy_prefixBytes hl
  have hstop : g.opcodeSpan.stop = g.prefixBytes.length + g.record.opcode.bytes.length := by
    simp [opcodeSpan, opcodeBytes, hl, Lead.isVex]
  have hrecord := hg.record
  rw [← hrecord] at hr
  rw [bytes_of_legacy hl, hstop]
  refine ⟨_, Head.run_scan_opcode hP hlength hr.notPrefix hr.notEscape fun hop => ?_, rfl, rfl⟩
  -- what would be a VEX prefix loads a far pointer, and has a ModR/M byte that names memory
  obtain ⟨hmode, hmodrm, hform⟩ := hr.notVex hop
  rw [hrecord] at hmodrm hform
  obtain ⟨m, hm⟩ := Option.isSome_iff_exists.mp (hg.modrm.trans hmodrm)
  refine ⟨hmode, m.toByte, ?_, m.toByte_lt (hg.form m hm hform)⟩
  simp [modrmBytes, hm]

lemma exists_run_scan (hg : g.Possible o r) (hr : r ∈ o.candidates) :
    ∃ h, (Head.scan o.mode).run (.start g.bytes) = .ok (h, ⟨g.bytes, g.opcodeSpan.stop⟩) ∧
      h.opcode = g.record.opcode ∧ h.vex.isSome = g.lead.isVex := by
  obtain ⟨hall, haccepts⟩ := List.mem_filter.mp hr
  simp only [Options.accepts, Bool.and_eq_true] at haccepts
  have hreadable := OpcodeRecord.readable_of_validIn hall haccepts.1.1.1.1
  cases hl : g.lead with
  | legacy slot rex => exact hg.exists_run_scan_of_legacy hreadable hl
  | vex v => exact hg.exists_run_scan_of_vex hl

end Possible

structure LaidOut (o : Options) (r : OpcodeRecord) (g : Generated) : Prop where
  record : g.record = r
  meet : g.prefixSpan.stop = g.opcodeSpan.start
  prefixes : g.prefixSpan.cut g.bytes = g.sprinkled ++ g.lead.bytes
  opcode : g.opcodeSpan.cut g.bytes = if g.lead.isVex then [r.opcode.byte] else r.opcode.bytes
  modrm : g.modrmSpan.isSome = r.hasModRM
  reg : ∀ s ∈ g.modrmSpan, ∃ b, g.bytes[s.start]? = some b ∧ (ModRM.ofByte b).reg ∈ r.extensions ∧
    ∀ x ∈ o.extensions, x.low ≤ (ModRM.ofByte b).reg ∧ (ModRM.ofByte b).reg ≤ x.high

/-- Decoding a generated instruction never lacks bytes and meets its opcode at its place. If it
succeeds, then it has taken the prefix, the opcode and the ModR/M byte for what they are. -/
structure OnTarget (mode : Mode) (strictLock : Bool) (g : Generated) : Prop where
  error : ∀ e, Instruction.decode mode strictLock g.bytes = .error e →
    e.cause ≠ .truncated ∧ e.consumed ≤ g.bytes.length
  head : ∃ h, (Head.scan mode).run (.start g.bytes) = .ok (h, ⟨g.bytes, g.opcodeSpan.stop⟩) ∧
    h.opcode = g.record.opcode ∧ h.vex.isSome = g.lead.isVex
  ok : ∀ i, Instruction.decode mode strictLock g.bytes = .ok i →
    i.vex = g.lead.isVex ∧ g.opcodeSpan.stop ≤ i.length ∧
      ∃ e, Encoding.scan mode strictLock g.bytes = .ok e ∧ e.extract mode g.bytes = i ∧
        e.opcodeOffset + 1 = g.opcodeSpan.stop ∧
        (e.hasModRM = true → ∃ s ∈ g.modrmSpan, e.operandOffset = s.start)

lemma modrm_bytes {m : ModRM} (hm : g.modrm = some m) :
    g.bytes[g.opcodeSpan.stop]? = some m.toByte := by
  have hstop : g.opcodeSpan.stop = (g.prefixBytes ++ g.opcodeBytes).length := by
    rw [List.length_append]
    rfl
  rw [bytes, List.append_assoc, hstop, List.getElem?_append_right le_rfl, Nat.sub_self,
    modrmBytes, hm]
  rfl

lemma length_bytes (g : Generated) :
    g.bytes.length = g.opcodeSpan.stop + g.modrmBytes.length + g.tail.length := by
  simp [bytes, opcodeSpan, Nat.add_assoc]

namespace Possible

lemma laidOut (hg : g.Possible o r) (ho : o.check = .ok ()) : g.LaidOut o r where
  record := hg.record
  meet := rfl
  prefixes := by
    rw [Span.cut, prefixSpan, bytes, List.append_assoc, List.append_assoc,
      List.extract_eq_take_drop]
    exact List.take_left
  opcode := by
    rw [Span.cut, opcodeSpan, bytes, List.append_assoc, List.append_assoc,
      List.extract_eq_take_drop]
    simp [opcodeBytes, hg.record]
  modrm := by
    rw [modrmSpan, Option.isSome_map]
    exact hg.modrm
  reg := by
    intro s hs
    obtain ⟨m, hm, rfl⟩ := Option.map_eq_some_iff.mp hs
    obtain ⟨hreg, hallows⟩ := List.mem_filter.mp (hg.reg m hm)
    refine ⟨m.toByte, modrm_bytes hm, ?_⟩
    rw [ModRM.ofByte_toByte]
    exact ⟨hreg, Options.bounds_of_allowsExtension ho hallows⟩

lemma supplied (hg : g.Possible o r) (hr : r ∈ o.candidates) {e : DecodeError}
    (he : Instruction.decode o.mode strictLock g.bytes = .error e) :
    e.cause ≠ .truncated ∧ e.consumed ≤ g.bytes.length := by
  obtain ⟨h, hrun, -⟩ := hg.exists_run_scan hr
  have hroom : g.opcodeSpan.stop + 10 ≤ g.bytes.length := by
    rw [length_bytes, hg.tail, tailLength]
    omega
  have hscan := Instruction.decode_eq_error.mp he
  simp only [Encoding.scan, Encoding.scanBy, hrun] at hscan
  cases hs : (h.scanBody o.mode strictLock).run ⟨g.bytes, g.opcodeSpan.stop⟩ with
  | ok s => simp [hs] at hscan
  | error e' =>
    obtain rfl : e' = e := by simpa [hs] using hscan
    exact Head.supplied_scanBody hroom e' hs

lemma exists_modrmSpan (hg : g.Possible o r) (hr : r ∈ o.candidates) {h : Head} {s : Selection}
    {c c' : Cursor} (hopcode : h.opcode = g.record.opcode)
    (hs : (h.scanBody o.mode strictLock).run c = .ok (s, c')) (hm : s.modrm.isSome = true) :
    ∃ x ∈ g.modrmSpan, x.start = g.opcodeSpan.stop := by
  obtain ⟨m, hm⟩ := Option.isSome_iff_exists.mp hm
  obtain ⟨r', hr', -, hcovers⟩ := OpcodeRecord.exists_covers hs
  rw [hopcode, hg.record, OpcodeRecord.ofOpcode?_of_mem_all (List.mem_filter.mp hr).1] at hr'
  obtain rfl := Option.some.inj hr'
  obtain ⟨n, hn⟩ := Option.isSome_iff_exists.mp (hg.modrm.trans (hcovers.modrm m hm).1)
  exact ⟨_, Option.map_eq_some_iff.mpr ⟨n, hn, rfl⟩, rfl⟩

lemma onTarget (hg : g.Possible o r) (hr : r ∈ o.candidates) : g.OnTarget o.mode strictLock := by
  obtain ⟨h, hrun, hopcode, hvex⟩ := hg.exists_run_scan hr
  refine ⟨fun e he => hg.supplied hr he, ⟨h, hrun, hopcode, hvex⟩, fun i hi => ?_⟩
  obtain ⟨e, he, rfl⟩ := Instruction.decode_eq_ok.mp hi
  obtain ⟨h', c, s, c', hh, hs, hes⟩ := Encoding.scan_eq_ok.mp he
  obtain ⟨rfl, rfl⟩ := Prod.mk.inj (Except.ok.inj (hh.symm.trans hrun))
  have hisVex : e.isVex = g.lead.isVex := by
    rw [hes]
    exact hvex
  have hlength : g.opcodeSpan.stop ≤ e.length := by
    rw [hes]
    exact position_le_of_run hs
  have hoffset : e.opcodeOffset + 1 = g.opcodeSpan.stop := by
    rw [hes]
    exact Nat.sub_add_cancel (Head.position_pos_of_scan hh)
  refine ⟨hisVex, hlength, e, he, rfl, hoffset, fun hm => ?_⟩
  rw [hes] at hm
  obtain ⟨x, hx, hstart⟩ := hg.exists_modrmSpan hr hopcode hs hm
  exact ⟨x, hx, hoffset.trans hstart.symm⟩

end Possible

end Generated

variable {o : Options}

lemma generate_eq (ho : o.check = .ok ()) (ns : List ℕ) :
    if o.candidates = [] then (generate o ns).1 = .error .noCandidates
    else ∃ r ∈ o.candidates, ∃ ns', (generate o ns).1 = .ok (o.drawInstruction r ns').1 := by
  cases hc : o.candidates with
  | nil =>
    unfold generate
    rw [if_pos rfl, ho, hc]
    rfl
  | cons first rest =>
    rw [if_neg (List.cons_ne_nil _ _)]
    exact ⟨_, Draw.yields_pick (List.cons_ne_nil first rest) ns, _,
      generate_of_candidates ho hc ns⟩

/-- Under options that pass their check, every generated instruction is one that they allow, and
decoding it meets its opcode without lacking bytes. -/
theorem generate_onTarget (ho : o.check = .ok ()) :
    (∀ r ∈ o.candidates, ∀ ns, (o.drawInstruction r ns).1.LaidOut o r ∧
      ∀ strictLock, (o.drawInstruction r ns).1.OnTarget o.mode strictLock) ∧
    ∀ ns, if o.candidates = [] then (generate o ns).1 = .error .noCandidates
      else ∃ r ∈ o.candidates, ∃ ns', (generate o ns).1 = .ok (o.drawInstruction r ns').1 := by
  refine ⟨fun r hr ns => ?_, generate_eq ho⟩
  have hg := Options.yields_drawInstruction hr ns
  exact ⟨hg.laidOut ho, fun strictLock => hg.onTarget hr⟩

theorem generate_onTarget_addpd :
    ({ Options.everything .bits32 with prefixRate := 1 } : Options).check = .ok () ∧
      ∃ g : Generated, g.bytes =
        [0x64, 0x2E, 0x67, 0xC5, 0xD1, 0x58, 0x5C, 0, 0, 0, 0, 0, 0, 0, 0, 0, 0] ∧
        g.lead.isVex = true ∧ g.OnTarget .bits32 false := by
  have ho : ({ Options.everything .bits32 with prefixRate := 1 } : Options).check = .ok () := rfl
  have hall : (OpcodeRecord.ofOpcode? ⟨.map0F, 0x58⟩).getD default ∈ OpcodeRecord.all :=
    List.mem_filterMap.mpr ⟨⟨.map0F, 0x58⟩,
      List.mem_flatMap.mpr ⟨.map0F, by decide, Opcode.mem_ofMap _⟩, rfl⟩
  have hr : (OpcodeRecord.ofOpcode? ⟨.map0F, 0x58⟩).getD default ∈
      ({ Options.everything .bits32 with prefixRate := 1 } : Options).candidates :=
    List.mem_filter.mpr ⟨hall, by decide⟩
  refine ⟨ho, _, ?_, ?_,
    ((generate_onTarget ho).1 _ hr [1, 1, 0, 4, 0, 0, 0, 6, 0, 5, 0, 1, 1, 3, 4]).2 false⟩
  · decide
  · decide

end Generator

end X86
