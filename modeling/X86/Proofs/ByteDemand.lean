import Mathlib
import X86.Proofs.Layout
import X86.Proofs.OperandRegisters

/-! How many bytes behind an opcode are enough to tell whether there is an instruction. -/

namespace X86

namespace Scan

open Cursor

variable {α β : Type} {s : Scan α} {c c' : Cursor}

/-- The bytes are enough for a scan: if it fails, then not for want of bytes, and it has looked only
at bytes that are there. -/
def Supplied (s : Scan α) (c : Cursor) : Prop :=
  ∀ e, s.run c = .error e → e.cause ≠ .truncated ∧ e.consumed ≤ c.bytes.length

lemma supplied_done (a : α) : (done a).Supplied c := nofun

lemma supplied_fail {cause : DecodeError.Cause} (hcause : cause ≠ .truncated)
    (hc : c.position ≤ c.bytes.length) : (fail cause : Scan α).Supplied c := by
  intro e he
  obtain rfl := Except.error.inj he
  exact ⟨hcause, hc⟩

lemma supplied_bind {k : α → Scan β} (hs : s.Supplied c)
    (hk : ∀ a d, s.run c = .ok (a, d) → (k a).Supplied d) : (s >>= k).Supplied c := by
  intro e he
  rw [run_bind] at he
  cases hr : s.run c with
  | error e' =>
    rw [hr] at he
    obtain rfl := Except.error.inj he
    exact hs e' hr
  | ok r =>
    rw [hr] at he
    rw [← bytes_of_run hr]
    exact hk r.1 r.2 hr e he

lemma supplied_fetch {next : UInt8 → Scan α} (hc : c.position < c.bytes.length)
    (hn : ∀ b, c.current = .ok b → (next b).Supplied (c.advance 1)) : (fetch next).Supplied c := by
  intro e he
  simp only [run, Cursor.fetch] at he
  cases hb : c.current with
  | ok b =>
    rw [hb] at he
    exact hn b hb e he
  | error e' =>
    rw [hb] at he
    obtain rfl := Except.error.inj he
    rcases Cursor.current_eq_error.mp hb with ⟨hl, rfl⟩ | ⟨-, hlen, -⟩
    · exact ⟨by decide, (by omega : maxLength ≤ c.bytes.length)⟩
    · omega

lemma supplied_drop {n : ℕ} (hc : c.position + n ≤ c.bytes.length) : (drop n).Supplied c := by
  intro e he
  simp only [drop, run] at he
  cases hd : c.skip n with
  | ok d => simp [hd] at he
  | error e' =>
    rw [hd] at he
    obtain rfl := Except.error.inj he
    rcases Cursor.skip_eq_error.mp hd with ⟨hl, rfl⟩ | ⟨-, hlen, -⟩
    · exact ⟨by decide, (by omega : maxLength ≤ c.bytes.length)⟩
    · omega

lemma supplied_require {p : Bool} {cause : DecodeError.Cause} (hcause : cause ≠ .truncated)
    (hc : c.position ≤ c.bytes.length) : (require p cause).Supplied c := by
  cases p with
  | false => exact supplied_fail hcause hc
  | true => exact supplied_done ()

end Scan

open Cursor Scan

variable {mode : Mode} {strictLock : Bool} {h : Head} {c c' d : Cursor}

namespace ModRM

variable {α : Type} {m m' : Option ModRM}

def Room (m : Option ModRM) (c : Cursor) : Prop := c.position + m.isNone.toNat ≤ c.bytes.length

lemma Room.position_le (hm : Room m c) : c.position ≤ c.bytes.length :=
  (Nat.le_add_right _ _).trans hm

lemma Taken.bytes_eq (ht : Taken m c m' d) : d.bytes = c.bytes := by
  rcases ht with ⟨-, rfl⟩ | ⟨-, b, -, -, rfl⟩
  · rfl
  · rfl

lemma Taken.position_add (ht : Taken m c m' d) :
    d.position + m'.isNone.toNat = c.position + m.isNone.toNat := by
  rcases ht with ⟨rfl, rfl⟩ | ⟨rfl, b, -, rfl, rfl⟩
  · rfl
  · rfl

lemma Room.of_taken (hm : Room m c) (ht : Taken m c m' d) : Room m' d := by
  rw [Room, ht.position_add, ht.bytes_eq]
  exact hm

lemma supplied_scan {k : ModRM → Scan α} (hm : Room m c)
    (hk : ∀ x d, Taken m c (some x) d → (k x).Supplied d) : (ModRM.scan m k).Supplied c := by
  cases m with
  | some x => exact hk x c (Taken.refl _ _)
  | none => exact supplied_fetch hm fun b hb => hk _ _ (Or.inr ⟨rfl, b, hb, rfl, rfl⟩)

lemma supplied_skipAddress {z : Size} {m : ModRM} (hc : c.position + 5 ≤ c.bytes.length) :
    (m.skipAddress z).Supplied c := by
  have hlength := m.displacementLength_le z none
  unfold skipAddress
  split <;> rename_i hz
  · rw [hz, displacementLength_word] at hlength
    exact supplied_drop (by omega)
  · rw [displacementLength_none hz] at hlength
    split <;> rename_i hsib
    · refine supplied_fetch (by omega) fun b _ => ?_
      simp only [Scan.bind]
      split <;> rename_i hdisp
      · have hend : (c.advance 1).position + 4 ≤ (c.advance 1).bytes.length := by
          rw [advance_position, advance_bytes]
          omega
        refine supplied_bind (supplied_drop hend) fun u d hd => ?_
        obtain ⟨-, hlen, rfl⟩ := run_drop_eq_ok.mp hd
        rw [dispLength32_of_hasDisp32 hsib hdisp]
        exact supplied_drop hlen
      · apply supplied_drop
        rw [advance_position, advance_bytes]
        omega
    · exact supplied_drop (by omega)

end ModRM

lemma DecodeTree.supplied_select {t : DecodeTree} {m : Option ModRM} {slot : Option PrefixSlot}
    (hm : ModRM.Room m c) : (t.select mode h m slot).Supplied c := by
  induction t using node_induction mode h.vex generalizing m slot c with
  | undefined => exact supplied_fail (by decide) hm.position_le
  | leaf e => exact supplied_done _
  | modrm t next hn ih =>
    rw [select_modrm hn]
    exact ModRM.supplied_scan hm fun x d ht => ih x (hm.of_taken ht)
  | slot next ih => exact ih _ hm
  | known t t' hn ih =>
    rw [select_known hn]
    exact ih hm

namespace Selection

variable {s : Selection}

lemma supplied_checkPrefixes (hc : c.position ≤ c.bytes.length) :
    (s.checkPrefixes mode h).Supplied c := by
  have hrequire {p : Bool} {cause : DecodeError.Cause} {k : Unit → Scan Unit}
      (hcause : cause ≠ .truncated) (hk : (k ()).Supplied c) :
      (require p cause >>= k).Supplied c := by
    refine supplied_bind (supplied_require hcause hc) fun u d hd => ?_
    obtain ⟨-, rfl⟩ := run_require_eq_ok.mp hd
    exact hk
  unfold checkPrefixes
  refine hrequire (by decide) ?_
  cases h.vex with
  | none => exact hrequire (by decide) (supplied_require (by decide) hc)
  | some v =>
    exact hrequire (by decide) (hrequire (by decide) (supplied_require (by decide) hc))

lemma supplied_withModRM (hm : ModRM.Room s.modrm c) : s.withModRM.Supplied c := by
  unfold withModRM
  split
  · exact ModRM.supplied_scan hm fun x d _ => supplied_done _
  · exact supplied_done _

lemma supplied_scanAddress {rex : Option Rex} {z : Size} (hc : c.position ≤ c.bytes.length)
    (hm : s.modrm.isSome = true → c.position + 5 ≤ c.bytes.length) :
    (s.scanAddress rex z).Supplied c := by
  unfold scanAddress
  cases hs : s.modrm with
  | none => exact supplied_done ()
  | some m =>
    refine supplied_bind (supplied_require (by decide) hc) fun u d hd => ?_
    obtain ⟨-, rfl⟩ := run_require_eq_ok.mp hd
    split
    · exact ModRM.supplied_skipAddress (hm (by rw [hs]; rfl))
    · exact supplied_done ()

lemma AddressTaken.position_le {z : Size} (ha : s.AddressTaken z c c') :
    c'.position ≤ c.position + if s.modrm.isSome then 5 else 0 := by
  rcases ha with ⟨m, hm, -, ha⟩ | ⟨-, rfl⟩
  · rw [Option.mem_def.mp hm]
    exact ModRM.position_of_skipAddress_le ha
  · exact Nat.le_add_right _ _

end Selection

def Leaf.trailingLimit (l : Leaf) : ℕ := if l.usesModRM then 4 else 10

lemma OpcodeMap.trailingBytes_le_of_table (m : OpcodeMap) :
    ∀ t ∈ m.table, ∀ l ∈ t.leaves {}, ∀ z ∈ Register.generalSizes, ∀ a ∈ Register.generalSizes,
      l.entry.trailingBytes z a ≤ l.trailingLimit := by
  cases m <;> decide +kernel

namespace Head

lemma position_add_trailing_le {s₀ s : Selection} {c₀ c₁ c₂ : Cursor}
    (hsel : (h.opcode.tree.select mode h none none).run c = .ok (s₀, c₀))
    (hmod : s₀.withModRM.run c₀ = .ok (s, c₁))
    (haddr : s.AddressTaken (h.prefixes.effectiveAddressSize mode) c₁ c₂) :
    c₂.position + s.trailing mode h ≤ c.position + 10 := by
  obtain ⟨ht, l, hl, he, hf⟩ := DecodeTree.leaf_of_select DecodePath.Follows.empty hsel
  obtain ⟨ht', heq, hsome⟩ := Selection.taken_of_withModRM hmod
  have huses : l.usesModRM = s.modrm.isSome := by rw [Leaf.usesModRM, hf.modrm, he, hsome]
  have htrailing : s.trailing mode h ≤ l.trailingLimit := by
    rw [Selection.trailing, ← show l.entry = s.entry by rw [he, heq]]
    exact Opcode.forall_leaves OpcodeMap.trailingBytes_le_of_table hl
      _ (s.isGeneral_operandSize h).mem_generalSizes
      _ (h.prefixes.isGeneral_effectiveAddressSize).mem_generalSizes
  have hstart := (ht.trans ht').position_add
  have hstop := haddr.position_le
  rw [Leaf.trailingLimit, huses] at htrailing
  -- one ModR/M byte, five of an address and four that trail, or else up to ten that trail
  cases hm : s.modrm with
  | none =>
    simp only [hm, Option.isNone_none, Option.isSome_none, Bool.toNat_true, Bool.false_eq_true,
      if_false] at hstart hstop htrailing
    omega
  | some m =>
    simp only [hm, Option.isNone_none, Option.isNone_some, Option.isSome_some, Bool.toNat_true,
      Bool.toNat_false, if_true] at hstart hstop htrailing
    omega

theorem supplied_scanBody (hc : c.position + 10 ≤ c.bytes.length) :
    (h.scanBody mode strictLock).Supplied c := by
  have hroom : ModRM.Room none c := by
    simp only [ModRM.Room, Option.isNone_none, Bool.toNat_true]
    omega
  refine supplied_bind (DecodeTree.supplied_select hroom) fun s₀ c₀ hsel => ?_
  obtain ⟨ht, -⟩ := DecodeTree.leaf_of_select DecodePath.Follows.empty hsel
  have hroom := hroom.of_taken ht
  refine supplied_bind (Selection.supplied_checkPrefixes hroom.position_le) fun _ d hpre => ?_
  obtain ⟨-, rfl⟩ := Selection.suits_of_checkPrefixes hpre
  refine supplied_bind (Selection.supplied_withModRM hroom) fun s c₁ hmod => ?_
  obtain ⟨ht', -⟩ := Selection.taken_of_withModRM hmod
  have hroom := hroom.of_taken ht'
  have hbytes := (ht.trans ht').bytes_eq
  have hstart := (ht.trans ht').position_add
  refine supplied_bind (Selection.supplied_scanAddress hroom.position_le fun hm => ?_)
    fun _ c₂ haddr => ?_
  · rw [hbytes]
    simp only [Option.isNone_none, Bool.toNat_true] at hstart
    omega
  have hend := position_add_trailing_le hsel hmod (Selection.addressTaken_of_scanAddress haddr).1
  have hbytes' := bytes_of_run haddr
  refine supplied_bind (supplied_drop ?_) fun _ c' hdrop => ?_
  · rw [hbytes', hbytes]
    exact hend.trans hc
  obtain ⟨-, hlen, rfl⟩ := run_drop_eq_ok.mp hdrop
  exact supplied_bind (supplied_require (by decide) hlen) fun _ d _ => supplied_done s

end Head

end X86
