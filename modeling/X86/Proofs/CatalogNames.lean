import Mathlib
import X86.Cursor
import X86.Text.Render

/-! Printed names. Which instructions of the catalog share one, and what no instruction is called.
-/

namespace X86

lemma Register.name_induction {P : String → Prop} (r : Register) (hunknown : P "?")
    (hlisted : ∀ t ∈ names r.file r.width, P t) (hspecial : ∀ n w, P (specialName n w)) :
    P r.name := by
  have hnames : P ((names r.file r.width).getD r.index "?") := by
    rw [List.getD_eq_getElem?_getD]
    cases h : (names r.file r.width)[r.index]? with
    | none => exact hunknown
    | some t => exact hlisted t (List.mem_of_getElem? h)
  rcases r with ⟨file, width, index⟩
  cases file with
  | special => exact hspecial index width
  | _ => exact hnames

def allFresh (seen : ℕ) : List ℕ → Bool
  | [] => true
  | n :: ns => !seen.testBit n && allFresh (seen ||| 1 <<< n) ns

lemma nodup_of_allFresh {seen : ℕ} {ns : List ℕ} (h : allFresh seen ns = true) :
    ns.Nodup ∧ ∀ n ∈ ns, seen.testBit n = false := by
  induction ns generalizing seen with
  | nil => exact ⟨.nil, List.forall_mem_nil _⟩
  | cons n ns ih =>
    rw [allFresh, Bool.and_eq_true, Bool.not_eq_true'] at h
    obtain ⟨hnodup, hseen⟩ := ih h.2
    have hrest : ∀ m ∈ ns, seen.testBit m = false ∧ n ≠ m := by
      intro m hm
      simpa [Nat.testBit_or, Nat.one_shiftLeft, Nat.testBit_two_pow] using hseen m hm
    refine ⟨List.nodup_cons.mpr ⟨fun hn => (hrest n hn).2 rfl, hnodup⟩, ?_⟩
    exact List.forall_mem_cons.mpr ⟨h.1, fun m hm => (hrest m hm).1⟩

def textBytes (t : String) : List UInt8 := t.toByteArray.data.toList

lemma textBytes_append (t u : String) : textBytes (t ++ u) = textBytes t ++ textBytes u := by
  rw [textBytes, String.toByteArray_append, ByteArray.toList_data_append]
  rfl

lemma textBytes_eq (t : String) : textBytes t = t.toList.flatMap String.utf8EncodeChar := by
  conv_lhs => rw [← String.ofList_toList (s := t)]
  rw [textBytes, String.toByteArray_ofList, List.utf8Encode, List.data_toByteArray]

lemma blank_notMem {t : String} (h : 0x20 ∉ textBytes t) : ' ' ∉ t.toList := by
  intro hmem
  rw [textBytes_eq] at h
  exact h (List.mem_flatMap.mpr ⟨' ', hmem, by decide⟩)

namespace Mnemonic

def namesake : Mnemonic → Mnemonic
  | general .CALLF => general .CALL
  | general .JMPF => general .JMP
  | sse .MOVSD => general .MOVSD
  | sse .CMPSD => general .CMPSD
  | m => m

lemma name_namesake (m : Mnemonic) : m.namesake.name = m.name := by
  rw [namesake.eq_def]
  split <;> rfl

lemma namesake_namesake (m : Mnemonic) : m.namesake.namesake = m.namesake := by
  rw [namesake.eq_def m]
  split
  case h_5 h₁ h₂ h₃ h₄ =>
    rw [namesake.eq_def]
    split <;> simp_all
  all_goals rfl

lemma mem_of_numbered {α : Type} {as : List α} (n : ℕ) {ofNat : ℕ → α} {number : α → ℕ}
    (has : as = (List.range n).map ofNat) (hof : ∀ a, ofNat (number a) = a)
    (hlt : ∀ a, number a < n) (a : α) : a ∈ as := by
  rw [has]
  exact List.mem_map.mpr ⟨number a, List.mem_range.mpr (hlt a), hof a⟩

lemma mem_all (m : Mnemonic) : m ∈ invalid :: all := by
  have hgeneral := @mem_of_numbered _ General.all 200 _ _ (by decide +kernel)
    General.ofNat_ctorIdx fun m => by cases m <;> decide
  have hbmi := @mem_of_numbered _ Bmi.all 13 _ _ (by decide +kernel)
    Bmi.ofNat_ctorIdx fun m => by cases m <;> decide
  have hsystem := @mem_of_numbered _ System.all 68 _ _ (by decide +kernel)
    System.ofNat_ctorIdx fun m => by cases m <;> decide
  have hx87 := @mem_of_numbered _ X87.all 90 _ _ (by decide +kernel)
    X87.ofNat_ctorIdx fun m => by cases m <;> decide
  have hsse := @mem_of_numbered _ Sse.all 258 _ _ (by decide +kernel)
    Sse.ofNat_ctorIdx fun m => by cases m <;> decide
  have havx := @mem_of_numbered _ Avx.all 26 _ _ (by decide +kernel)
    Avx.ofNat_ctorIdx fun m => by cases m <;> decide
  cases m <;> simp [all, *]

def bearers : List Mnemonic := (invalid :: all).filter fun m => m.namesake = m

lemma namesake_mem_bearers (m : Mnemonic) : m.namesake ∈ bearers :=
  List.mem_filter.mpr ⟨mem_all _, decide_eq_true m.namesake_namesake⟩

/-- Texts that are no names: the words for flags, and the beginnings of names that end in a letter
for a width. -/
def reserved : List String :=
  Format.prefixNames.map Prod.snd ++ ["su", "sb", "cmov", "imu", "arp", "sh", "ro", "rc", "sa"]

def behindV? : List UInt8 → Option (List UInt8)
  | 0x76 :: bs => some bs
  | _ => none

def names : List (List UInt8) := bearers.map fun m => textBytes m.name

lemma nodup_names : (reserved.map textBytes ++ names ++ names.filterMap behindV?).Nodup := by
  -- the bytes of a name write a number, and this modulus keeps all the numbers apart
  have hfresh : allFresh 0 ((reserved.map textBytes ++ names ++ names.filterMap behindV?).map
      fun bs => littleEndian bs % 31461) = true := by decide +kernel
  exact .of_map _ (nodup_of_allFresh hfresh).1

lemma textBytes_mem_names (m : Mnemonic) : textBytes m.name ∈ names := by
  rw [← name_namesake]
  exact List.mem_map_of_mem m.namesake_mem_bearers

lemma namesake_eq_of_name_eq {m n : Mnemonic} (h : m.name = n.name) : m.namesake = n.namesake := by
  have hnodup := (List.nodup_append.mp (List.nodup_append.mp nodup_names).1).2.1
  refine List.inj_on_of_nodup_map hnodup m.namesake_mem_bearers n.namesake_mem_bearers ?_
  rw [name_namesake, name_namesake, h]

lemma name_notMem_reserved (m : Mnemonic) : m.name ∉ reserved := fun h =>
  (List.nodup_append.mp (List.nodup_append.mp nodup_names).1).2.2 _ (List.mem_map_of_mem h) _
    m.textBytes_mem_names rfl

lemma name_ne_v_append (m n : Mnemonic) : m.name ≠ "v" ++ n.name := by
  intro h
  have hv : textBytes "v" = [0x76] := by decide
  have hmem := m.textBytes_mem_names
  rw [h, textBytes_append, hv] at hmem
  exact (List.nodup_append.mp nodup_names).2.2 _
    (List.mem_append_right _ n.textBytes_mem_names) _
    (List.mem_filterMap.mpr ⟨_, hmem, rfl⟩) rfl

lemma blank_notMem_name (m : Mnemonic) : ' ' ∉ m.name.toList := by
  have hnames : ∀ bs ∈ names, 0x20 ∉ bs := by decide +kernel
  exact blank_notMem (hnames _ m.textBytes_mem_names)

end Mnemonic

end X86
