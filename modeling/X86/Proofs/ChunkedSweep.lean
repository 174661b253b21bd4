import Mathlib
import X86.Listing
import X86.Proofs.DecoderRuns

/-! A sweep over bytes that are cut where an instruction ends is the sweep over the one part and
then over the other. -/

namespace X86

open Encoding

variable {mode : Mode} {strictLock : Bool} {a b bytes : List UInt8}

lemma Instruction.decode_append_of_not_truncated
    (h : ∀ n, decode mode strictLock bytes ≠ .error ⟨.truncated, n⟩) (more : List UInt8) :
    decode mode strictLock (bytes ++ more) = decode mode strictLock bytes := by
  have hscan : ∀ n, scan mode strictLock bytes ≠ .error ⟨.truncated, n⟩ := by
    intro n hn
    apply h n
    rw [decode, hn]
    rfl
  rw [decode, decode, scan_append_of_not_truncated hscan]
  cases hs : scan mode strictLock bytes with
  | error e => rfl
  | ok e => exact congrArg Except.ok (extract_append hs more)

namespace Decoder

variable {options : DecoderOptions} {offset n : ℕ} {r : Except DecodeError Instruction}

def shifted (n : ℕ) (x : Item) : Item := (n + x.1, x.2)

/-- An item that bytes behind the first `length` ones cannot change: it is no truncation, and what
is stepped over lies before them. -/
def Settled (length : ℕ) : Item → Prop
  | (_, .ok _) => True
  | (offset, .error e) => e.cause ≠ .truncated ∧ e.resume offset ≤ length

instance (length : ℕ) : (x : Item) → Decidable (Settled length x)
  | (_, .ok _) => inferInstanceAs (Decidable True)
  | (offset, .error e) =>
    inferInstanceAs (Decidable (e.cause ≠ .truncated ∧ e.resume offset ≤ length))

lemma recoverFrom_of_length_le (h : bytes.length ≤ offset) :
    recoverFrom options bytes offset = [] := by
  rw [recoverFrom, dif_neg (Nat.not_lt.mpr h)]

lemma recoverFrom_of_decode (h : offset < bytes.length)
    (hr : Instruction.decode options.mode options.strictLock (bytes.drop offset) = r) :
    recoverFrom options bytes offset =
      (offset, r) :: recoverFrom options bytes (resumeAt bytes offset r) := by
  rw [recoverFrom, dif_pos h, hr]

lemma resumeAt_append_right (a b : List UInt8) (n : ℕ) (r : Except DecodeError Instruction) :
    resumeAt (a ++ b) (a.length + n) r = a.length + resumeAt b n r := by
  cases r with
  | ok i => exact Nat.add_assoc _ _ _
  | error e =>
    simp only [resumeAt, DecodeError.resume, List.length_append]
    omega

lemma recoverFrom_append_right (options : DecoderOptions) (a b : List UInt8) (n : ℕ) :
    recoverFrom options (a ++ b) (a.length + n) =
      (recoverFrom options b n).map (shifted a.length) := by
  induction n using recoverFrom.induct options b with
  | case1 n h r ih =>
    have hlt : a.length + n < (a ++ b).length := by
      rw [List.length_append]
      omega
    have hr : Instruction.decode options.mode options.strictLock
        ((a ++ b).drop (a.length + n)) = r := by rw [List.drop_length_add_append]
    rw [recoverFrom_of_decode hlt hr, recoverFrom_of_decode h rfl, resumeAt_append_right, ih]
    rfl
  | case2 n h =>
    rw [recoverFrom_of_length_le (Nat.not_lt.mp h), recoverFrom_of_length_le]
    · rfl
    · rw [List.length_append]
      omega

namespace Settled

lemma ne_truncated (h : Settled n (offset, r)) (k : ℕ) : r ≠ .error ⟨.truncated, k⟩ := by
  rintro rfl
  exact h.1 rfl

lemma resumeAt_append (h : Settled a.length (offset, r)) (b : List UInt8) :
    resumeAt (a ++ b) offset r = resumeAt a offset r := by
  cases r with
  | ok i => rfl
  | error e =>
    have hle : e.resume offset ≤ a.length := h.2
    simp only [resumeAt, List.length_append]
    omega

lemma resumeAt_eq (h : Settled a.length (offset, r)) :
    resumeAt a offset r = offset + itemLength r := by
  cases r with
  | ok i => rfl
  | error e => exact min_eq_left h.2

end Settled

lemma resumeAt_le_length (h : offset ≤ a.length)
    (hr : Instruction.decode mode strictLock (a.drop offset) = r) :
    resumeAt a offset r ≤ a.length := by
  cases r with
  | ok i =>
    have hlen := Instruction.length_le_of_decode hr
    rw [List.length_drop] at hlen
    simp only [resumeAt]
    omega
  | error e => exact min_le_right _ _

lemma recoverFrom_append_left (h : ∀ x ∈ recoverFrom options a offset, Settled a.length x)
    (hle : offset ≤ a.length) (b : List UInt8) :
    recoverFrom options (a ++ b) offset =
      recoverFrom options a offset ++ recoverFrom options (a ++ b) a.length := by
  induction offset using recoverFrom.induct options a with
  | case1 offset hlt r ih =>
    rw [recoverFrom_of_decode hlt rfl, List.forall_mem_cons] at h
    obtain ⟨hr, hrest⟩ := h
    have hdecode : Instruction.decode options.mode options.strictLock
        ((a ++ b).drop offset) = r := by
      rw [List.drop_append_of_le_length hle]
      exact Instruction.decode_append_of_not_truncated hr.ne_truncated b
    have hlt' : offset < (a ++ b).length := by
      rw [List.length_append]
      omega
    rw [recoverFrom_of_decode hlt' hdecode, recoverFrom_of_decode hlt rfl, hr.resumeAt_append b,
      ih hrest (resumeAt_le_length hle rfl), List.cons_append]
  | case2 offset hlt =>
    obtain rfl : offset = a.length := by omega
    rw [recoverFrom_of_length_le le_rfl, List.nil_append]

lemma sweep_start (options : DecoderOptions) (bytes : List UInt8) :
    (start options bytes).sweep = recoverFrom options bytes 0 :=
  sweep_eq_recoverFrom (walksOver_start options bytes)

lemma sweep_start_append (h : ∀ x ∈ (start options a).sweep, Settled a.length x)
    (b : List UInt8) : (start options (a ++ b)).sweep =
      (start options a).sweep ++ (start options b).sweep.map (shifted a.length) := by
  rw [sweep_start] at h
  rw [sweep_start, sweep_start, sweep_start, recoverFrom_append_left h (Nat.zero_le _),
    ← recoverFrom_append_right, Nat.add_zero]

lemma sum_itemLength_recoverFrom (h : ∀ x ∈ recoverFrom options a offset, Settled a.length x)
    (hle : offset ≤ a.length) :
    offset + ((recoverFrom options a offset).map fun x => itemLength x.2).sum = a.length := by
  induction offset using recoverFrom.induct options a with
  | case1 offset hlt r ih =>
    rw [recoverFrom_of_decode hlt rfl] at h ⊢
    obtain ⟨hr, hrest⟩ := List.forall_mem_cons.mp h
    rw [List.map_cons, List.sum_cons, ← Nat.add_assoc, ← hr.resumeAt_eq]
    exact ih hrest (resumeAt_le_length hle rfl)
  | case2 offset hlt =>
    rw [recoverFrom_of_length_le (Nat.not_lt.mp hlt)]
    exact Nat.le_antisymm hle (Nat.not_lt.mp hlt)

end Decoder

namespace Listing

open Decoder

variable {paint : Color → String → String} {o : Options} {image : Image} {s : CodeSection}
  {xs : List Item}

lemma linesOf_append (xs ys : List Item) (bytes : List UInt8) :
    linesOf paint o image s (xs ++ ys) bytes = linesOf paint o image s xs bytes ++
      linesOf paint o image s ys (bytes.drop (xs.map fun x => itemLength x.2).sum) := by
  induction xs generalizing bytes with
  | nil => rfl
  | cons x xs ih =>
    simp only [List.cons_append, linesOf, ih, List.drop_drop, List.map_cons, List.sum_cons]

lemma linesOf_append_bytes (h : (xs.map fun x => itemLength x.2).sum ≤ a.length)
    (b : List UInt8) : linesOf paint o image s xs (a ++ b) = linesOf paint o image s xs a := by
  induction xs generalizing a with
  | nil => rfl
  | cons x xs ih =>
    rw [List.map_cons, List.sum_cons] at h
    have hle : itemLength x.2 ≤ a.length := Nat.le_of_add_right_le h
    simp only [linesOf]
    rw [List.take_append_of_le_length hle, List.drop_append_of_le_length hle, ih]
    rw [List.length_drop]
    omega

lemma linesOf_congr {s' : CodeSection} (h : s.address = s'.address) (xs : List Item)
    (bytes : List UInt8) :
    linesOf paint o image s xs bytes = linesOf paint o image s' xs bytes := by
  induction xs generalizing bytes with
  | nil => rfl
  | cons x xs ih => simp only [linesOf, line, h, ih]

lemma linesOf_shifted (xs : List Item) (n : ℕ) (bytes : List UInt8) :
    linesOf paint o image s (xs.map (shifted n)) bytes =
      linesOf paint o image { s with address := s.address + n } xs bytes := by
  induction xs generalizing bytes with
  | nil => rfl
  | cons x xs ih => simp only [List.map_cons, linesOf, line, shifted, ih, Nat.add_assoc]

lemma lines_append (h : ∀ x ∈ (start o.decoder a).sweep, Settled a.length x) (b : List UInt8) :
    lines paint o image { s with data := a ++ b } = lines paint o image { s with data := a } ++
      lines paint o image { s with address := s.address + a.length, data := b } := by
  have hsum : ((start o.decoder a).sweep.map fun x => itemLength x.2).sum = a.length := by
    rw [sweep_start] at h ⊢
    rw [← sum_itemLength_recoverFrom h (Nat.zero_le _), Nat.zero_add]
  have hlines (address : ℕ) (data : List UInt8) : lines paint o image ⟨s.name, address, data⟩ =
      linesOf paint o image { s with address := address } (start o.decoder data).sweep data := by
    apply linesOf_congr
    rfl
  rw [hlines, hlines, hlines, sweep_start_append h, linesOf_append, linesOf_append_bytes hsum.le,
    hsum, List.drop_left, linesOf_shifted]

end Listing

namespace Decoder

/-- What iterating over bytes yields is their sweep. If bytes are cut where nothing that was found
is still open, the sweep goes on behind the cut as if it had started there, and so does the
listing. -/
theorem sweep_append (options : DecoderOptions) (a b : List UInt8)
    (h : ∀ x ∈ (start options a).sweep, Settled a.length x) :
    (start options (a ++ b)).sweep =
      (start options a).sweep ++ (start options b).sweep.map (shifted a.length) ∧
    (∀ bytes items d, (start options bytes).Exhausts items d ↔
      items = (start options bytes).sweep ∧ d = ⟨options, bytes.length, []⟩) ∧
    ∀ (paint : Color → String → String) (o : Listing.Options) (image : Image) (s : CodeSection),
      o.decoder = options →
      Listing.lines paint o image { s with data := a ++ b } =
        Listing.lines paint o image { s with data := a } ++
          Listing.lines paint o image { s with address := s.address + a.length, data := b } := by
  refine ⟨sweep_start_append h b, fun bytes items d => ?_, ?_⟩
  · rw [sweep_start]
    exact exhausts_iff (walksOver_start options bytes)
  · rintro paint o image s rfl
    exact Listing.lines_append h b

theorem sweep_append_syscall :
    (∀ x ∈ (start ⟨.bits16, false⟩ [0x90, 0x0F, 0x05, 0xC3]).sweep, Settled 4 x) ∧
    (start ⟨.bits16, false⟩ [0x90, 0x0F, 0x05, 0xC3, 0xEB, 0xFE]).sweep =
      (start ⟨.bits16, false⟩ [0x90, 0x0F, 0x05, 0xC3]).sweep ++
        (start ⟨.bits16, false⟩ [0xEB, 0xFE]).sweep.map (shifted 4) := by
  have h : ∀ x ∈ (start ⟨.bits16, false⟩ [0x90, 0x0F, 0x05, 0xC3]).sweep, Settled 4 x := by
    decide +kernel
  exact ⟨h, (sweep_append _ _ [0xEB, 0xFE] h).1⟩

end Decoder

end X86
