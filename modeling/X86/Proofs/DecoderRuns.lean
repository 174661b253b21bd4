import Mathlib
import X86.Decoder
import X86.Proofs.PrefixStability

/-! Runs of a decoder: no byte is lost, repeated or overrun, and recovery ends. -/

namespace X86

open Scan

variable {bytes : List UInt8} {d d' : Decoder} {i : Instruction} {err : DecodeError}

namespace Instruction

variable {mode : Mode} {strictLock : Bool}

lemma length_le_of_decode (h : decode mode strictLock bytes = .ok i) : i.length ≤ bytes.length := by
  obtain ⟨e, he, rfl⟩ := decode_eq_ok.mp h
  exact (Encoding.length_le_of_scan he).trans (min_le_right _ _)

lemma consumed_le_of_decode (h : decode mode strictLock bytes = .error err) :
    err.consumed ≤ Cursor.maxLength :=
  consumed_le_of_run (c := .start bytes) (Nat.zero_le _)
    (Encoding.scan_eq_error_iff.mp (decode_eq_error.mp h))

end Instruction

namespace Decoder

structure WalksOver (d : Decoder) (bytes : List UInt8) : Prop where
  offset_le : d.offset ≤ bytes.length
  rest : d.rest = bytes.drop d.offset

lemma walksOver_start (options : DecoderOptions) (bytes : List UInt8) :
    (start options bytes).WalksOver bytes := ⟨Nat.zero_le _, rfl⟩

namespace WalksOver

lemma length_rest (h : d.WalksOver bytes) : d.rest.length = bytes.length - d.offset := by
  rw [h.rest, List.length_drop]

lemma rest_eq_nil (h : d.WalksOver bytes) : d.rest = [] ↔ d.offset = bytes.length := by
  have hle := h.offset_le
  rw [← List.length_eq_zero_iff, h.length_rest]
  omega

lemma offset_advance (h : d.WalksOver bytes) (n : ℕ) :
    (d.advance n).offset = min (d.offset + n) bytes.length := by
  have hle := h.offset_le
  simp only [advance, List.length_take, h.length_rest]
  omega

lemma advance (h : d.WalksOver bytes) (n : ℕ) : (d.advance n).WalksOver bytes := by
  refine ⟨by rw [h.offset_advance]; exact min_le_right _ _, ?_⟩
  rw [h.offset_advance]
  simp only [Decoder.advance, h.rest, List.drop_drop]
  rcases le_total (d.offset + n) bytes.length with hn | hn
  · rw [min_eq_left hn]
  · rw [min_eq_right hn, List.drop_length, List.drop_eq_nil_of_le hn]

lemma append_take_rest (h : d.WalksOver bytes) (n : ℕ) :
    bytes.take d.offset ++ d.rest.take n = bytes.take (d.advance n).offset := by
  rw [h.offset_advance, h.rest, ← List.take_add]
  rcases le_total (d.offset + n) bytes.length with hn | hn
  · rw [min_eq_left hn]
  · rw [min_eq_right hn, List.take_length, List.take_of_length_le hn]

lemma take_rest (h : d.WalksOver bytes) (n : ℕ) :
    d.rest.take n = (bytes.take (d.advance n).offset).drop d.offset := by
  rw [← h.append_take_rest, List.drop_left' (List.length_take_of_le h.offset_le)]

end WalksOver

lemma decodeNext_of_rest_eq_nil (hd : d.rest = []) : d.decodeNext = (none, d) := by
  simp [decodeNext, isAtEnd, hd]

lemma decodeNext_of_ok (hd : d.rest ≠ []) (hi : d.decode = .ok i) :
    d.decodeNext = (some (d.offset, .ok i), d.advance i.length) := by
  simp [decodeNext, isAtEnd, hd, hi]

lemma decodeNext_of_error (hd : d.rest ≠ []) (he : d.decode = .error err) :
    d.decodeNext = (some (d.offset, .error err), d) := by
  simp [decodeNext, isAtEnd, hd, he]

lemma next_of_rest_eq_nil (hd : d.rest = []) : d.next = (none, d) := by
  simp [next, decodeNext_of_rest_eq_nil hd]

lemma next_of_rest_ne_nil (hd : d.rest ≠ []) :
    d.next = (some (d.offset, d.decode), d.advance (itemLength d.decode)) := by
  cases hr : d.decode with
  | ok i => simp [next, decodeNext_of_ok hd hr, itemLength]
  | error e => simp [next, decodeNext_of_error hd hr, itemLength, skip]

inductive Operation where
  | decodeNext
  | next
  | skip (e : DecodeError)
  | setOptions (o : DecoderOptions)

namespace Operation

def apply (d : Decoder) : Operation → Decoder
  | decodeNext => d.decodeNext.2
  | next => d.next.2
  | skip e => (d.skip e).2
  | setOptions o => d.setOptions o

def span (d : Decoder) : Operation → List UInt8
  | decodeNext =>
    match d.decodeNext.1 with
    | some (_, .ok i) => d.rest.take i.length
    | _ => []
  | next =>
    match d.next.1 with
    | some (_, r) => d.rest.take (itemLength r)
    | none => []
  | skip e => (d.skip e).1
  | setOptions _ => []

lemma exists_advance (d : Decoder) (op : Operation) : ∃ n,
    op.apply d = { d.advance n with options := (op.apply d).options } ∧
      op.span d = d.rest.take n := by
  cases op with
  | decodeNext =>
    by_cases hd : d.rest = []
    · exact ⟨0, by simp [apply, span, decodeNext_of_rest_eq_nil hd, advance]⟩
    · cases hr : d.decode with
      | ok i => exact ⟨i.length, by simp [apply, span, decodeNext_of_ok hd hr]⟩
      | error e => exact ⟨0, by simp [apply, span, decodeNext_of_error hd hr, advance]⟩
  | next =>
    by_cases hd : d.rest = []
    · exact ⟨0, by simp [apply, span, next_of_rest_eq_nil hd, advance]⟩
    · exact ⟨itemLength d.decode, by simp [apply, span, next_of_rest_ne_nil hd]⟩
  | skip e => exact ⟨e.skipLength, rfl, rfl⟩
  | setOptions o => exact ⟨0, rfl, rfl⟩

variable (op : Operation)

lemma walksOver_apply (h : d.WalksOver bytes) : (op.apply d).WalksOver bytes := by
  obtain ⟨n, hn, -⟩ := exists_advance d op
  rw [hn]
  exact ⟨(h.advance n).offset_le, (h.advance n).rest⟩

lemma offset_le_apply (d : Decoder) : d.offset ≤ (op.apply d).offset := by
  obtain ⟨n, hn, -⟩ := exists_advance d op
  rw [hn]
  exact Nat.le_add_right _ _

lemma append_span (h : d.WalksOver bytes) :
    bytes.take d.offset ++ op.span d = bytes.take (op.apply d).offset := by
  obtain ⟨n, hn, hs⟩ := exists_advance d op
  rw [hn, hs]
  exact h.append_take_rest n

end Operation

def run (d : Decoder) (ops : List Operation) : Decoder := ops.foldl Operation.apply d

def spans : Decoder → List Operation → List (List UInt8)
  | _, [] => []
  | d, op :: ops => op.span d :: (op.apply d).spans ops

@[simp] lemma run_cons (d : Decoder) (op : Operation) (ops : List Operation) :
    d.run (op :: ops) = (op.apply d).run ops := rfl

lemma walksOver_run (h : d.WalksOver bytes) (ops : List Operation) :
    (d.run ops).WalksOver bytes := by
  induction ops generalizing d with
  | nil => exact h
  | cons op ops ih => exact ih (op.walksOver_apply h)

lemma append_flatten_spans (h : d.WalksOver bytes) (ops : List Operation) :
    bytes.take d.offset ++ (d.spans ops).flatten = bytes.take (d.run ops).offset := by
  induction ops generalizing d with
  | nil => simp [spans, run]
  | cons op ops ih =>
    rw [spans, List.flatten_cons, ← List.append_assoc, op.append_span h, run_cons]
    exact ih (op.walksOver_apply h)

lemma WalksOver.decode (h : d.WalksOver bytes) : d.decode =
    Instruction.decode d.options.mode d.options.strictLock (bytes.drop d.offset) := by
  rw [Decoder.decode, h.rest]

inductive Exhausts : Decoder → List Item → Decoder → Prop where
  | done {d d' : Decoder} : d.next = (none, d') → d.Exhausts [] d'
  | item {d d₁ d' : Decoder} {x : Item} {xs : List Item} :
      d.next = (some x, d₁) → d₁.Exhausts xs d' → d.Exhausts (x :: xs) d'

def resumeAt (bytes : List UInt8) (offset : ℕ) : Except DecodeError Instruction → ℕ
  | .ok i => offset + i.length
  | .error e => min (e.resume offset) bytes.length

lemma lt_resumeAt (o : DecoderOptions) {offset : ℕ} (h : offset < bytes.length) :
    offset < resumeAt bytes offset
      (Instruction.decode o.mode o.strictLock (bytes.drop offset)) := by
  cases hr : Instruction.decode o.mode o.strictLock (bytes.drop offset) with
  | ok i =>
    have := Instruction.length_pos_of_decode hr
    simp only [resumeAt]
    omega
  | error e =>
    have := e.skipLength_pos
    simp only [resumeAt, DecodeError.resume]
    omega

def recoverFrom (options : DecoderOptions) (bytes : List UInt8) (offset : ℕ) : List Item :=
  if _h : offset < bytes.length then
    let r := Instruction.decode options.mode options.strictLock (bytes.drop offset)
    (offset, r) :: recoverFrom options bytes (resumeAt bytes offset r)
  else []
termination_by bytes.length - offset
decreasing_by
  have := lt_resumeAt options _h
  omega

lemma length_recoverFrom_le (options : DecoderOptions) (bytes : List UInt8) (offset : ℕ) :
    (recoverFrom options bytes offset).length ≤ bytes.length - offset := by
  induction offset using recoverFrom.induct options bytes with
  | case1 offset h r ih =>
    have hlt : offset < resumeAt bytes offset r := lt_resumeAt options h
    rw [recoverFrom, dif_pos h, List.length_cons]
    change (recoverFrom options bytes (resumeAt bytes offset r)).length + 1 ≤ _
    omega
  | case2 offset h =>
    rw [recoverFrom, dif_neg h]
    exact Nat.zero_le _

lemma WalksOver.offset_next (h : d.WalksOver bytes) :
    (d.advance (itemLength d.decode)).offset = resumeAt bytes d.offset d.decode := by
  rw [h.offset_advance]
  cases hr : d.decode with
  | ok i =>
    have hlen : i.length ≤ d.rest.length := Instruction.length_le_of_decode hr
    have hle := h.offset_le
    rw [h.length_rest] at hlen
    simp only [itemLength, resumeAt]
    omega
  | error e => rfl

lemma WalksOver.recoverFrom (h : d.WalksOver bytes) : recoverFrom d.options bytes d.offset =
    if d.rest = [] then [] else (d.offset, d.decode) ::
      recoverFrom d.options bytes (d.advance (itemLength d.decode)).offset := by
  have hle := h.offset_le
  by_cases hd : d.rest = []
  · rw [if_pos hd, Decoder.recoverFrom, dif_neg]
    exact (h.rest_eq_nil.mp hd).not_lt
  · have hend : d.offset ≠ bytes.length := fun hend => hd (h.rest_eq_nil.mpr hend)
    rw [if_neg hd, h.offset_next, h.decode, Decoder.recoverFrom, dif_pos (by omega)]

lemma length_rest_advance_lt (hd : d.rest ≠ []) :
    (d.advance (itemLength d.decode)).rest.length < d.rest.length := by
  have hpos := d.itemLength_decode_pos
  have hlen := List.length_pos_iff.mpr hd
  simp only [advance, List.length_drop]
  omega

lemma exhausts_recoverFrom (h : d.WalksOver bytes) :
    d.Exhausts (recoverFrom d.options bytes d.offset) ⟨d.options, bytes.length, []⟩ := by
  -- on the bytes left, of which every step takes at least one
  induction hn : d.rest.length using Nat.strong_induction_on generalizing d with
  | _ n ih =>
    rw [h.recoverFrom]
    by_cases hd : d.rest = []
    · rw [if_pos hd, ← h.rest_eq_nil.mp hd, ← hd]
      exact .done (next_of_rest_eq_nil hd)
    · have hlt := length_rest_advance_lt hd
      rw [if_neg hd]
      exact .item (next_of_rest_ne_nil hd) (ih _ (hn ▸ hlt) (h.advance _) rfl)

lemma Exhausts.unique {xs ys : List Item} {d₁ d₂ : Decoder} (h : d.Exhausts xs d₁)
    (h' : d.Exhausts ys d₂) : xs = ys ∧ d₁ = d₂ := by
  induction h generalizing ys d₂ with
  | done hn =>
    cases h' with
    | done hn' => exact ⟨rfl, congrArg Prod.snd (hn.symm.trans hn')⟩
    | item hn' _ => cases hn.symm.trans hn'
  | item hn _ ih =>
    cases h' with
    | done hn' => cases hn.symm.trans hn'
    | item hn' hr =>
      obtain ⟨hx, rfl⟩ := Prod.mk.inj (hn.symm.trans hn')
      obtain ⟨rfl, rfl⟩ := ih hr
      exact ⟨congrArg (· :: _) (Option.some.inj hx), rfl⟩

lemma exhausts_iff (h : d.WalksOver bytes) {items : List Item} : d.Exhausts items d' ↔
    items = recoverFrom d.options bytes d.offset ∧ d' = ⟨d.options, bytes.length, []⟩ := by
  constructor
  · intro hx
    exact hx.unique (exhausts_recoverFrom h)
  · rintro ⟨rfl, rfl⟩
    exact exhausts_recoverFrom h

lemma sweep_eq_recoverFrom (h : d.WalksOver bytes) :
    d.sweep = recoverFrom d.options bytes d.offset := by
  induction hn : d.rest.length using Nat.strong_induction_on generalizing d with
  | _ n ih =>
    rw [h.recoverFrom, sweep]
    by_cases hd : d.rest = []
    · rw [dif_pos hd, if_pos hd]
    · have hlt := length_rest_advance_lt hd
      rw [dif_neg hd, if_neg hd, ih _ (hn ▸ hlt) (h.advance _) rfl]
      rfl

section Contract

variable {o : ℕ} {r : Except DecodeError Instruction}

lemma fst_decodeNext (d : Decoder) :
    d.decodeNext.1 = if d.rest = [] then none else some (d.offset, d.decode) := by
  by_cases hd : d.rest = []
  · rw [decodeNext_of_rest_eq_nil hd, if_pos hd]
  · rw [if_neg hd]
    cases hr : d.decode with
    | ok i => rw [decodeNext_of_ok hd hr]
    | error e => rw [decodeNext_of_error hd hr]

lemma of_fst_decodeNext (hx : d.decodeNext.1 = some (o, r)) :
    d.rest ≠ [] ∧ d.offset = o ∧ d.decode = r := by
  rw [fst_decodeNext] at hx
  by_cases hd : d.rest = []
  · simp [hd] at hx
  · simpa [hd] using hx

lemma fst_next (d : Decoder) : d.next.1 = d.decodeNext.1 := by
  rw [fst_decodeNext]
  by_cases hd : d.rest = []
  · rw [next_of_rest_eq_nil hd, if_pos hd]
  · rw [next_of_rest_ne_nil hd, if_neg hd]

lemma length_le_rest_of_decode (hi : d.decode = .ok i) : i.length ≤ d.rest.length :=
  Instruction.length_le_of_decode hi

lemma offset_of_decodeNext (h : d.WalksOver bytes) (hx : d.decodeNext.1 = some (o, .ok i)) :
    d.decodeNext.2.offset = d.offset + i.length ∧ 0 < i.length ∧
      i.length ≤ bytes.length - d.offset := by
  obtain ⟨hd, -, hi⟩ := of_fst_decodeNext hx
  have hle := h.offset_le
  have hlen := length_le_rest_of_decode hi
  rw [h.length_rest] at hlen
  refine ⟨?_, Instruction.length_pos_of_decode hi, hlen⟩
  rw [decodeNext_of_ok hd hi, h.offset_advance]
  omega

lemma decodeNext_stays (hx : ∀ o i, d.decodeNext.1 ≠ some (o, .ok i)) : d.decodeNext.2 = d := by
  by_cases hd : d.rest = []
  · rw [decodeNext_of_rest_eq_nil hd]
  · cases hr : d.decode with
    | ok i => exact absurd (by rw [decodeNext_of_ok hd hr]) (hx d.offset i)
    | error e => rw [decodeNext_of_error hd hr]

lemma next_recovers (h : d.WalksOver bytes) (hx : d.next.1 = some (o, .error err)) :
    d.next.2 = (d.skip err).2 ∧ err.resume d.offset ≤ bytes.length + Cursor.maxLength := by
  obtain ⟨hd, -, he⟩ := of_fst_decodeNext (fst_next d ▸ hx)
  have hle := h.offset_le
  have hlen : err.consumed ≤ Cursor.maxLength := Instruction.consumed_le_of_decode he
  have hmax : 1 ≤ Cursor.maxLength := by decide
  constructor
  · rw [next_of_rest_ne_nil hd, he]
    rfl
  · simp only [DecodeError.resume, DecodeError.skipLength]
    omega

lemma next_eq_decodeNext (hx : ∀ o e, d.next.1 ≠ some (o, .error e)) :
    d.next.2 = d.decodeNext.2 := by
  by_cases hd : d.rest = []
  · rw [next_of_rest_eq_nil hd, decodeNext_of_rest_eq_nil hd]
  · cases hr : d.decode with
    | ok i =>
      rw [next_of_rest_ne_nil hd, decodeNext_of_ok hd hr, hr]
      rfl
    | error e => exact absurd (by rw [next_of_rest_ne_nil hd, hr]) (hx d.offset e)

lemma length_skip_pos (h : d.WalksOver bytes) (hd : d.offset ≠ bytes.length) (e : DecodeError) :
    1 ≤ (d.skip e).1.length := by
  have hle := h.offset_le
  have hpos := e.skipLength_pos
  simp only [skip, List.length_take, h.length_rest]
  omega

structure Contract (d : Decoder) (bytes : List UInt8) : Prop extends d.WalksOver bytes where
  monotone : ∀ op : Operation, d.offset ≤ (op.apply d).offset
  item : d.decodeNext.1 = if d.offset = bytes.length then none else some (d.offset,
    Instruction.decode d.options.mode d.options.strictLock (bytes.drop d.offset))
  success : ∀ o i, d.decodeNext.1 = some (o, .ok i) →
    d.decodeNext.2.offset = d.offset + i.length ∧ 0 < i.length ∧
      i.length ≤ bytes.length - d.offset
  stays : (∀ o i, d.decodeNext.1 ≠ some (o, .ok i)) → d.decodeNext.2 = d
  next_item : d.next.1 = d.decodeNext.1
  next_succeeds : (∀ o e, d.next.1 ≠ some (o, .error e)) → d.next.2 = d.decodeNext.2
  next_recovers : ∀ o e, d.next.1 = some (o, .error e) →
    d.next.2 = (d.skip e).2 ∧ e.resume d.offset ≤ bytes.length + Cursor.maxLength
  skip_span : ∀ e, (d.skip e).1 = (bytes.take (d.skip e).2.offset).drop d.offset
  skip_offset : ∀ e, (d.skip e).2.offset = min (e.resume d.offset) bytes.length
  skip_progress : ∀ e, d.offset ≠ bytes.length → 1 ≤ (d.skip e).1.length
  setOptions : ∀ o, d.setOptions o = ⟨o, d.offset, d.rest⟩
  exhausts : ∀ items d', d.Exhausts items d' ↔
    items = recoverFrom d.options bytes d.offset ∧ d' = ⟨d.options, bytes.length, []⟩
  sweep : d.sweep = recoverFrom d.options bytes d.offset
  steps : (recoverFrom d.options bytes d.offset).length ≤ bytes.length - d.offset

lemma contract_of_walksOver (h : d.WalksOver bytes) : d.Contract bytes where
  toWalksOver := h
  monotone op := op.offset_le_apply d
  item := by
    rw [fst_decodeNext, h.decode]
    exact if_congr h.rest_eq_nil rfl rfl
  success _ _ hx := offset_of_decodeNext h hx
  stays hx := decodeNext_stays hx
  next_item := fst_next d
  next_succeeds hx := next_eq_decodeNext hx
  next_recovers _ _ hx := next_recovers h hx
  skip_span e := h.take_rest e.skipLength
  skip_offset e := h.offset_advance e.skipLength
  skip_progress e hd := length_skip_pos h hd e
  setOptions _ := rfl
  exhausts _ _ := exhausts_iff h
  sweep := sweep_eq_recoverFrom h
  steps := length_recoverFrom_le _ _ _

end Contract

/-- Whatever is asked of a decoder, it loses, repeats and overruns no byte, and from any place that
it reaches, iterating comes to the end of the bytes, as the explicit loop does. -/
theorem contract_of_run (options : DecoderOptions) (bytes : List UInt8) (ops : List Operation) :
    ((start options bytes).run ops).Contract bytes ∧
      ((start options bytes).spans ops).flatten =
        bytes.take ((start options bytes).run ops).offset := by
  have hstart := walksOver_start options bytes
  exact ⟨contract_of_walksOver (walksOver_run hstart ops), append_flatten_spans hstart ops⟩

end Decoder

end X86
