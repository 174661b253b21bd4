import Mathlib
import X86.Listing
import X86.Proofs.DecoderRuns
import X86.Proofs.NumberText
import X86.Proofs.Sinks

/-! The lines of a section show each of its bytes once, at its address. -/

namespace X86

namespace Listing

open Decoder Numeral

variable {paint : Color → String → String} {o : Options} {image : Image} {s : CodeSection}
variable {d d' : Decoder} {ls : List Line} {mode : Mode} {l : Line}

/-- Writing a line for each item until there is nothing more to decode. The bytes of an instruction
are a slice of the section, and have to lie in it; the others are what was skipped. -/
inductive Writes (paint : Color → String → String) (o : Options) (image : Image) (s : CodeSection) :
    Decoder → List Line → Prop where
  | done {d d' : Decoder} : d.decodeNext = (none, d') → Writes paint o image s d []
  | instruction {d d' : Decoder} {offset : ℕ} {i : Instruction} {ls : List Line} :
      d.decodeNext = (some (offset, .ok i), d') → offset + i.length ≤ s.data.length →
      Writes paint o image s d' ls → Writes paint o image s d
        (line paint o image s ((s.data.drop offset).take i.length) (offset, .ok i) :: ls)
  | data {d d' : Decoder} {offset : ℕ} {e : DecodeError} {ls : List Line} :
      d.decodeNext = (some (offset, .error e), d') → Writes paint o image s (d'.skip e).2 ls →
      Writes paint o image s d (line paint o image s (d'.skip e).1 (offset, .error e) :: ls)

def linesFrom (paint : Color → String → String) (o : Options) (image : Image) (s : CodeSection)
    (d : Decoder) : List Line :=
  linesOf paint o image s d.sweep d.rest

lemma linesFrom_of_rest_eq_nil (hd : d.rest = []) : linesFrom paint o image s d = [] := by
  rw [linesFrom, sweep, dif_pos hd]
  rfl

lemma linesFrom_of_rest_ne_nil (hd : d.rest ≠ []) : linesFrom paint o image s d =
    line paint o image s (d.rest.take (itemLength d.decode)) (d.offset, d.decode) ::
      linesFrom paint o image s (d.advance (itemLength d.decode)) := by
  rw [linesFrom, sweep, dif_neg hd]
  rfl

lemma writes_of_rest_eq_nil (hd : d.rest = []) : Writes paint o image s d ls ↔ ls = [] := by
  have hn := decodeNext_of_rest_eq_nil hd
  constructor
  · intro h
    cases h with
    | done => rfl
    | instruction h' => cases hn.symm.trans h'
    | data h' => cases hn.symm.trans h'
  · rintro rfl
    exact .done hn

lemma writes_of_rest_ne_nil (h : d.WalksOver s.data) (hd : d.rest ≠ []) :
    Writes paint o image s d ls ↔ ∃ ls',
      ls = line paint o image s (d.rest.take (itemLength d.decode)) (d.offset, d.decode) :: ls' ∧
        Writes paint o image s (d.advance (itemLength d.decode)) ls' := by
  cases hr : d.decode with
  | ok i =>
    have hn := decodeNext_of_ok hd hr
    constructor
    · intro hw
      cases hw with
      | done h' => cases hn.symm.trans h'
      | instruction h' _ hw =>
        cases hn.symm.trans h'
        exact ⟨_, by rw [h.rest]; rfl, hw⟩
      | data h' => cases hn.symm.trans h'
    · rintro ⟨ls', rfl, hw⟩
      have hle := h.offset_le
      have hlen := length_le_rest_of_decode hr
      rw [h.length_rest] at hlen
      rw [h.rest]
      exact .instruction hn (by omega) hw
  | error e =>
    have hn := decodeNext_of_error hd hr
    constructor
    · intro hw
      cases hw with
      | done h' => cases hn.symm.trans h'
      | instruction h' => cases hn.symm.trans h'
      | data h' hw =>
        cases hn.symm.trans h'
        exact ⟨_, rfl, hw⟩
    · rintro ⟨ls', rfl, hw⟩
      exact .data hn hw

lemma writes_iff (h : d.WalksOver s.data) :
    Writes paint o image s d ls ↔ ls = linesFrom paint o image s d := by
  induction d using Decoder.sweep.induct generalizing ls with
  | case1 d hd => rw [writes_of_rest_eq_nil hd, linesFrom_of_rest_eq_nil hd]
  | case2 d hd ih =>
    rw [writes_of_rest_ne_nil h hd, linesFrom_of_rest_ne_nil hd]
    constructor
    · rintro ⟨ls', rfl, hw⟩
      rw [(ih (h.advance _)).mp hw]
    · rintro rfl
      exact ⟨_, rfl, (ih (h.advance _)).mpr rfl⟩

lemma flatMap_bytes_linesFrom (d : Decoder) :
    (linesFrom paint o image s d).flatMap Line.bytes = d.rest := by
  induction d using Decoder.sweep.induct with
  | case1 d hd => rw [linesFrom_of_rest_eq_nil hd, hd, List.flatMap_nil]
  | case2 d hd ih =>
    rw [linesFrom_of_rest_ne_nil hd, List.flatMap_cons, ih]
    exact List.take_append_drop _ _

/-- The text of a line is that of an instruction at its address, in colors on demand. -/
structure Line.Formats (paint : Color → String → String) (o : Options) (i : Instruction)
    (l : Line) : Prop where
  length : l.bytes.length = i.length
  plain : o.colors = false → l.text = i.text o.dialect { address := some l.address }
  colored : o.colors = true →
    l.text = Piece.coloredBy paint (i.render o.dialect { address := some l.address })
  stripped : Color.Paints paint →
    Color.strip l.text.toList = (i.text o.dialect { address := some l.address }).toList

lemma Line.formats_of_text_eq {i : Instruction} (hlength : l.bytes.length = i.length)
    (htext : l.text = instructionText paint o l.address i) : l.Formats paint o i := by
  have hclean := i.clean_render o.dialect { address := some l.address }
  rw [instructionText] at htext
  cases hcolors : o.colors with
  | false =>
    rw [hcolors, if_neg Bool.false_ne_true] at htext
    exact ⟨hlength, fun _ => htext, fun h => absurd h (by simp [hcolors]),
      fun _ => htext ▸ Piece.strip_plain hclean⟩
  | true =>
    rw [hcolors, if_pos rfl] at htext
    exact ⟨hlength, fun h => absurd h (by simp [hcolors]), fun _ => htext,
      fun hpaint => htext ▸ Piece.strip_coloredBy hpaint hclean⟩

structure Line.Describes (paint : Color → String → String) (o : Options) (image : Image)
    (s : CodeSection) (offset : ℕ) (l : Line) : Prop where
  address : l.address = (s.address + offset) % 2 ^ 64
  nonempty : l.bytes ≠ []
  bytes : l.bytes <+: s.data.drop offset
  text :
    match Instruction.decode o.decoder.mode o.decoder.strictLock (s.data.drop offset) with
    | .ok i => l.Formats paint o i
    | .error _ => Data.numbers? l.text.toList = some (l.bytes.map UInt8.toNat)
  label : l.label.isSome ↔ o.labels ∧ l.address ∈ image.symbols.map Prod.fst
  name : ∀ name ∈ l.label, (l.address, name) ∈ image.symbols

variable {offset : ℕ} {bytes : List UInt8}

lemma isSome_nameAt? (image : Image) (address : ℕ) :
    (image.nameAt? address).isSome ↔ address ∈ image.symbols.map Prod.fst := by
  rw [Image.nameAt?, List.lookup_isSome_iff, List.mem_map]
  simp only [beq_iff_eq, eq_comm (a := address)]

lemma mem_of_nameAt? {address : ℕ} {name : String} (h : image.nameAt? address = some name) :
    (address, name) ∈ image.symbols := by
  obtain ⟨before, behind, heq, -⟩ := List.lookup_eq_some_iff.mp h
  simp [heq]

lemma describes_line (h : d.WalksOver s.data) (ho : d.options = o.decoder) (hd : d.rest ≠ []) :
    (line paint o image s (d.rest.take (itemLength d.decode)) (d.offset, d.decode)).Describes
      paint o image s d.offset := by
  have hpos := d.itemLength_decode_pos
  have hlen : 0 < d.rest.length := List.length_pos_iff.mpr hd
  have hne : d.rest.take (itemLength d.decode) ≠ [] := by
    rw [← List.length_pos_iff, List.length_take]
    omega
  constructor
  · rw [line, Nat.shiftLeft_eq, Nat.one_mul]
  · exact hne
  · exact h.rest ▸ List.take_prefix _ _
  · rw [← ho, ← h.decode]
    cases hr : d.decode with
    | ok i =>
      have hle := length_le_rest_of_decode hr
      exact Line.formats_of_text_eq (List.length_take_of_le hle) rfl
    | error e => exact Data.numbers?_text (hr ▸ hne)
  · rw [line]
    split
    · rename_i hl
      simpa [hl] using isSome_nameAt? _ _
    · rename_i hl
      simp [hl]
  · intro name hname
    rw [line] at hname ⊢
    split at hname
    · exact mem_of_nameAt? hname
    · cases hname

lemma describes_linesFrom (h : d.WalksOver s.data) (ho : d.options = o.decoder) (k : ℕ)
    (hk : k < (linesFrom paint o image s d).length) :
    (linesFrom paint o image s d)[k].Describes paint o image s
      (d.offset + (((linesFrom paint o image s d).take k).flatMap Line.bytes).length) := by
  induction d using Decoder.sweep.induct generalizing k with
  | case1 d hd =>
    rw [linesFrom_of_rest_eq_nil hd] at hk
    cases hk
  | case2 d hd ih =>
    simp only [linesFrom_of_rest_ne_nil hd] at hk ⊢
    cases k with
    | zero => exact describes_line h ho hd
    | succ k =>
      rw [List.getElem_cons_succ, List.take_succ_cons, List.flatMap_cons, List.length_append,
        ← Nat.add_assoc]
      exact ih (h.advance _) ho k (Nat.lt_of_succ_lt_succ hk)

def Line.heading (mode : Mode) (l : Line) : String :=
  match l.label with
  | some name => "\n" ++ addressText mode l.address ++ " <" ++ name ++ ">:\n"
  | none => ""

def columns (row : List Char) : List Char × List Char × List Char :=
  let address := (row.drop 2).takeWhile (· ≠ ' ')
  let behind := row.drop (2 + address.length + 2)
  let digits := behind.takeWhile (· ≠ ' ')
  (address, digits, (behind.drop (max bytesWidth digits.length + 2)).dropLast)

def row? (row : List Char) : Option (ℕ × List UInt8 × String) :=
  let (address, digits, text) := columns row
  match digits? 16 address, bytes? digits with
  | some address, some bytes => some (address, bytes, String.ofList text)
  | _, _ => none

lemma takeWhile_ne_append {c : Char} {cs : List Char} (h : c ∉ cs) (ds : List Char) :
    (cs ++ c :: ds).takeWhile (· ≠ c) = cs := by
  have hcs : ∀ x ∈ cs, decide (x ≠ c) = true := by
    intro x hx
    exact decide_eq_true fun hxc => h (hxc ▸ hx)
  rw [List.takeWhile_append_of_pos hcs, List.takeWhile_cons_of_neg (by simp), List.append_nil]

lemma columns_append {address digits : List Char} (ha : ' ' ∉ address) (hd : ' ' ∉ digits)
    (text : List Char) (c : Char) :
    columns (' ' :: ' ' :: (address ++ ' ' :: ' ' :: (digits ++
      (List.replicate (bytesWidth - digits.length) ' ' ++ ' ' :: ' ' :: (text ++ [c]))))) =
        (address, digits, text) := by
  have haddress (cs : List Char) :
      ((' ' :: ' ' :: (address ++ ' ' :: cs)).drop 2).takeWhile (· ≠ ' ') = address :=
    takeWhile_ne_append ha cs
  have hbehind (cs : List Char) :
      (' ' :: ' ' :: (address ++ ' ' :: ' ' :: cs)).drop (2 + address.length + 2) = cs := by
    rw [Nat.add_assoc, Nat.add_comm 2]
    exact List.drop_length_add_append 2
  have hdigits : (digits ++ (List.replicate (bytesWidth - digits.length) ' ' ++
      ' ' :: ' ' :: (text ++ [c]))).takeWhile (· ≠ ' ') = digits := by
    cases bytesWidth - digits.length with
    | zero => exact takeWhile_ne_append hd _
    | succ k => exact takeWhile_ne_append hd _
  have htext : (digits ++ (List.replicate (bytesWidth - digits.length) ' ' ++
      ' ' :: ' ' :: (text ++ [c]))).drop (max bytesWidth digits.length + 2) = text ++ [c] := by
    have hlength : max bytesWidth digits.length =
        (digits ++ List.replicate (bytesWidth - digits.length) ' ').length := by
      rw [List.length_append, List.length_replicate]
      omega
    rw [← List.append_assoc, hlength]
    exact List.drop_length_add_append 2
  rw [columns, haddress, hbehind, hdigits, htext, List.dropLast_concat]

lemma blank_notMem_of_digits? {n base : ℕ} {cs : List Char} (h : digits? base cs = some n) :
    ' ' ∉ cs := by
  intro hmem
  obtain ⟨d, -, hd⟩ := exists_digit_of_digits? h ' ' hmem
  cases hd

lemma blank_notMem_bytesDigits (bs : List UInt8) : ' ' ∉ (Number.bytesDigits bs).toList := by
  rw [Number.bytesDigits, String.toList_join, List.mem_flatMap]
  rintro ⟨t, ht, hblank⟩
  obtain ⟨b, -, rfl⟩ := List.mem_map.mp ht
  exact blank_notMem_of_digits? (Number.digits?_byteDigits b) hblank

def Line.row (mode : Mode) (l : Line) : String :=
  "  " ++ addressText mode l.address ++ "  " ++ column bytesWidth (Number.bytesDigits l.bytes) ++
    "  " ++ l.text ++ "\n"

lemma columns_row (mode : Mode) (l : Line) : columns (l.row mode).toList =
    ((addressText mode l.address).toList, (Number.bytesDigits l.bytes).toList, l.text.toList) := by
  have haddress : digits? 16 (addressText mode l.address).toList = some l.address :=
    Number.digits?_padded (Number.digits?_hexDigits _)
  rw [← columns_append (blank_notMem_of_digits? haddress) (blank_notMem_bytesDigits l.bytes) _ '\n']
  simp [Line.row, column, ← String.length_toList]

structure Line.Shows (mode : Mode) (l : Line) (text : String) : Prop where
  text : text = l.heading mode ++ l.row mode
  heading : l.heading mode ≠ "" ↔ l.label.isSome
  row : row? (l.row mode).toList = some (l.address, l.bytes, l.text)
  width : (columns (l.row mode).toList).1.length =
    max (if mode = .bits64 then 16 else 8) (Nat.toDigits 16 l.address).length

lemma Line.shows_toText (mode : Mode) (l : Line) : l.Shows mode (l.toText mode) where
  text := by
    cases hl : l.label <;> simp only [toText, heading, row, hl, String.append_assoc]
  heading := by
    rw [Line.heading]
    cases l.label <;> simp
  row := by
    rw [row?, columns_row]
    have haddress : digits? 16 (addressText mode l.address).toList = some l.address :=
      Number.digits?_padded (Number.digits?_hexDigits _)
    simp [haddress, Number.bytes?_bytesDigits]
  width := by
    rw [columns_row, String.length_toList, addressText, Number.length_padded,
      ← String.length_toList, Number.toList_hexDigits]
    cases mode <;> rfl

lemma lines_eq_linesFrom (paint : Color → String → String) (o : Options) (image : Image)
    (s : CodeSection) :
    lines paint o image s = linesFrom paint o image s (start o.decoder s.data) := rfl

lemma flatMap_digits_rows (mode : Mode) (ls : List Line) :
    (ls.flatMap fun l => (columns (l.row mode).toList).2.1) =
      (Number.bytesDigits (ls.flatMap Line.bytes)).toList := by
  simp only [columns_row]
  rw [List.flatMap_def (f := Line.bytes), ← Number.bytesDigits_flatten, String.toList_join,
    List.flatMap_map, List.flatMap_map]

/-- Writing the lines of a section ends, and takes no slice that is not in it. The bytes that are
read from the rows are those of the section. Each line is about the bytes that come behind those of
the lines before it. -/
theorem lines_account_for_section (paint : Color → String → String) (o : Options) (image : Image)
    (s : CodeSection) :
    (∀ ls, Writes paint o image s (start o.decoder s.data) ls ↔ ls = lines paint o image s) ∧
    bytes? ((lines paint o image s).flatMap fun l => (columns (l.row o.decoder.mode).toList).2.1) =
      some s.data ∧
    (∀ k : Fin (lines paint o image s).length, (lines paint o image s)[k].Describes paint o image s
      (((lines paint o image s).take k).flatMap Line.bytes).length) ∧
    ∃ texts, sectionText paint o image s =
        "\nDisassembly of section " ++ s.name ++ ":\n" ++ String.join texts ∧
      List.Forall₂ (Line.Shows o.decoder.mode) (lines paint o image s) texts := by
  have hstart := walksOver_start o.decoder s.data
  refine ⟨fun ls => writes_iff hstart, ?_, fun k => ?_, _, rfl, ?_⟩
  · rw [flatMap_digits_rows, lines_eq_linesFrom, flatMap_bytes_linesFrom,
      Number.bytes?_bytesDigits]
    rfl
  · have hoffset : (start o.decoder s.data).offset = 0 := rfl
    have hk := describes_linesFrom hstart rfl k k.isLt
    rwa [hoffset, Nat.zero_add] at hk
  · rw [List.forall₂_map_right_iff]
    exact List.forall₂_same.mpr fun l _ => l.shows_toText _

end Listing

end X86
