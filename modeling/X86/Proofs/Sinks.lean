import Mathlib
import X86.Proofs.CleanText
import X86.Proofs.StreamRuns
import X86.Text.Token

/-! Readers of pieces: the tokens, the bytes of a stream and the colored text all say what the plain
text says. -/

namespace X86

namespace Color

variable {cs rest : List Char}

lemma resume_of_not_mem (mark : List Char) (h : '\x1b' ∉ cs) : resume mark cs = cs := by
  induction cs with
  | nil => rfl
  | cons c cs ih =>
    rw [List.mem_cons, not_or] at h
    rw [resume, ih h.2]
    intro _ hc
    exact absurd hc.symm h.1

/-- What a painter does to a text without escape sequences: it stands between the sequence of some
color and the one that ends all colors, or as it is, if there are to be no colors. -/
def Paints (paint : Color → String → String) : Prop :=
  ∀ color t, EscapeFree t → paint color t = t ∨
    ∃ n, paint color t = String.ofList (escape n ++ t.toList ++ reset)

lemma paints_paint : Paints paint := fun color t ht =>
  .inr ⟨color.code, by rw [paint, resume_of_not_mem _ ht]⟩

def afterParameters? : List Char → Option (List Char)
  | [] => none
  | c :: cs =>
    if c = 'm' then some cs
    else if c.isDigit ∨ c = ';' then afterParameters? cs
    else none

def afterEscape? : List Char → Option (List Char)
  | '\x1b' :: '[' :: cs => afterParameters? cs
  | _ => none

lemma length_lt_of_afterParameters? (h : afterParameters? cs = some rest) :
    rest.length < cs.length := by
  induction cs with
  | nil => cases h
  | cons c cs ih =>
    rw [afterParameters?] at h
    rw [List.length_cons]
    split at h
    · cases h
      exact Nat.lt_succ_self _
    · split at h
      · exact (ih h).trans (Nat.lt_succ_self _)
      · cases h

lemma length_lt_of_afterEscape? (h : afterEscape? cs = some rest) : rest.length < cs.length := by
  rw [afterEscape?.eq_def] at h
  split at h
  · have := length_lt_of_afterParameters? h
    simp only [List.length_cons]
    omega
  · cases h

def strip : List Char → List Char
  | [] => []
  | c :: cs =>
    match _h : afterEscape? (c :: cs) with
    | some rest => strip rest
    | none => c :: strip cs
termination_by cs => cs.length
decreasing_by
  · exact length_lt_of_afterEscape? _h
  · exact Nat.lt_succ_self _

lemma strip_of_afterEscape? (h : afterEscape? cs = some rest) : strip cs = strip rest := by
  cases cs with
  | nil => cases h
  | cons c cs =>
    rw [strip]
    split
    · rename_i found hfound
      cases h.symm.trans hfound
      rfl
    · rename_i hnone
      cases h.symm.trans hnone

lemma strip_cons_of_ne {c : Char} (h : c ≠ '\x1b') (cs : List Char) :
    strip (c :: cs) = c :: strip cs := by
  have hnone : afterEscape? (c :: cs) = none := by
    rw [afterEscape?]
    intro _ hc
    cases hc
    exact h rfl
  rw [strip]
  split
  · rename_i found hfound
    cases hnone.symm.trans hfound
  · rfl

lemma strip_append_of_not_mem {a : List Char} (h : '\x1b' ∉ a) (cs : List Char) :
    strip (a ++ cs) = a ++ strip cs := by
  induction a with
  | nil => rfl
  | cons c a ih =>
    rw [List.mem_cons, not_or] at h
    rw [List.cons_append, strip_cons_of_ne (Ne.symm h.1), ih h.2, List.cons_append]

lemma afterParameters?_digits {ds : List Char} (h : ∀ c ∈ ds, c.isDigit) (cs : List Char) :
    afterParameters? (ds ++ 'm' :: cs) = some cs := by
  induction ds with
  | nil => rfl
  | cons c ds ih =>
    rw [List.forall_mem_cons] at h
    have hm : c ≠ 'm' := by
      rintro rfl
      exact absurd h.1 (by decide)
    rw [List.cons_append, afterParameters?, if_neg hm, if_pos (.inl h.1), ih h.2]

lemma strip_escape_append (n : ℕ) (cs : List Char) : strip (escape n ++ cs) = strip cs := by
  have hdigits : ∀ c ∈ (toString n).toList, c.isDigit := fun c hc => by
    rw [Nat.toString_eq_ofList_toDigits, String.toList_ofList] at hc
    exact Nat.isDigit_of_mem_toDigits (by decide) (by decide) hc
  apply strip_of_afterEscape?
  rw [escape, List.cons_append, List.cons_append, List.append_assoc, List.singleton_append]
  exact afterParameters?_digits hdigits cs

end Color

namespace Token

lemma flat_ofSeparator (t : String) : flat (ofSeparator t) = t := by
  rw [ofSeparator]
  split_ifs <;> simp_all [flat, toText]

lemma toText_ofSymbol (t : String) : (ofSymbol t).toText = t := by
  rw [ofSymbol]
  split_ifs <;> simp_all [toText]

lemma flat_singleton (t : Token) : flat [t] = t.toText := by simp [flat]

lemma flat_ofPiece (p : Piece) : flat (ofPiece p) = p.text := by
  rcases p with ⟨kind, t⟩
  cases kind with
  | separator => exact flat_ofSeparator t
  | symbol => exact (flat_singleton _).trans (toText_ofSymbol t)
  | _ => exact flat_singleton _

lemma flat_ofPieces (ps : List Piece) : flat (ofPieces ps) = Piece.plain ps := by
  induction ps with
  | nil => rfl
  | cons p ps ih =>
    rw [ofPieces, List.flatMap_cons, flat, List.map_append, String.join_append, Piece.plain,
      List.map_cons, String.join_cons]
    exact congrArg₂ _ (flat_ofPiece p) ih

end Token

namespace Piece

variable {paint : Color → String → String} {ps : List Piece}

lemma strip_paintedBy_append (hpaint : Color.Paints paint) {p : Piece} (hp : EscapeFree p.text)
    (cs : List Char) :
    Color.strip ((p.paintedBy paint).toList ++ cs) = p.text.toList ++ Color.strip cs := by
  rw [paintedBy]
  cases p.color? with
  | none => exact Color.strip_append_of_not_mem hp cs
  | some color =>
    rcases hpaint color p.text hp with hplain | ⟨n, hpainted⟩
    · simp only [hplain]
      exact Color.strip_append_of_not_mem hp cs
    · simp only [hpainted, String.toList_ofList, List.append_assoc]
      rw [Color.strip_escape_append, Color.strip_append_of_not_mem hp, Color.reset,
        Color.strip_escape_append]

lemma strip_coloredBy (hpaint : Color.Paints paint) (hps : Clean ps) :
    Color.strip (coloredBy paint ps).toList = (plain ps).toList := by
  induction ps with
  | nil => exact Color.strip.eq_1
  | cons p ps ih =>
    rw [clean_cons] at hps
    rw [coloredBy, List.map_cons, String.join_cons, String.toList_append,
      strip_paintedBy_append hpaint hps.1, plain, List.map_cons, String.join_cons,
      String.toList_append]
    exact congrArg _ (ih hps.2)

lemma strip_plain (hps : Clean ps) : Color.strip (plain ps).toList = (plain ps).toList := by
  have hplain : coloredBy (fun _ t => t) ps = plain ps := by
    rw [coloredBy, plain]
    congr 2
    funext p
    rw [paintedBy]
    cases p.color? <;> rfl
  rw [← hplain, strip_coloredBy (fun _ _ _ => .inl rfl) hps, hplain]

end Piece

lemma fromUTF8?_utf8 (t : String) : String.fromUTF8? t.toUTF8.toList.toByteArray = some t := by
  have hbytes : t.toUTF8.toList.toByteArray = t.toByteArray := by
    apply ByteArray.ext
    rw [String.toUTF8_eq_toByteArray, toList_eq_toList_data, List.data_toByteArray,
      Array.toArray_toList]
  rw [hbytes, String.fromUTF8?, dif_pos t.isValidUTF8]
  rfl

namespace Stream

lemma flatten_chunks_foldl_writeText (f : Piece → String) (ps : List Piece) :
    (ps.foldl (fun s p => s.writeText (f p)) empty).flush.chunks.flatten =
      (String.join (ps.map f)).toUTF8.toList := by
  rw [flatten_chunks_flush, foldl_writeText (Nat.zero_le _), content_write]
  rfl

lemma flatten_chunks_writePieces (ps : List Piece) :
    (empty.writePieces ps).flush.chunks.flatten = (Piece.plain ps).toUTF8.toList :=
  flatten_chunks_foldl_writeText Piece.text ps

lemma flatten_chunks_writePaintedBy (paint : Color → String → String) (ps : List Piece) :
    (empty.writePaintedBy paint ps).flush.chunks.flatten =
      (Piece.coloredBy paint ps).toUTF8.toList :=
  flatten_chunks_foldl_writeText (Piece.paintedBy paint) ps

end Stream

structure Piece.Agreement (paint : Color → String → String) (ps : List Piece) : Prop where
  flat_tokens : Token.flat (Token.ofPieces ps) = plain ps
  decoded_bytes :
    String.fromUTF8? (Stream.empty.writePieces ps).flush.chunks.flatten.toByteArray =
      some (plain ps)
  strip_colored : Color.strip (coloredBy paint ps).toList = (plain ps).toList

lemma Piece.agreement {paint : Color → String → String} (hpaint : Color.Paints paint)
    {ps : List Piece} (hps : Clean ps) : Agreement paint ps where
  flat_tokens := Token.flat_ofPieces ps
  decoded_bytes := by rw [Stream.flatten_chunks_writePieces, fromUTF8?_utf8]
  strip_colored := strip_coloredBy hpaint hps

structure Instruction.Agreement (paint : Color → String → String) (dialect : Dialect)
    (options : FormatOptions) (i : Instruction) : Prop where
  flat_tokens : Token.flat (Token.ofPieces (i.render dialect options)) = i.text dialect options
  decoded_bytes :
    String.fromUTF8? (Stream.empty.writeInstruction dialect options false
      i).flush.chunks.flatten.toByteArray = some (i.text dialect options)
  decoded_colored_bytes :
    String.fromUTF8? (Stream.empty.writeInstruction dialect options true
      i).flush.chunks.flatten.toByteArray = some (Piece.colored (i.render dialect options))
  strip_colored : Color.strip (Piece.colored (i.render dialect options)).toList =
    (i.text dialect options).toList
  strip_coloredBy : Color.strip (Piece.coloredBy paint (i.render dialect options)).toList =
    (i.text dialect options).toList

theorem agreement_of_sinks (paint : Color → String → String) (hpaint : Color.Paints paint) :
    (∀ ps, Piece.Clean ps → Piece.Agreement paint ps) ∧
      ∀ dialect options i, Instruction.Agreement paint dialect options i := by
  refine ⟨fun ps hps => Piece.agreement hpaint hps, fun dialect options i => ?_⟩
  have hclean := i.clean_render dialect options
  have h := Piece.agreement hpaint hclean
  exact {
    flat_tokens := h.flat_tokens
    decoded_bytes := h.decoded_bytes
    decoded_colored_bytes := by
      rw [Stream.writeInstruction, Stream.writeInstructionBy, if_pos rfl,
        Stream.flatten_chunks_writePaintedBy, fromUTF8?_utf8]
      rfl
    strip_colored := Piece.strip_coloredBy Color.paints_paint hclean
    strip_coloredBy := h.strip_colored }

theorem agreement_of_sinks_memory :
    let ps : List Piece := [⟨.separator, "["⟩, ⟨.register, "ebx"⟩, ⟨.symbol, "+"⟩,
      ⟨.displacement, "0x10"⟩, ⟨.separator, "]"⟩, ⟨.separator, ", "⟩, ⟨.immediate, "1"⟩]
    Color.Paints Color.paint ∧ Piece.Clean ps ∧
      Token.flat (Token.ofPieces ps) = "[ebx+0x10], 1" ∧
      Color.strip (Piece.colored ps).toList = "[ebx+0x10], 1".toList := by
  intro ps
  have hclean : Piece.Clean ps := by decide
  have hplain : Piece.plain ps = "[ebx+0x10], 1" := by decide
  have h := (agreement_of_sinks Color.paint Color.paints_paint).1 ps hclean
  exact ⟨Color.paints_paint, hclean, hplain ▸ h.flat_tokens, hplain ▸ h.strip_colored⟩

end X86
