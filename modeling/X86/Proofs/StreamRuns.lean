import Mathlib
import X86.Stream

/-! Runs of a stream: every byte is passed on once and in order, in full chunks but for those that a
flush ends, and it does not matter how the bytes were split into writes. -/

namespace X86

private lemma toList_loop (b : ByteArray) (i : ℕ) (r : List UInt8) :
    ByteArray.toList.loop b i r = r.reverse ++ b.data.toList.drop i := by
  induction i, r using ByteArray.toList.loop.induct b with
  | case1 i r h ih =>
    have hi : i < b.data.toList.length := h
    have hget : b.get! i = b.data.toList[i] := getElem!_pos b.data i h
    rw [ByteArray.toList.loop, if_pos h, ih, List.drop_eq_getElem_cons hi, hget,
      List.reverse_cons, List.append_assoc, List.singleton_append]
  | case2 i r h =>
    have hi : b.data.toList.length ≤ i := Nat.le_of_not_lt h
    rw [ByteArray.toList.loop, if_neg h, List.drop_eq_nil_of_le hi, List.append_nil]

lemma toList_eq_toList_data (b : ByteArray) : b.toList = b.data.toList := by
  rw [ByteArray.toList, toList_loop, List.reverse_nil, List.nil_append, List.drop_zero]

lemma utf8_append (t u : String) :
    (t ++ u).toUTF8.toList = t.toUTF8.toList ++ u.toUTF8.toList := by
  simp only [String.toUTF8_eq_toByteArray, toList_eq_toList_data, String.toByteArray_append,
    ByteArray.toList_data_append]

lemma utf8_empty : "".toUTF8.toList = [] := by
  rw [String.toUTF8_eq_toByteArray, String.toByteArray_empty, ByteArray.toList_empty]

namespace Stream

variable {s : Stream} {a b bytes chunk : List UInt8}

lemma chop_of_length_le (h : bytes.length ≤ capacity) : chop bytes = ([], bytes) := by
  rw [chop, if_pos h]

lemma chop_of_lt_length (h : capacity < bytes.length) : chop bytes =
    (bytes.take capacity :: (chop (bytes.drop capacity)).1, (chop (bytes.drop capacity)).2) := by
  rw [chop, if_neg (Nat.not_le.mpr h)]

lemma flatten_chop (bytes : List UInt8) : (chop bytes).1.flatten ++ (chop bytes).2 = bytes := by
  induction bytes using chop.induct with
  | case1 bytes h => simp [chop_of_length_le h]
  | case2 bytes h _ _ _ ih =>
    rw [chop_of_lt_length (Nat.not_le.mp h), List.flatten_cons, List.append_assoc, ih,
      List.take_append_drop]

lemma length_snd_chop_le (bytes : List UInt8) : (chop bytes).2.length ≤ capacity := by
  induction bytes using chop.induct with
  | case1 bytes h => rwa [chop_of_length_le h]
  | case2 bytes h _ _ _ ih => rwa [chop_of_lt_length (Nat.not_le.mp h)]

lemma length_of_mem_chop (h : chunk ∈ (chop bytes).1) : chunk.length = capacity := by
  induction bytes using chop.induct with
  | case1 bytes hle =>
    rw [chop_of_length_le hle] at h
    cases h
  | case2 bytes hlt _ _ _ ih =>
    rw [chop_of_lt_length (Nat.not_le.mp hlt)] at h
    cases h with
    | head => exact List.length_take_of_le (Nat.not_le.mp hlt).le
    | tail _ h => exact ih h

lemma chop_append (a b : List UInt8) : chop (a ++ b) =
    ((chop a).1 ++ (chop ((chop a).2 ++ b)).1, (chop ((chop a).2 ++ b)).2) := by
  induction a using chop.induct with
  | case1 a h => simp [chop_of_length_le h]
  | case2 a h _ _ _ ih =>
    have hlt := Nat.not_le.mp h
    have hab : capacity < (a ++ b).length := by
      rw [List.length_append]
      omega
    rw [chop_of_lt_length hab, List.take_append_of_le_length hlt.le,
      List.drop_append_of_le_length hlt.le, ih, chop_of_lt_length hlt, List.cons_append]

def content (s : Stream) : List UInt8 := s.chunks.flatten ++ s.pending

lemma write_eq (s : Stream) (bytes : List UInt8) : s.write bytes =
    ⟨s.chunks ++ (chop (s.pending ++ bytes)).1, (chop (s.pending ++ bytes)).2⟩ := rfl

lemma content_write (s : Stream) (bytes : List UInt8) :
    (s.write bytes).content = s.content ++ bytes := by
  rw [write_eq, content, content, List.flatten_append, List.append_assoc, flatten_chop,
    List.append_assoc]

lemma write_nil (h : s.pending.length ≤ capacity) : s.write [] = s := by
  rw [write_eq, List.append_nil, chop_of_length_le h, List.append_nil]

lemma write_append (s : Stream) (a b : List UInt8) : s.write (a ++ b) = (s.write a).write b := by
  rw [write_eq, write_eq (s.write a), ← List.append_assoc, chop_append, ← List.append_assoc]
  rfl

lemma length_pending_write_le (s : Stream) (bytes : List UInt8) :
    (s.write bytes).pending.length ≤ capacity := length_snd_chop_le _

lemma content_flush (s : Stream) : s.flush.content = s.content := by
  by_cases h : s.pending.isEmpty
  · rw [flush, if_pos h]
  · rw [flush, if_neg h]
    simp [content]

lemma pending_flush (s : Stream) : s.flush.pending = [] := by
  by_cases h : s.pending.isEmpty
  · rwa [flush, if_pos h, ← List.isEmpty_iff]
  · rw [flush, if_neg h]

lemma flatten_chunks_flush (s : Stream) : s.flush.chunks.flatten = s.content := by
  rw [← content_flush, content, pending_flush, List.append_nil]

lemma flush_of_length_eq (h : s.pending.length = capacity) :
    s.flush = ⟨s.chunks ++ [s.pending], []⟩ := by
  have hne : ¬s.pending.isEmpty := by
    rw [List.isEmpty_iff_length_eq_zero, h]
    decide
  rw [flush, if_neg hne]

def relieve (s : Stream) : Stream := if s.pending.length = capacity then s.flush else s

lemma length_pending_relieve_lt (h : s.pending.length ≤ capacity) :
    s.relieve.pending.length < capacity := by
  by_cases hfull : s.pending.length = capacity
  · rw [relieve, if_pos hfull, pending_flush]
    decide
  · rw [relieve, if_neg hfull]
    omega

/-- Fills up what waits and passes it on, again and again: a full chunk goes only when there is a
byte behind it. -/
def fill (s : Stream) (bytes : List UInt8) : Stream :=
  if _h : bytes = [] ∨ capacity < s.pending.length then s
  else
    let n := capacity - s.relieve.pending.length
    fill ⟨s.relieve.chunks, s.relieve.pending ++ bytes.take n⟩ (bytes.drop n)
termination_by bytes.length
decreasing_by
  rw [not_or, Nat.not_lt] at _h
  have hb := List.length_pos_iff.mpr _h.1
  have hn := length_pending_relieve_lt _h.2
  rw [List.length_drop]
  omega

lemma write_of_length_le (h : s.pending.length ≤ capacity) (hne : bytes ≠ [])
    (hfits : bytes.length ≤ capacity - s.relieve.pending.length) :
    s.write bytes = ⟨s.relieve.chunks, s.relieve.pending ++ bytes⟩ := by
  by_cases hfull : s.pending.length = capacity
  · rw [relieve, if_pos hfull, flush_of_length_eq hfull] at hfits ⊢
    have hlt : capacity < (s.pending ++ bytes).length := by
      have := List.length_pos_iff.mpr hne
      rw [List.length_append]
      omega
    rw [write_eq, chop_of_lt_length hlt, List.take_left' hfull, List.drop_left' hfull,
      chop_of_length_le hfits, List.nil_append]
  · rw [relieve, if_neg hfull] at hfits ⊢
    have hle : (s.pending ++ bytes).length ≤ capacity := by
      rw [List.length_append]
      omega
    rw [write_eq, chop_of_length_le hle, List.append_nil]

lemma write_eq_fill (h : s.pending.length ≤ capacity) (bytes : List UInt8) :
    s.write bytes = s.fill bytes := by
  induction s, bytes using fill.induct with
  | case1 s bytes hstop =>
    rw [fill, dif_pos hstop]
    rcases hstop with rfl | hlt
    · exact write_nil h
    · exact absurd h (Nat.not_le.mpr hlt)
  | case2 s bytes hgo n ih =>
    have hroom := length_pending_relieve_lt h
    have hne : bytes.take n ≠ [] := by
      rw [not_or] at hgo
      rw [Ne, List.take_eq_nil_iff, not_or]
      exact ⟨by omega, hgo.1⟩
    have hstep := write_of_length_le h hne (List.length_take_le n bytes)
    have hle := length_pending_write_le s (bytes.take n)
    rw [hstep] at hle
    rw [fill, dif_neg hgo, ← ih hle, ← hstep, ← write_append, List.take_append_drop]

lemma foldl_writeText (h : s.pending.length ≤ capacity) (f : Piece → String) (ps : List Piece) :
    ps.foldl (fun s p => s.writeText (f p)) s = s.write (String.join (ps.map f)).toUTF8.toList := by
  induction ps generalizing s with
  | nil => rw [List.map_nil, String.join_nil, utf8_empty, write_nil h, List.foldl_nil]
  | cons p ps ih =>
    have hp : (s.writeText (f p)).pending.length ≤ capacity := length_pending_write_le _ _
    rw [List.foldl_cons, ih hp, List.map_cons, String.join_cons, utf8_append, write_append,
      writeText]

inductive Operation where
  | bytes (bs : List UInt8)
  | text (t : String)
  | int (value : ℤ) (forceSign : Bool)
  | hex (value width : ℕ)
  | data (bs : List UInt8)
  | instruction (dialect : Dialect) (options : FormatOptions) (colors : Bool) (i : Instruction)
  | flush

namespace Operation

variable (paint : Color → String → String)

def apply (s : Stream) : Operation → Stream
  | .bytes bs => s.write bs
  | .text t => s.writeText t
  | .int value forceSign => s.writeInt value forceSign
  | .hex value width => s.writeHex value width
  | .data bs => s.writeData bs
  | .instruction dialect options colors i => s.writeInstructionBy paint dialect options colors i
  | .flush => s.flush

def written : Operation → List UInt8
  | .bytes bs => bs
  | .text t => t.toUTF8.toList
  | .int value forceSign => (Number.decimal forceSign value).toUTF8.toList
  | .hex value width => (Number.upperHex width value).toUTF8.toList
  | .data bs => (Data.text bs).toUTF8.toList
  | .instruction dialect options true i =>
    (Piece.coloredBy paint (i.render dialect options)).toUTF8.toList
  | .instruction dialect options false i => (i.text dialect options).toUTF8.toList
  | .flush => []

variable {paint}

lemma apply_eq_write (h : s.pending.length ≤ capacity) {op : Operation} (hop : op ≠ flush) :
    op.apply paint s = s.write (op.written paint) := by
  cases op with
  | bytes | text | int | hex => rfl
  | data bs => exact foldl_writeText h Piece.text _
  | instruction dialect options colors i =>
    cases colors with
    | false => exact foldl_writeText h Piece.text _
    | true => exact foldl_writeText h (Piece.paintedBy paint) _
  | flush => exact absurd rfl hop

end Operation

variable {paint : Color → String → String}

structure Valid (s : Stream) : Prop where
  length_pending_le : s.pending.length ≤ capacity
  ne_nil : ∀ chunk ∈ s.chunks, chunk ≠ []
  length_le : ∀ chunk ∈ s.chunks, chunk.length ≤ capacity

lemma valid_empty : empty.Valid := ⟨Nat.zero_le _, by simp [empty], by simp [empty]⟩

namespace Valid

lemma write (h : s.Valid) (bytes : List UInt8) : (s.write bytes).Valid := by
  refine ⟨length_pending_write_le s bytes, fun chunk hc => ?_, fun chunk hc => ?_⟩
  all_goals rcases List.mem_append.mp hc with hc | hc
  · exact h.ne_nil chunk hc
  · rw [← List.length_pos_iff, length_of_mem_chop hc]
    decide
  · exact h.length_le chunk hc
  · exact (length_of_mem_chop hc).le

lemma flush (h : s.Valid) : s.flush.Valid := by
  by_cases hs : s.pending.isEmpty
  · rwa [Stream.flush, if_pos hs]
  · rw [Stream.flush, if_neg hs]
    refine ⟨Nat.zero_le _, fun chunk hc => ?_, fun chunk hc => ?_⟩
    all_goals rcases List.mem_append.mp hc with hc | hc
    · exact h.ne_nil chunk hc
    · rwa [List.mem_singleton.mp hc, Ne, ← List.isEmpty_iff]
    · exact h.length_le chunk hc
    · rw [List.mem_singleton.mp hc]
      exact h.length_pending_le

lemma apply (h : s.Valid) (op : Operation) : (op.apply paint s).Valid := by
  by_cases hop : op = .flush
  · rw [hop]
    exact h.flush
  · rw [Operation.apply_eq_write h.length_pending_le hop]
    exact h.write (op.written paint)

lemma content_apply (h : s.Valid) (op : Operation) :
    (op.apply paint s).content = s.content ++ op.written paint := by
  by_cases hop : op = .flush
  · rw [hop]
    exact (content_flush s).trans (List.append_nil _).symm
  · rw [Operation.apply_eq_write h.length_pending_le hop, content_write]

end Valid

lemma exists_chunks_apply (h : s.Valid) (op : Operation) : ∃ new,
    (op.apply paint s).chunks = s.chunks ++ new ∧
      ∀ chunk ∈ new, chunk.length < capacity → op = .flush := by
  by_cases hop : op = .flush
  · by_cases hs : s.pending.isEmpty
    · exact ⟨[], by simp [hop, Operation.apply, flush, hs], by simp⟩
    · exact ⟨[s.pending], by simp [hop, Operation.apply, flush, hs], fun _ _ _ => hop⟩
  · refine ⟨(chop (s.pending ++ op.written paint)).1, ?_, fun chunk hc hlt => ?_⟩
    · rw [Operation.apply_eq_write h.length_pending_le hop, write_eq]
    · exact absurd (length_of_mem_chop hc) hlt.ne

def run (paint : Color → String → String) (s : Stream) (ops : List Operation) : Stream :=
  ops.foldl (Operation.apply paint) s

lemma run_append (s : Stream) (ops ops' : List Operation) :
    s.run paint (ops ++ ops') = (s.run paint ops).run paint ops' := List.foldl_append

lemma Valid.run (h : s.Valid) (ops : List Operation) : (s.run paint ops).Valid := by
  induction ops generalizing s with
  | nil => exact h
  | cons op ops ih => exact ih (h.apply op)

lemma content_run (h : s.Valid) (ops : List Operation) :
    (s.run paint ops).content = s.content ++ ops.flatMap (Operation.written paint) := by
  induction ops generalizing s with
  | nil => exact (List.append_nil _).symm
  | cons op ops ih =>
    rw [List.flatMap_cons, ← List.append_assoc, ← h.content_apply op]
    exact ih (h.apply op)

lemma run_eq_write (h : s.Valid) {ops : List Operation} (hops : .flush ∉ ops) :
    s.run paint ops = s.write (ops.flatMap (Operation.written paint)) := by
  induction ops generalizing s with
  | nil => exact (write_nil h.length_pending_le).symm
  | cons op ops ih =>
    rw [List.mem_cons, not_or] at hops
    rw [List.flatMap_cons, write_append,
      ← Operation.apply_eq_write h.length_pending_le (Ne.symm hops.1)]
    exact ih (h.apply op) hops.2

structure Contract (paint : Color → String → String) (ops : List Operation) : Prop where
  content : (empty.run paint ops).chunks.flatten ++ (empty.run paint ops).pending =
    ops.flatMap (Operation.written paint)
  length_pending_le : (empty.run paint ops).pending.length ≤ 1024
  length_chunk : ∀ chunk ∈ (empty.run paint ops).chunks, chunk ≠ [] ∧ chunk.length ≤ 1024
  exists_chunks : ∀ op, ∃ new,
    (empty.run paint (ops ++ [op])).chunks = (empty.run paint ops).chunks ++ new ∧
      ∀ chunk ∈ new, chunk.length < 1024 → op = .flush
  closed : (empty.run paint (ops ++ [.flush])).pending = [] ∧
    (empty.run paint (ops ++ [.flush])).chunks.flatten = ops.flatMap (Operation.written paint)
  write_append : ∀ a b,
    (empty.run paint ops).write (a ++ b) = ((empty.run paint ops).write a).write b
  run_eq_write : ∀ ops', .flush ∉ ops' →
    empty.run paint (ops ++ ops') =
      (empty.run paint ops).write (ops'.flatMap (Operation.written paint))
  write_eq_fill : ∀ bytes, (empty.run paint ops).write bytes = (empty.run paint ops).fill bytes

theorem delivery_of_run (paint : Color → String → String) (ops : List Operation) :
    Contract paint ops := by
  have hvalid : (empty.run paint ops).Valid := valid_empty.run ops
  have hcontent : (empty.run paint ops).content = ops.flatMap (Operation.written paint) :=
    content_run valid_empty ops
  have hclosed : empty.run paint (ops ++ [.flush]) = (empty.run paint ops).flush := run_append _ _ _
  exact {
    content := hcontent
    length_pending_le := hvalid.length_pending_le
    length_chunk := fun chunk hc => ⟨hvalid.ne_nil chunk hc, hvalid.length_le chunk hc⟩
    exists_chunks := fun op => by
      rw [run_append]
      exact exists_chunks_apply hvalid op
    closed := by
      rw [hclosed, ← hcontent]
      exact ⟨pending_flush _, flatten_chunks_flush _⟩
    write_append := Stream.write_append _
    run_eq_write := fun ops' hops' => by
      rw [run_append]
      exact Stream.run_eq_write hvalid hops'
    write_eq_fill := Stream.write_eq_fill hvalid.length_pending_le }

end Stream

end X86
