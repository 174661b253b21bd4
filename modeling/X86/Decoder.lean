import X86.Encoding.Operands

/-! Decoding a run of instructions: a cursor that steps over what it decodes, and the sweep through
all bytes that steps over what it cannot decode. -/

namespace X86

structure DecoderOptions where
  mode : Mode
  strictLock : Bool := false
  deriving DecidableEq, Repr, Inhabited

structure Decoder where
  options : DecoderOptions
  offset : Nat
  rest : List UInt8
  deriving DecidableEq, Repr, Inhabited

abbrev Decoder.Item := Nat × Except DecodeError Instruction

namespace Decoder

def start (options : DecoderOptions) (bytes : List UInt8) : Decoder := ⟨options, 0, bytes⟩

def setOptions (d : Decoder) (options : DecoderOptions) : Decoder := { d with options }

def isAtEnd (d : Decoder) : Bool := d.rest.isEmpty

def advance (d : Decoder) (n : Nat) : Decoder :=
  { d with offset := d.offset + (d.rest.take n).length, rest := d.rest.drop n }

def decode (d : Decoder) : Except DecodeError Instruction :=
  Instruction.decode d.options.mode d.options.strictLock d.rest

/-- Decodes at the cursor, which stays where it is after a failure. -/
def decodeNext (d : Decoder) : Option Item × Decoder :=
  if d.isAtEnd then (none, d)
  else
    match d.decode with
    | .ok i => (some (d.offset, .ok i), d.advance i.length)
    | .error e => (some (d.offset, .error e), d)

def skip (d : Decoder) (e : DecodeError) : List UInt8 × Decoder :=
  (d.rest.take e.skipLength, d.advance e.skipLength)

def next (d : Decoder) : Option Item × Decoder :=
  match d.decodeNext with
  | (some (o, .error e), d) => (some (o, .error e), (d.skip e).2)
  | (item, d) => (item, d)

def itemLength : Except DecodeError Instruction → Nat
  | .ok i => i.length
  | .error e => e.skipLength

theorem itemLength_decode_pos (d : Decoder) : 0 < itemLength d.decode := by
  cases h : d.decode with
  | ok i => exact Instruction.length_pos_of_decode h
  | error e => exact e.skipLength_pos

def sweep (d : Decoder) : List Item :=
  if _h : d.rest = [] then []
  else (d.offset, d.decode) :: (d.advance (itemLength d.decode)).sweep
termination_by d.rest.length
decreasing_by
  have hpos := d.itemLength_decode_pos
  have hlen : 0 < d.rest.length := List.length_pos_iff.mpr _h
  simp only [advance, List.length_drop]
  omega

end Decoder

end X86
