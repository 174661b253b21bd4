namespace X86

namespace DecodeError

inductive Cause where
  | truncated
  /-- No instruction has these prefixes and this opcode in this mode. -/
  | noEncoding
  /-- The opcode is known, but a field holds a value that the processor forbids. -/
  | invalid
  deriving DecidableEq, Repr, Inhabited

end DecodeError

structure DecodeError where
  cause : DecodeError.Cause
  consumed : Nat
  deriving DecidableEq, Repr, Inhabited

namespace DecodeError

def message (e : DecodeError) : String :=
  let count := toString e.consumed
  match e.cause with
  | .truncated => "instruction truncated after " ++ count ++ " byte(s)"
  | .noEncoding => "no encoding matches the opcode sequence (" ++ count ++ " byte(s) examined)"
  | .invalid => "invalid instruction encoding (" ++ count ++ " byte(s) examined)"

def skipLength (e : DecodeError) : Nat := max e.consumed 1

def resume (e : DecodeError) (offset : Nat) : Nat := offset + e.skipLength

theorem skipLength_pos (e : DecodeError) : 0 < e.skipLength := by
  unfold skipLength; omega

end DecodeError

end X86
