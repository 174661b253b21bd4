import X86.DecodeError

/-! A position in a list of bytes. `fetch` and `skip` step through an instruction and fail at the
end of the bytes or past the fifteenth one; the `read` functions never fail and take missing bytes
for zeros. -/

namespace X86

def littleEndian : List UInt8 → Nat
  | [] => 0
  | b :: bs => b.toNat + 256 * littleEndian bs

structure Cursor where
  bytes : List UInt8
  position : Nat
  deriving DecidableEq, Repr, Inhabited

namespace Cursor

def maxLength : Nat := 15

def start (bytes : List UInt8) : Cursor := ⟨bytes, 0⟩

def advance (c : Cursor) (n : Nat) : Cursor := ⟨c.bytes, c.position + n⟩

def peekAt? (c : Cursor) (ahead : Nat) : Option UInt8 := c.bytes[c.position + ahead]?

def peek? (c : Cursor) : Option UInt8 := c.peekAt? 0

def current (c : Cursor) : Except DecodeError UInt8 :=
  if maxLength ≤ c.position then .error ⟨.invalid, maxLength⟩
  else
    match c.bytes[c.position]? with
    | some b => .ok b
    | none => .error ⟨.truncated, c.bytes.length⟩

def fetch (c : Cursor) : Except DecodeError (UInt8 × Cursor) :=
  match c.current with
  | .ok b => .ok (b, c.advance 1)
  | .error e => .error e

/-- Steps over `n` bytes of an instruction. The limit on its length is checked first, and bytes
behind the new position are not looked at. -/
def skip (c : Cursor) (n : Nat) : Except DecodeError Cursor :=
  if maxLength < c.position + n then .error ⟨.invalid, maxLength⟩
  else if (c.bytes.take (c.position + n)).length < c.position + n then
    .error ⟨.truncated, c.bytes.length⟩
  else .ok (c.advance n)

theorem eq_advance_of_skip {c c' : Cursor} {n : Nat} (h : c.skip n = .ok c') :
    c' = c.advance n := by
  unfold skip at h
  split at h
  · simp at h
  · split at h
    · simp at h
    · simpa using h.symm

def readUnsigned (c : Cursor) (n : Nat) : Nat × Cursor :=
  (littleEndian ((c.bytes.drop c.position).take n), c.advance n)

def readSigned (c : Cursor) (n : Nat) : Int × Cursor :=
  let (v, c) := c.readUnsigned n
  (Int.bmod v (1 <<< (8 * n)), c)

def readField (c : Cursor) (n : Nat) : Int × Cursor :=
  if n = 1 ∨ n = 2 ∨ n = 4 ∨ n = 8 then c.readSigned n else (0, c)

end Cursor

end X86
