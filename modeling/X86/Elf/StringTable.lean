/-! Tables of names. A name is given by its offset, and ends at a zero byte or with the table. -/

namespace X86.Elf

structure StringTable where
  text : List Char
  deriving DecidableEq, Repr, Inhabited

namespace StringTable

def empty : StringTable := ⟨[]⟩

def ofBytes? (bytes : List UInt8) : Option StringTable :=
  (String.fromUTF8? ⟨bytes.toArray⟩).map fun t => ⟨t.toList⟩

/-- The name at an offset, if a character starts there. A last name without a zero behind it has an
empty end. -/
def nameIn? : List Char → Nat → Option String
  | [], _ => none
  | c :: cs, 0 => some (String.ofList ((c :: cs).takeWhile (· ≠ '\x00')))
  | [c], n => if n = c.utf8Size ∧ c ≠ '\x00' then some "" else none
  | c :: cs, n => if n < c.utf8Size then none else nameIn? cs (n - c.utf8Size)

def name? (t : StringTable) (offset : Nat) : Option String := nameIn? t.text offset

end StringTable

end X86.Elf
