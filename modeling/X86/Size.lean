namespace X86

/-- The width of an operand. `unset` stands in an address whose width is not yet known, `unsized`
marks a memory operand of which only the address counts. -/
inductive Size where
  | unset | byte | word | dword | fword | qword | tbyte | xmmword | ymmword | zmmword | unsized
  deriving DecidableEq, Repr, Inhabited

namespace Size

def all : List Size :=
  [unset, byte, word, dword, fword, qword, tbyte, xmmword, ymmword, zmmword, unsized]

def bits : Size → Nat
  | unset | unsized => 0
  | byte => 8
  | word => 16
  | dword => 32
  | fword => 48
  | qword => 64
  | tbyte => 80
  | xmmword => 128
  | ymmword => 256
  | zmmword => 512

def bytes (s : Size) : Nat := s.bits / 8

/-- The bits of a value that a 64-bit word can show at this width: a width without bits, or one
above 64, shows the whole word. -/
def shownBits (s : Size) : Nat :=
  if s.bits = 0 then 64 else min s.bits 64

def truncate (s : Size) (v : Int) : Nat := (v % (1 <<< s.shownBits : Nat)).toNat

def mask (s : Size) : Nat := (1 <<< s.shownBits) - 1

def keyword? : Size → Option String
  | byte => some "byte"
  | word => some "word"
  | dword => some "dword"
  | fword => some "fword"
  | qword => some "qword"
  | tbyte => some "tbyte"
  | xmmword => some "xmmword"
  | ymmword => some "ymmword"
  | zmmword => some "zmmword"
  | unset | unsized => none

def suffix? : Size → Option Char
  | byte => some 'b'
  | word => some 'w'
  | dword => some 'l'
  | qword => some 'q'
  | _ => none

def toText : Size → String
  | unset => "default"
  | unsized => "unsized"
  | s => toString s.bits

def ofText? (t : String) : Option Size := all.find? (·.toText == t)

def rank : Size → Nat
  | unset => 0
  | byte => 1
  | word => 2
  | dword => 3
  | fword => 4
  | qword => 5
  | tbyte => 6
  | xmmword => 7
  | ymmword => 8
  | zmmword => 9
  | unsized => 10

instance : LT Size := ⟨fun s t => s.rank < t.rank⟩

instance (s t : Size) : Decidable (s < t) := inferInstanceAs (Decidable (s.rank < t.rank))

end Size

end X86
