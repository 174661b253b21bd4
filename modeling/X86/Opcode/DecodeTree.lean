import X86.ModRM
import X86.Opcode.Entry

/-! Under an opcode lies a tree whose inner nodes ask for one more selector: a field of the ModR/M
byte, a mandatory prefix, the mode, or the VEX prefix. Its leaves are the instructions. -/

namespace X86

/-- The prefix that belongs to an opcode and selects between its instructions. -/
inductive PrefixSlot where
  | plain | p66 | pF3 | pF2
  deriving DecidableEq, Repr, Inhabited

namespace PrefixSlot

def all : List PrefixSlot := [plain, p66, pF3, pF2]

def number : PrefixSlot → Nat
  | plain => 0
  | p66 => 1
  | pF3 => 2
  | pF2 => 3

def ofNumber (n : Fin 4) : PrefixSlot :=
  match n with
  | 0 => plain
  | 1 => p66
  | 2 => pF3
  | 3 => pF2

def bytes : PrefixSlot → List UInt8
  | plain => []
  | p66 => [0x66]
  | pF3 => [0xF3]
  | pF2 => [0xF2]

end PrefixSlot

inductive DecodeTree where
  | undefined
  | leaf (e : Entry)
  | byReg (next : Fin 8 → DecodeTree)
  | byForm (memory register : DecodeTree)
  | byRm (next : Fin 8 → DecodeTree)
  | bySlot (next : PrefixSlot → DecodeTree)
  | byMode (legacy long : DecodeTree)
  | byVex (legacy vex : DecodeTree)
  | byVexLength (short long : DecodeTree)

namespace DecodeTree

instance : Inhabited DecodeTree := ⟨undefined⟩

def isDefined : DecodeTree → Bool
  | undefined => false
  | _ => true

end DecodeTree

end X86
