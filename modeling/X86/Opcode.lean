import X86.Text.Number

namespace X86

inductive OpcodeMap where
  | primary | map0F | map0F38 | map0F3A
  deriving DecidableEq, Repr, Inhabited

namespace OpcodeMap

def all : List OpcodeMap := [primary, map0F, map0F38, map0F3A]

def escape : OpcodeMap → List UInt8
  | primary => []
  | map0F => [0x0F]
  | map0F38 => [0x0F, 0x38]
  | map0F3A => [0x0F, 0x3A]

def vexNumber? : OpcodeMap → Option Nat
  | primary => none
  | map0F => some 1
  | map0F38 => some 2
  | map0F3A => some 3

def ofVexNumber? : Nat → Option OpcodeMap
  | 1 => some map0F
  | 2 => some map0F38
  | 3 => some map0F3A
  | _ => none

def rank : OpcodeMap → Nat
  | primary => 0
  | map0F => 1
  | map0F38 => 2
  | map0F3A => 3

end OpcodeMap

structure Opcode where
  map : OpcodeMap
  byte : UInt8
  deriving DecidableEq, Repr, Inhabited

namespace Opcode

def ofByte (b : UInt8) : Opcode := ⟨.primary, b⟩

def bytes (o : Opcode) : List UInt8 := o.map.escape ++ [o.byte]

def toText (o : Opcode) : String :=
  String.intercalate " " (o.bytes.map fun b => Number.upperHex 2 b.toNat)

def isExtended (o : Opcode) : Bool := o.map != .primary

def ofMap (m : OpcodeMap) : List Opcode :=
  (List.range 256).map fun b => ⟨m, UInt8.ofNat b⟩

def all : List Opcode := OpcodeMap.all.flatMap ofMap

def key (o : Opcode) : Nat := 256 * o.map.rank + o.byte.toNat

end Opcode

end X86
