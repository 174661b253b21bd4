import X86.Opcode
import X86.Opcode.DecodeTree
import X86.Scan

/-! What stands in front of an instruction's operands: legacy prefixes, a REX or VEX prefix, and the
opcode. -/

namespace X86

structure Rex where
  w : Bool
  r : Bool
  x : Bool
  b : Bool
  deriving DecidableEq, Repr, Inhabited

def Rex.ofByte (b : UInt8) : Rex :=
  ⟨b.toNat.testBit 3, b.toNat.testBit 2, b.toNat.testBit 1, b.toNat.testBit 0⟩

inductive RepeatPrefix where
  | repz | repnz
  deriving DecidableEq, Repr, Inhabited

inductive PrefixByte where
  | operandSize
  | addressSize
  | lock
  | repeated (r : RepeatPrefix)
  | segment (index : Fin 6)
  | rex (r : Rex)
  deriving DecidableEq, Repr

namespace PrefixByte

def segments : List (UInt8 × Fin 6) :=
  [(0x26, 0), (0x2E, 1), (0x36, 2), (0x3E, 3), (0x64, 4), (0x65, 5)]

def ofByte? (mode : Mode) (b : UInt8) : Option PrefixByte :=
  if b = 0x66 then some operandSize
  else if b = 0x67 then some addressSize
  else if b = 0xF0 then some lock
  else if b = 0xF2 then some (repeated .repnz)
  else if b = 0xF3 then some (repeated .repz)
  else if mode.isLong && b &&& 0xF0 == 0x40 then some (rex (Rex.ofByte b))
  else (segments.lookup b).map segment

end PrefixByte

structure Prefixes where
  operandSize : Bool := false
  addressSize : Bool := false
  lock : Bool := false
  repeated : Option RepeatPrefix := none
  segment : Option Register := none
  rex : Option Rex := none
  deriving DecidableEq, Repr, Inhabited

namespace Prefixes

/-- One more prefix. The last repeat prefix and the last segment count, and a REX prefix only right
before the opcode. -/
def add (p : Prefixes) : PrefixByte → Prefixes
  | .operandSize => { p with operandSize := true, rex := none }
  | .addressSize => { p with addressSize := true, rex := none }
  | .lock => { p with lock := true, rex := none }
  | .repeated r => { p with repeated := some r, rex := none }
  | .segment i => { p with segment := some (Register.segment i), rex := none }
  | .rex r => { p with rex := some r }

def scan (mode : Mode) : Nat → Prefixes → Scan (Prefixes × UInt8)
  | 0, _ => .fail .invalid
  | room + 1, p => .fetch fun b =>
    match PrefixByte.ofByte? mode b with
    | some q => scan mode room (p.add q)
    | none => .done (p, b)

def allowVex (p : Prefixes) : Bool :=
  !p.operandSize && !p.lock && p.repeated.isNone && p.rex.isNone

def wide (p : Prefixes) : Bool := p.rex.any Rex.w

end Prefixes

structure Vex where
  long : Bool
  slot : PrefixSlot
  register : Nat
  deriving DecidableEq, Repr, Inhabited

namespace Vex

def ofByte (mode : Mode) (b : UInt8) : Vex where
  long := b.toNat.testBit 2
  slot := .ofNumber (Fin.ofNat 4 b.toNat)
  register := if mode.isLong then 15 - b.toNat / 8 % 16 else 7 - b.toNat / 8 % 8

end Vex

structure Head where
  prefixes : Prefixes
  opcode : Opcode
  vex : Option Vex
  deriving DecidableEq, Repr, Inhabited

namespace Head

def escaped : Scan Opcode := do
  let b ← Scan.byte
  if b = 0x38 then
    let b ← Scan.byte
    return ⟨.map0F38, b⟩
  else if b = 0x3A then
    let b ← Scan.byte
    return ⟨.map0F3A, b⟩
  else
    return ⟨.map0F, b⟩

/-- The extension bits of a VEX prefix stand inverted; outside 64-bit mode they do not count. -/
def vexRex (mode : Mode) (w : Bool) (bits : Nat) : Option Rex :=
  if mode.isLong then some ⟨w, !bits.testBit 7, !bits.testBit 6, !bits.testBit 5⟩ else none

def shortVex (mode : Mode) (p : Prefixes) : Scan Head := do
  let b ← Scan.byte
  let o ← Scan.byte
  let rex := vexRex mode false (b.toNat ||| 0x60)
  return ⟨{ p with rex }, ⟨.map0F, o⟩, some (.ofByte mode b)⟩

def longVex (mode : Mode) (p : Prefixes) : Scan Head := do
  let b ← Scan.byte
  match OpcodeMap.ofVexNumber? (b.toNat % 32) with
  | none => .fail .invalid
  | some map =>
    let c ← Scan.byte
    let o ← Scan.byte
    return ⟨{ p with rex := vexRex mode (c.toNat.testBit 7) b.toNat }, ⟨map, o⟩,
      some (.ofByte mode c)⟩

/-- The head with prefixes `p`, whose byte `lead` has been taken. Outside 64-bit mode C4 and C5
begin a VEX prefix only if the byte behind them would be a register form. -/
def ofLead (mode : Mode) (p : Prefixes) (lead : UInt8) : Scan Head := do
  if lead = 0x0F then
    let o ← escaped
    return ⟨p, o, none⟩
  else if lead = 0xC4 ∨ lead = 0xC5 then
    let next ← Scan.ahead
    if mode.isLong ∨ 0xC0 ≤ next then
      Scan.require p.allowVex .invalid
      if lead = 0xC5 then shortVex mode p else longVex mode p
    else
      return ⟨p, .ofByte lead, none⟩
  else
    return ⟨p, .ofByte lead, none⟩

def scan (mode : Mode) : Scan Head := do
  let (p, lead) ← Prefixes.scan mode Cursor.maxLength {}
  ofLead mode p lead

end Head

end X86
