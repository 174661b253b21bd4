import X86.Generator.ModRM
import X86.Generator.Options

/-! Random instructions. Opcode, prefixes and ModR/M byte fit together; the bytes behind them are
random. -/

namespace X86.Generator

structure VexPrefix where
  short : Bool
  map : Nat
  w : Bool
  r : Bool
  x : Bool
  b : Bool
  register : Fin 16
  long : Bool
  slot : PrefixSlot
  deriving DecidableEq, Repr, Inhabited

namespace VexPrefix

def bit (b : Bool) (place : Nat) : Nat := if b then 1 <<< place else 0

def last (v : VexPrefix) : Nat :=
  8 * (15 - v.register.val) + bit v.long 2 + v.slot.number

def lead (v : VexPrefix) : UInt8 := if v.short then 0xC5 else 0xC4

def bytes (v : VexPrefix) : List UInt8 :=
  if v.short then [v.lead, UInt8.ofNat (bit (!v.r) 7 + v.last)]
  else [v.lead, UInt8.ofNat (bit (!v.r) 7 + bit (!v.x) 6 + bit (!v.b) 5 + v.map),
    UInt8.ofNat (bit v.w 7 + v.last)]

end VexPrefix

inductive Lead where
  | legacy (slot : PrefixSlot) (rex : Option (Fin 16))
  | vex (v : VexPrefix)
  deriving DecidableEq, Repr, Inhabited

namespace Lead

def isVex : Lead → Bool
  | legacy _ _ => false
  | vex _ => true

def bytes : Lead → List UInt8
  | legacy slot rex => slot.bytes ++ rex.toList.map fun r => UInt8.ofNat (0x40 + r.val)
  | vex v => v.bytes

end Lead

structure Generated where
  record : OpcodeRecord
  sprinkled : List UInt8
  lead : Lead
  modrm : Option ModRM
  sib : Option UInt8
  tail : List UInt8
  deriving DecidableEq

namespace Generated

def prefixBytes (g : Generated) : List UInt8 := g.sprinkled ++ g.lead.bytes

def opcodeBytes (g : Generated) : List UInt8 :=
  if g.lead.isVex then [g.record.opcode.byte] else g.record.opcode.bytes

def modrmBytes (g : Generated) : List UInt8 :=
  (g.modrm.map ModRM.toByte).toList ++ g.sib.toList

def bytes (g : Generated) : List UInt8 :=
  g.prefixBytes ++ g.opcodeBytes ++ g.modrmBytes ++ g.tail

end Generated

def tailLength : Nat := 10

def sprinkles : Nat := 3

/-- The prefixes that may stand in front of a legacy encoding. Repeat prefixes are left to the
selection of instructions. -/
def legacyPrefixes : List UInt8 := [0xF0, 0x2E, 0x36, 0x3E, 0x26, 0x64, 0x65, 0x66, 0x67]

def vexPrefixes : List UInt8 := [0x2E, 0x36, 0x3E, 0x26, 0x64, 0x65, 0x67]

namespace Options

def fixedVex (o : Options) (r : OpcodeRecord) : Option Bool :=
  if r.vex && o.allowVex && r.opcode.map.vexNumber?.isSome then
    if r.legacy then none else some true
  else some false

def drawSprinkle (o : Options) (vex : Bool) : Draw (List UInt8) := do
  if ← Draw.chance o.prefixRate then
    let b ← Draw.pick 0x67 (if vex then vexPrefixes else legacyPrefixes)
    return [b]
  else return []

def drawSprinkled (o : Options) (vex : Bool) : Draw (List UInt8) := do
  let bs ← Draw.times sprinkles (o.drawSprinkle vex)
  return bs.flatten

def drawRegister (o : Options) (r : OpcodeRecord) : Draw (Fin 16) :=
  if !r.usesVexRegister then pure 0
  else if o.mode.isLong then Draw.upTo 15
  else Fin.castLE (by decide) <$> Draw.upTo 7

def drawLong (r : OpcodeRecord) : Draw Bool := if r.shortVex then pure false else Draw.bool

/-- An extension bit of a VEX prefix. Outside 64-bit mode it stays clear, so that the byte behind
the first one is that of a register form. -/
def drawExtension (o : Options) : Draw Bool := if o.mode.isLong then Draw.bool else pure false

def drawVex (o : Options) (r : OpcodeRecord) (slot : PrefixSlot) : Draw VexPrefix := do
  let long ← drawLong r
  let register ← o.drawRegister r
  let rBit ← o.drawExtension
  let xBit ← o.drawExtension
  let bBit ← o.drawExtension
  let wBit ← Draw.bool
  let short ← Draw.bool
  let map := r.opcode.map.vexNumber?.getD 1
  return {
    short := map == 1 && !xBit && !bBit && !wBit && short
    map := map
    w := wBit
    r := rBit
    x := xBit
    b := bBit
    register := register
    long := long
    slot := slot }

def drawRex (o : Options) : Draw (Option (Fin 16)) := do
  if !o.mode.isLong then return none
  if (← Draw.below 4) == 0 then return some (← Draw.upTo 15)
  return none

def drawIsVex (o : Options) (r : OpcodeRecord) : Draw Bool := (o.fixedVex r).elim Draw.bool pure

def drawLead (o : Options) (r : OpcodeRecord) (slot : PrefixSlot) (vex : Bool) : Draw Lead :=
  if vex then Lead.vex <$> o.drawVex r slot else Lead.legacy slot <$> o.drawRex

def modrmOptions (o : Options) (r : OpcodeRecord) (addressSize : Size) : ModRMOptions where
  addressSize := addressSize
  allowRegister := r.registerForm
  allowMemory := r.memoryForm
  extensions := o.extensionsOf r

def drawModRM (o : Options) (r : OpcodeRecord) (addressSize : Size) :
    Draw (Option ModRM × Option UInt8) :=
  if r.hasModRM then do
    let mo := o.modrmOptions r addressSize
    let m ← mo.draw
    let sib ← mo.drawSib m
    return (some m, sib)
  else return (none, none)

def drawInstruction (o : Options) (r : OpcodeRecord) : Draw Generated := do
  let vex ← o.drawIsVex r
  let slot ← Draw.pick .plain r.slots
  let sprinkled ← o.drawSprinkled vex
  let lead ← o.drawLead r slot vex
  let addressSize := if sprinkled.contains 0x67 then o.mode.otherAddressSize else o.mode.addressSize
  let (modrm, sib) ← o.drawModRM r addressSize
  let tail ← Draw.times tailLength Draw.byte
  return ⟨r, sprinkled, lead, modrm, sib, tail⟩

end Options

def generate (o : Options) : Draw (Except GeneratorError Generated) :=
  match o.check, o.candidates with
  | .error e, _ => return .error (.invalidOptions e)
  | .ok (), [] => return .error .noCandidates
  | .ok (), first :: rest => do
    let r ← Draw.pick first (first :: rest)
    return .ok (← o.drawInstruction r)

end X86.Generator
