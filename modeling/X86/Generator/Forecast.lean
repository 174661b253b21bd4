import X86.Generator.Instruction

/-! What options and an opcode leave no choice in: the parts of a generated instruction that can be
told before any number is drawn. -/

namespace X86.Generator

structure VexForecast where
  lead : Option UInt8
  map : Option Nat
  slot : Option PrefixSlot
  long : Option Bool
  register : Option (Fin 16)
  r : Option Bool
  deriving DecidableEq, Repr

structure Forecast where
  vex : Option Bool
  opcodeBytes : Option (List UInt8)
  prefixBytes : Option (List UInt8)
  prefixLength : Option Nat
  mandatory : Option (List UInt8)
  reg : Option (Fin 8)
  registerForm : Option Bool
  vexPrefix : VexForecast
  deriving DecidableEq, Repr

def fixedSlot (r : OpcodeRecord) : Option PrefixSlot :=
  match r.slots with
  | [s] => some s
  | _ => none

namespace Options

def fixedSprinkles (o : Options) : Option Nat :=
  if o.prefixRate == 0 then some 0
  else if o.prefixRate == 1 then some sprinkles
  else none

/-- A prefix with map 1 may have two bytes or three, so its first byte is open. -/
def forecastVex (o : Options) (r : OpcodeRecord) : VexForecast where
  lead := if r.opcode.map = .map0F then none else some 0xC4
  map := if r.opcode.map = .map0F then none else r.opcode.map.vexNumber?
  slot := fixedSlot r
  long := if r.shortVex then some false else none
  register := if r.usesVexRegister then none else some 0
  r := if o.mode.isLong then none else some false

/-- What is certain about the instructions of an opcode. In 64-bit mode a REX prefix may appear. -/
def forecast (o : Options) (r : OpcodeRecord) : Forecast :=
  let vex := o.fixedVex r
  let plain := !r.vex && !o.mode.isLong
  let modrm := o.modrmOptions r o.mode.addressSize
  { vex := vex
    opcodeBytes := vex.map fun v => if v then [r.opcode.byte] else r.opcode.bytes
    prefixBytes :=
      match plain, o.fixedSprinkles, fixedSlot r with
      | true, some 0, some s => some s.bytes
      | _, _, _ => none
    prefixLength :=
      match plain, o.fixedSprinkles, fixedSlot r with
      | true, some n, some s => some (n + s.bytes.length)
      | _, _, _ => none
    mandatory :=
      match o.fixedSprinkles, fixedSlot r with
      | some _, some s => some s.bytes
      | _, _ => none
    reg := if r.hasModRM then modrm.fixedReg else none
    registerForm := if r.hasModRM then modrm.fixedForm else none
    vexPrefix := o.forecastVex r }

end Options

def meets {α : Type} [DecidableEq α] (fixed : Option α) (a : α) : Bool := fixed.all (· == a)

def VexForecast.admits (f : VexForecast) (v : VexPrefix) : Bool :=
  meets f.lead v.lead && meets f.map v.map && meets f.slot v.slot && meets f.long v.long &&
    meets f.register v.register && meets f.r v.r

def Forecast.admitsLead (f : Forecast) : Lead → Bool
  | .legacy slot _ => meets f.vex false && meets f.mandatory slot.bytes
  | .vex v => meets f.vex true && f.vexPrefix.admits v

def Forecast.admits (f : Forecast) (g : Generated) : Bool :=
  f.admitsLead g.lead && meets f.opcodeBytes g.opcodeBytes &&
    meets f.prefixBytes g.prefixBytes && meets f.prefixLength g.prefixBytes.length &&
    g.modrm.all fun m => meets f.reg m.reg && meets f.registerForm m.isRegister

end X86.Generator
