import X86.Mnemonic
import X86.Operand

namespace X86

structure Flags where
  bits : UInt8
  deriving DecidableEq, Repr, Inhabited

namespace Flags

def none : Flags := ⟨0⟩
def rep : Flags := ⟨1⟩
def repz : Flags := ⟨2⟩
def repnz : Flags := ⟨4⟩
def lock : Flags := ⟨8⟩
def bnd : Flags := ⟨16⟩

def named : List (Flags × String) :=
  [(rep, "rep"), (repz, "repz"), (repnz, "repnz"), (lock, "lock"), (bnd, "bnd")]

def meets (a b : Flags) : Bool := a.bits &&& b.bits != 0

def insert (a b : Flags) : Flags := ⟨a.bits ||| b.bits⟩

def remove (a b : Flags) : Flags := ⟨a.bits &&& ~~~b.bits⟩

def isEmpty (a : Flags) : Bool := a.bits == 0

end Flags

structure Instruction where
  mnemonic : Mnemonic
  vex : Bool
  length : Nat
  segment : Option Register
  flags : Flags
  operandSize : Size
  addressSize : Size
  operands : List Operand
  deriving DecidableEq, Inhabited

namespace Instruction

def name (i : Instruction) : String :=
  if i.vex then i.mnemonic.vexName else i.mnemonic.name

def memory? (i : Instruction) : Option Memory := i.operands.findSome? Operand.memory?

def targetBits (i : Instruction) : Nat :=
  match i.operandSize with
  | .word => 16
  | .dword => 32
  | _ => 64

def branchTarget? (i : Instruction) (address : Nat) : Option Nat :=
  (i.operands.findSome? Operand.distance?).map fun d : Int =>
    ((address + i.length + d : Int) % (1 <<< i.targetBits : Nat)).toNat

end Instruction

end X86
