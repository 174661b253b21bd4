import X86.Register

namespace X86

structure Memory where
  width : Size
  base : Option Register
  index : Option Register
  scale : Nat
  displacement : Int
  deriving DecidableEq, Repr, Inhabited

namespace Memory

def direct (width : Size) (displacement : Int) : Memory := ⟨width, none, none, 1, displacement⟩

def isAbsolute (m : Memory) : Bool := m.base.isNone && m.index.isNone

def isIpRelative (m : Memory) : Bool := m.base.any Register.isIp

end Memory

inductive Operand where
  | register (r : Register)
  | memory (m : Memory)
  | short (displacement : Int)
  | near (width : Size) (offset : Int)
  | far (width : Size) (selector : Nat) (offset : Int)
  /-- A constant, sign-extended from its encoding, and the width it is used at. -/
  | immediate (value : Int) (width : Size)
  deriving DecidableEq, Repr

namespace Operand

def width : Operand → Size
  | register r => r.width
  | memory m => m.width
  | short _ => .byte
  | near w _ => w
  | far w _ _ => w
  | immediate _ w => w

def isRegister : Operand → Bool
  | register _ => true
  | _ => false

def isMemory : Operand → Bool
  | memory _ => true
  | _ => false

def memory? : Operand → Option Memory
  | memory m => some m
  | _ => none

def distance? : Operand → Option Int
  | short d => some d
  | near _ d => some d
  | _ => none

def isRelative (o : Operand) : Bool := o.distance?.isSome

end Operand

end X86
