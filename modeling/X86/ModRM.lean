import X86.Field
import X86.Operand

namespace X86

structure ModRM where
  mod : Fin 4
  reg : Fin 8
  rm : Fin 8
  deriving DecidableEq, Repr, Inhabited

inductive AddressBase where
  | register
  | base (n : Fin 8)
  | sib
  | disp32
  deriving DecidableEq, Repr, Inhabited

namespace ModRM

def ofByte (b : UInt8) : ModRM where
  mod := Fin.ofNat 4 (b.toNat / 64)
  reg := Fin.ofNat 8 (b.toNat / 8)
  rm := Fin.ofNat 8 b.toNat

def toByte (m : ModRM) : UInt8 :=
  UInt8.ofNat (64 * m.mod.val + 8 * m.reg.val + m.rm.val)

def isRegister (m : ModRM) : Bool := m.mod == 3

def dispLength16 (m : ModRM) : Nat :=
  match m.mod with
  | 0 => if m.rm = 6 then 2 else 0
  | 1 => 1
  | 2 => 2
  | 3 => 0

def pair16 (m : ModRM) : Option Nat × Option Nat :=
  if m.mod = 3 then (none, none)
  else
    match m.rm with
    | 0 => (some 3, some 6)
    | 1 => (some 3, some 7)
    | 2 => (some 5, some 6)
    | 3 => (some 5, some 7)
    | 4 => (some 6, none)
    | 5 => (some 7, none)
    | 6 => (if m.mod = 0 then none else some 5, none)
    | 7 => (some 3, none)

def memory16 (m : ModRM) (width : Size) (displacement : Int) : Memory where
  width := width
  base := m.pair16.1.map fun n => Register.gpr .word n false
  index := m.pair16.2.map fun n => Register.gpr .word n false
  scale := 1
  displacement := displacement

def addressBase (m : ModRM) : AddressBase :=
  if m.mod = 3 then .register
  else if m.rm = 4 then .sib
  else if m.mod = 0 ∧ m.rm = 5 then .disp32
  else .base m.rm

def hasSib (m : ModRM) : Bool := m.addressBase == .sib

def dispLength32 (m : ModRM) : Nat :=
  match m.mod with
  | 0 => if m.rm = 5 then 4 else 0
  | 1 => 1
  | 2 => 4
  | 3 => 0

end ModRM

structure Sib where
  scale : Fin 4
  index : Fin 8
  base : Fin 8
  deriving DecidableEq, Repr, Inhabited

def extended (field : Fin 8) (bit : Bool) : Nat := field.val + if bit then 8 else 0

namespace Sib

def ofByte (b : UInt8) : Sib where
  scale := Fin.ofNat 4 (b.toNat / 64)
  index := Fin.ofNat 8 (b.toNat / 8)
  base := Fin.ofNat 8 b.toNat

def toByte (s : Sib) : UInt8 :=
  UInt8.ofNat (64 * s.scale.val + 8 * s.index.val + s.base.val)

def factor (s : Sib) : Nat := 1 <<< s.scale.val

def indexNumber (s : Sib) (rexX : Bool) : Option Nat :=
  if s.index = 4 ∧ rexX = false then none else some (extended s.index rexX)

def hasDisp32 (s : Sib) (mod : Fin 4) : Bool := mod == 0 && s.base == 5

def baseNumber (s : Sib) (mod : Fin 4) (rexB : Bool) : Option Nat :=
  if s.hasDisp32 mod then none else some (extended s.base rexB)

end Sib

end X86
