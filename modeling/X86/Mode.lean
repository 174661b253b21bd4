import X86.Size

namespace X86

inductive Mode where
  | bits16 | bits32 | bits64
  deriving DecidableEq, Repr, Inhabited

namespace Mode

def bits : Mode → Nat
  | bits16 => 16
  | bits32 => 32
  | bits64 => 64

def ofBits? : Nat → Option Mode
  | 16 => some bits16
  | 32 => some bits32
  | 64 => some bits64
  | _ => none

def isLong : Mode → Bool
  | bits64 => true
  | _ => false

def operandSize : Mode → Size
  | bits16 => .word
  | _ => .dword

def otherOperandSize : Mode → Size
  | bits16 => .dword
  | _ => .word

def addressSize : Mode → Size
  | bits16 => .word
  | bits32 => .dword
  | bits64 => .qword

def otherAddressSize : Mode → Size
  | bits32 => .word
  | _ => .dword

def toText (m : Mode) : String := toString m.bits ++ "-bit"

end Mode

end X86
