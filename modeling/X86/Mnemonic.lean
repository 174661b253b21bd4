import X86.Mnemonic.General
import X86.Mnemonic.Bmi
import X86.Mnemonic.System
import X86.Mnemonic.X87
import X86.Mnemonic.Sse
import X86.Mnemonic.Avx

/-! The catalog of mnemonics, and the families whose members differ only in a size. -/

namespace X86

inductive MnemonicClass where
  | general | x87 | simd | system
  deriving DecidableEq, Repr, Inhabited

inductive Mnemonic where
  | invalid
  | general (m : Mnemonic.General)
  | bmi (m : Mnemonic.Bmi)
  | system (m : Mnemonic.System)
  | x87 (m : Mnemonic.X87)
  | sse (m : Mnemonic.Sse)
  | avx (m : Mnemonic.Avx)
  deriving DecidableEq, Inhabited

namespace Mnemonic

instance : Coe General Mnemonic := ⟨general⟩
instance : Coe Bmi Mnemonic := ⟨bmi⟩
instance : Coe System Mnemonic := ⟨system⟩
instance : Coe X87 Mnemonic := ⟨x87⟩
instance : Coe Sse Mnemonic := ⟨sse⟩
instance : Coe Avx Mnemonic := ⟨avx⟩

def all : List Mnemonic :=
  General.all.map general ++ Bmi.all.map bmi ++ System.all.map system ++ X87.all.map x87 ++
    Sse.all.map sse ++ Avx.all.map avx

def name : Mnemonic → String
  | invalid => "invalid"
  | general m => m.name
  | bmi m => m.name
  | system m => m.name
  | x87 m => m.name
  | sse m => m.name
  | avx m => m.name

def vexName : Mnemonic → String
  | invalid => invalid.name
  | bmi m => m.name
  | avx m => m.name
  | m => "v" ++ m.name

/-- A name that no other mnemonic has. Far transfers and two scalar moves and comparisons share
their printed names with other instructions. -/
def identifier : Mnemonic → String
  | invalid => "Invalid"
  | general .CALLF => "CALLF"
  | general .JMPF => "JMPF"
  | general .XLAT => "XLAT"
  | sse .MOVSD => "MOVSD_X"
  | sse .CMPSD => "CMPSD_X"
  | m => m.name.toUpper

def ofIdentifier? (t : String) : Option Mnemonic :=
  (invalid :: all).find? (·.identifier == t)

def classOf : Mnemonic → MnemonicClass
  | invalid | general _ | bmi _ => .general
  | system _ => .system
  | x87 _ => .x87
  | sse _ | avx _ => .simd

/-- The member of a size family for an operand size in bits; a family is called by its member for
16 bits. -/
def forOperandSize (m : Mnemonic) (bits : Nat) : Mnemonic :=
  match m, bits with
  | general .CBW, 32 => General.CWDE
  | general .CBW, 64 => General.CDQE
  | general .CWD, 32 => General.CDQ
  | general .CWD, 64 => General.CQO
  | general .MOVSW, 32 => General.MOVSD
  | general .MOVSW, 64 => General.MOVSQ
  | general .CMPSW, 32 => General.CMPSD
  | general .CMPSW, 64 => General.CMPSQ
  | general .STOSW, 32 => General.STOSD
  | general .STOSW, 64 => General.STOSQ
  | general .LODSW, 32 => General.LODSD
  | general .LODSW, 64 => General.LODSQ
  | general .SCASW, 32 => General.SCASD
  | general .SCASW, 64 => General.SCASQ
  | general .INSW, 32 => General.INSD
  | general .INSW, 64 => General.INSD
  | general .OUTSW, 32 => General.OUTSD
  | general .OUTSW, 64 => General.OUTSD
  | general .PUSHA, 32 => General.PUSHAD
  | general .POPA, 32 => General.POPAD
  | general .PUSHF, 32 => General.PUSHFD
  | general .PUSHF, 64 => General.PUSHFQ
  | general .POPF, 32 => General.POPFD
  | general .POPF, 64 => General.POPFQ
  | system .IRET, 32 => System.IRETD
  | system .IRET, 64 => System.IRETQ
  | m, _ => m

def forAddressSize (m : Mnemonic) (bits : Nat) : Mnemonic :=
  match m, bits with
  | general .JCXZ, 32 => General.JECXZ
  | general .JCXZ, 64 => General.JRCXZ
  | m, _ => m

def wide : Mnemonic → Mnemonic
  | sse .MOVD => Sse.MOVQ
  | sse .PEXTRD => Sse.PEXTRQ
  | sse .PINSRD => Sse.PINSRQ
  | general .CMPXCHG8B => General.CMPXCHG16B
  | system .FXSAVE => System.FXSAVE64
  | system .FXRSTOR => System.FXRSTOR64
  | system .XSAVE => System.XSAVE64
  | system .XRSTOR => System.XRSTOR64
  | system .XSAVEOPT => System.XSAVEOPT64
  | system .XSAVEC => System.XSAVEC64
  | system .XSAVES => System.XSAVES64
  | system .XRSTORS => System.XRSTORS64
  | m => m

def isString : Mnemonic → Bool
  | general .MOVSB | general .MOVSW | general .MOVSD | general .MOVSQ
  | general .CMPSB | general .CMPSW | general .CMPSD | general .CMPSQ
  | general .SCASB | general .SCASW | general .SCASD | general .SCASQ
  | general .LODSB | general .LODSW | general .LODSD | general .LODSQ
  | general .STOSB | general .STOSW | general .STOSD | general .STOSQ
  | general .INSB | general .INSW | general .INSD
  | general .OUTSB | general .OUTSW | general .OUTSD => true
  | _ => false

def isFar : Mnemonic → Bool
  | general .JMPF | general .CALLF => true
  | _ => false

def isTransfer : Mnemonic → Bool
  | general .CALL | general .CALLF | general .JMP | general .JMPF => true
  | _ => false

def equalName? : Mnemonic → Option String
  | general .JZ => some "je"
  | general .JNZ => some "jne"
  | general .SETZ => some "sete"
  | general .SETNZ => some "setne"
  | _ => none

end Mnemonic

end X86
