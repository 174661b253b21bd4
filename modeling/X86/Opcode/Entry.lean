import X86.Mode
import X86.Mnemonic

/-! What the opcode maps hold of an instruction: its mnemonic, the shapes of its operands, and the
rules that depend on prefixes and mode. -/

namespace X86

structure SizeContext where
  mode : Mode
  operandSize : Size
  wide : Bool
  vexLong : Bool
  deriving DecidableEq, Repr

inductive Width where
  | byte | word | dword | qword | tbyte | xmmword
  | operand
  | general
  | atMostDword
  | pair
  | vector
  | halfVector | quarterVector | eighthVector
  | farPointer
  | tableRegister
  | bounds
  | native
  | unsized
  deriving DecidableEq, Repr, Inhabited

namespace Width

def resolve (c : SizeContext) : Width → Size
  | byte => .byte
  | word => .word
  | dword => .dword
  | qword => .qword
  | tbyte => .tbyte
  | xmmword => .xmmword
  | operand => c.operandSize
  | general => if c.wide then .qword else .dword
  | atMostDword => if c.operandSize = .word then .word else .dword
  | pair => if c.wide then .xmmword else .qword
  | vector => if c.vexLong then .ymmword else .xmmword
  | halfVector => if c.vexLong then .xmmword else .qword
  | quarterVector => if c.vexLong then .qword else .dword
  | eighthVector => if c.vexLong then .dword else .word
  | farPointer =>
    match c.operandSize with
    | .word => .dword
    | .qword => .tbyte
    | _ => .fword
  | tableRegister => if c.mode.isLong then .tbyte else .fword
  | bounds => if c.operandSize = .word then .dword else .qword
  | native => if c.mode.isLong then .qword else .dword
  | unsized => .unsized

end Width

/-- Of which kind an operand is, and where it stands. Legacy encodings lack the operands that a VEX
prefix names. -/
inductive OperandShape where
  | rm (w : Width)
  | rmSplit (memory register : Width)
  | memory (w : Width)
  | reg (w : Width)
  | rmReg (w : Width)
  | opcodeReg (w : Width)
  | fixed (w : Width) (index : Fin 8)
  | segment (index : Fin 6)
  | segmentReg
  | control
  | debug
  | immediate (w : Width)
  | signedByte (w : Width)
  | one
  | relativeByte
  | relative
  | farAddress
  | direct (w : Width)
  | stackTop
  | stack
  | vector (w : Width)
  | vectorRm (w : Width)
  | vectorRmReg (w : Width)
  | vectorVex (w : Width)
  | vectorTail
  | vectorFirst
  | mmx
  | mmxRm (w : Width)
  | mmxRmReg
  | bound
  | boundRm
  | generalVex (w : Width)
  deriving DecidableEq, Repr, Inhabited

namespace OperandShape

def usesModRM : OperandShape → Bool
  | rm _ | rmSplit _ _ | memory _ | reg _ | rmReg _ | segmentReg | control | debug | stack
  | vector _ | vectorRm _ | vectorRmReg _ | mmx | mmxRm _ | mmxRmReg | bound | boundRm => true
  | _ => false

def memoryOnly : OperandShape → Bool
  | memory _ => true
  | _ => false

def registerOnly : OperandShape → Bool
  | rmReg _ | vectorRmReg _ | mmxRmReg | stack => true
  | _ => false

def usesVexRegister : OperandShape → Bool
  | vectorVex _ | generalVex _ => true
  | _ => false

def trailingBytes (operandSize addressSize : Size) : OperandShape → Nat
  | immediate .byte | signedByte _ | relativeByte | vectorTail => 1
  | immediate .word => 2
  | immediate .dword => 4
  | immediate .operand => operandSize.bytes
  | immediate _ | relative => if operandSize = .word then 2 else 4
  | farAddress => if operandSize = .word then 4 else 6
  | direct _ => addressSize.bytes
  | _ => 0

end OperandShape

namespace Entry

inductive Availability where
  | everywhere | notIn64 | onlyIn64
  deriving DecidableEq, Repr, Inhabited

/-- The operand size in 64-bit mode: a prefix can change it, but for `always`. -/
inductive LongSize where
  | dword
  | qword
  | always
  deriving DecidableEq, Repr, Inhabited

/-- What F3 and F2 are called: `repz` and `repnz`, `rep` and `repnz`, or `repz` and `bnd`. -/
inductive RepeatUse where
  | condition
  | string
  | branch
  deriving DecidableEq, Repr, Inhabited

inductive VexUse where
  | never | optional | required
  deriving DecidableEq, Repr, Inhabited

/-- An exchange of a register with itself is no operation, the code segment register is never a
destination, and r/m can name a register whatever mod says. -/
inductive Exception where
  | none
  | exchangeOrNop
  | loadsSegment
  | alwaysRegister
  deriving DecidableEq, Repr, Inhabited

end Entry

structure Entry where
  mnemonic : Mnemonic
  operands : List OperandShape
  availability : Entry.Availability := .everywhere
  longSize : Entry.LongSize := .dword
  repeatUse : Entry.RepeatUse := .condition
  lockable : Bool := false
  vexUse : Entry.VexUse := .never
  shortVex : Bool := false
  exception : Entry.Exception := .none
  deriving DecidableEq, Inhabited

namespace Entry

def availableIn (e : Entry) (m : Mode) : Bool :=
  match e.availability with
  | .everywhere => true
  | .notIn64 => !m.isLong
  | .onlyIn64 => m.isLong

def usesModRM (e : Entry) : Bool := e.operands.any OperandShape.usesModRM

def usesVexRegister (e : Entry) : Bool := e.operands.any OperandShape.usesVexRegister

def alwaysRegister (e : Entry) : Bool := e.exception == .alwaysRegister

def allowsMemory (e : Entry) : Bool :=
  e.alwaysRegister || !e.operands.any OperandShape.registerOnly

def allowsRegister (e : Entry) : Bool :=
  e.alwaysRegister || !e.operands.any OperandShape.memoryOnly

def trailingBytes (e : Entry) (operandSize addressSize : Size) : Nat :=
  (e.operands.map (OperandShape.trailingBytes operandSize addressSize)).foldr (· + ·) 0

end Entry

end X86
