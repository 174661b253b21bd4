import X86.Encoding

/-! Extraction: the operands of a scanned instruction, read from its bytes. It never fails; bytes
that are missing count as zeros. -/

namespace X86

structure Fields where
  mode : Mode
  encoding : Encoding
  opcode : UInt8
  modrm : ModRM
  memory : Option Memory
  deriving DecidableEq, Inhabited

namespace Encoding

def rexBit (e : Encoding) (bit : Rex → Bool) : Bool := e.rex.any bit

def sizeContext (mode : Mode) (e : Encoding) : SizeContext :=
  ⟨mode, e.operandSize, e.rexBit Rex.w, e.vexLong⟩

def addressRegister (e : Encoding) (n : Nat) : Register := .gpr e.addressSize n true

def sibAddress (e : Encoding) (m : ModRM) (s : Sib) (c : Cursor) : Memory × Cursor :=
  let index := s.indexNumber (e.rexBit Rex.x)
  let (d, c) := c.readField (if s.hasDisp32 m.mod then 4 else m.dispLength32)
  (⟨.unset, (s.baseNumber m.mod (e.rexBit Rex.b)).map e.addressRegister,
    index.map e.addressRegister, if index.isSome then s.factor else 1, d⟩, c)

def address32 (mode : Mode) (e : Encoding) (m : ModRM) (c : Cursor) : Memory × Cursor :=
  match m.addressBase with
  | .register => (.direct .unset 0, c)
  | .base n =>
    let (d, c) := c.readField m.dispLength32
    (⟨.unset, some (e.addressRegister (extended n (e.rexBit Rex.b))), none, 1, d⟩, c)
  | .disp32 =>
    let (d, c) := c.readField 4
    (⟨.unset, if mode.isLong then some (.ip e.addressSize) else none, none, 1, d⟩, c)
  | .sib =>
    let (b, c) := c.readUnsigned 1
    e.sibAddress m (Sib.ofByte (UInt8.ofNat b)) c

def address (mode : Mode) (e : Encoding) (m : ModRM) (c : Cursor) : Memory × Cursor :=
  if e.addressSize = .word then
    let (d, c) := c.readField m.dispLength16
    (m.memory16 .unset d, c)
  else e.address32 mode m c

end Encoding

namespace Fields

def behindModRM (mode : Mode) (e : Encoding) (opcode : UInt8) (m : ModRM) (c : Cursor) :
    Fields × Cursor :=
  if m.isRegister || e.entry.alwaysRegister then (⟨mode, e, opcode, m, none⟩, c)
  else
    let (a, c) := e.address mode m c
    (⟨mode, e, opcode, m, some a⟩, c)

def behindOpcode (mode : Mode) (e : Encoding) (opcode : UInt8) (c : Cursor) : Fields × Cursor :=
  if e.hasModRM then
    let (b, c) := c.readUnsigned 1
    behindModRM mode e opcode (ModRM.ofByte (UInt8.ofNat b)) c
  else (⟨mode, e, opcode, .ofByte 0, none⟩, c)

def read (mode : Mode) (bytes : List UInt8) (e : Encoding) : Fields × Cursor :=
  behindOpcode mode e (bytes.getD e.opcodeOffset 0) ⟨bytes, e.operandOffset⟩

def size (x : Fields) (w : Width) : Size := w.resolve (x.encoding.sizeContext x.mode)

def regNumber (x : Fields) : Nat := extended x.modrm.reg (x.encoding.rexBit Rex.r)

def rmNumber (x : Fields) : Nat := extended x.modrm.rm (x.encoding.rexBit Rex.b)

def opcodeNumber (x : Fields) : Nat :=
  extended (Fin.ofNat 8 x.opcode.toNat) (x.encoding.rexBit Rex.b)

def vexNumber? (x : Fields) : Option Nat := x.encoding.vex.map Vex.register

def general (x : Fields) (w : Width) (n : Nat) : Operand :=
  .register (.gpr (x.size w) n x.encoding.rex.isSome)

def vector (x : Fields) (w : Width) (n : Nat) : Operand :=
  .register ⟨.xmm, if x.size w = .ymmword then .ymmword else .xmmword, n⟩

def mmx (n : Fin 8) : Operand := .register ⟨.mmx, .qword, n⟩

def bound (n : Nat) : Operand := .register ⟨.bound, .xmmword, n⟩

def stack (n : Fin 8) : Operand := .register ⟨.fpu, .tbyte, n⟩

def memoryAt (x : Fields) (w : Size) : Option Operand :=
  x.memory.map fun a => .memory { a with width := w }

def memoryOr (x : Fields) (w : Width) (register : Operand) : Operand :=
  (x.memoryAt (x.size w)).getD register

/-- The operand of a shape that takes no trailing bytes; a VEX register is missing in a legacy
encoding, and memory in a register form. -/
def field? (x : Fields) : OperandShape → Option Operand
  | .rm w => x.memoryOr w (x.general w x.rmNumber)
  | .rmSplit w v => x.memoryOr w (x.general v x.rmNumber)
  | .memory w => x.memoryAt (x.size w)
  | .reg w => x.general w x.regNumber
  | .rmReg w => x.general w x.rmNumber
  | .opcodeReg w => x.general w x.opcodeNumber
  | .fixed w n => some (.register (.gpr (x.size w) n false))
  | .segment n => some (.register (.segment n))
  | .segmentReg => some (.register (.segment x.modrm.reg))
  | .control => some (.register ⟨.control, x.size .native, x.regNumber⟩)
  | .debug => some (.register ⟨.debug, x.size .native, x.regNumber⟩)
  | .one => some (.immediate 1 .byte)
  | .stackTop => some (stack 0)
  | .stack => some (stack x.modrm.rm)
  | .vector w => x.vector w x.regNumber
  | .vectorRm w => x.memoryOr w (x.vector w x.rmNumber)
  | .vectorRmReg w => x.vector w x.rmNumber
  | .vectorVex w => x.vexNumber?.map (x.vector w)
  | .vectorFirst => some (.register ⟨.xmm, .xmmword, 0⟩)
  | .mmx => some (mmx x.modrm.reg)
  | .mmxRm w => x.memoryOr w (mmx x.modrm.rm)
  | .mmxRmReg => some (mmx x.modrm.rm)
  | .bound => some (bound x.regNumber)
  | .boundRm =>
    (x.memoryAt (if x.mode.isLong then .xmmword else .qword)).getD (bound x.rmNumber)
  | .generalVex w => x.vexNumber?.map (x.general w)
  | .immediate _ | .signedByte _ | .relativeByte | .relative | .farAddress | .direct _
  | .vectorTail => none

def immediateSize (x : Fields) : Width → Size
  | .atMostDword => x.encoding.operandSize
  | w => x.size w

def operand (x : Fields) (c : Cursor) (s : OperandShape) : Option Operand × Cursor :=
  let length := s.trailingBytes x.encoding.operandSize x.encoding.addressSize
  match s with
  | .immediate w =>
    let (v, c) := c.readField length
    (some (.immediate v (x.immediateSize w)), c)
  | .signedByte w =>
    let (v, c) := c.readField 1
    (some (.immediate v (x.size w)), c)
  | .relativeByte =>
    let (d, c) := c.readField 1
    (some (.short d), c)
  | .relative =>
    let (d, c) := c.readField length
    (some (.near x.encoding.operandSize d), c)
  | .farAddress =>
    let w : Size := if x.encoding.operandSize = .word then .word else .dword
    let (offset, c) := c.readUnsigned w.bytes
    let (selector, c) := c.readUnsigned 2
    (some (.far w selector offset), c)
  | .direct w =>
    let (d, c) := c.readField length
    (some (.memory (.direct (x.size w) d)), c)
  | .vectorTail =>
    let (b, c) := c.readUnsigned 1
    let n := b / 16
    (some (x.vector .vector (if x.mode.isLong then n else n % 8)), c)
  | s => (x.field? s, c)

def operands (x : Fields) : List OperandShape → Cursor → List Operand × Cursor
  | [], c => ([], c)
  | s :: ss, c =>
    let (o, c) := x.operand c s
    let (os, c) := x.operands ss c
    (o.toList ++ os, c)

end Fields

namespace Encoding

def mnemonic (e : Encoding) : Mnemonic :=
  let m :=
    if e.entry.exception = .exchangeOrNop then
      .general (if e.rexBit Rex.b then .XCHG else .NOP)
    else e.entry.mnemonic
  let m := (m.forOperandSize e.operandSize.bits).forAddressSize e.addressSize.bits
  if e.rexBit Rex.w then m.wide else m

def isNop (e : Encoding) : Bool :=
  e.entry.exception == .exchangeOrNop && e.mnemonic == .general .NOP

def extract (mode : Mode) (bytes : List UInt8) (e : Encoding) : Instruction :=
  let (x, c) := Fields.read mode bytes e
  { mnemonic := e.mnemonic
    vex := e.isVex
    length := e.length
    segment := e.segment
    flags := e.flags
    operandSize := e.operandSize
    addressSize := e.addressSize
    operands := if e.isNop then [] else (x.operands e.entry.operands c).1 }

end Encoding

def Instruction.decode (mode : Mode) (strictLock : Bool) (bytes : List UInt8) :
    Except DecodeError Instruction :=
  (Encoding.scan mode strictLock bytes).map (Encoding.extract mode bytes)

theorem Instruction.length_pos_of_decode {mode : Mode} {strictLock : Bool} {bytes : List UInt8}
    {i : Instruction} (h : decode mode strictLock bytes = .ok i) : 0 < i.length := by
  unfold decode at h
  cases hs : Encoding.scan mode strictLock bytes with
  | error _ => simp [hs, Except.map] at h
  | ok e =>
    simp only [hs, Except.map, Except.ok.injEq] at h
    rw [← h]
    exact Encoding.length_pos hs

end X86
