import X86.Opcode.DecodeTree

/-! The words of the opcode maps. Operand shapes have their customary codes: a letter for where the
operand is found (`E` r/m, `G` reg, `M` memory, `V` vector reg, `W` vector r/m, `H` the VEX
register, and so on), then letters for the width (`b` byte, `v` operand size, `x` vector length). -/

namespace X86.OpcodeTable

open OperandShape

abbrev Eb := rm .byte
abbrev Ew := rm .word
abbrev Ed := rm .dword
abbrev Ev := rm .operand
abbrev Ey := rm .general
abbrev En := rm .native
abbrev EwRv := rmSplit .word .operand
abbrev EwRd := rmSplit .word .dword
abbrev EbRd := rmSplit .byte .dword

abbrev M := memory .unsized
abbrev Mb := memory .byte
abbrev Mw := memory .word
abbrev Md := memory .dword
abbrev Mq := memory .qword
abbrev Mt := memory .tbyte
abbrev Mo := memory .xmmword
abbrev Mx := memory .vector
abbrev Mv := memory .operand
abbrev My := memory .general
abbrev Mpair := memory .pair
abbrev Mp := memory .farPointer
abbrev Ms := memory .tableRegister
abbrev Ma := memory .bounds

abbrev Gb := reg .byte
abbrev Gw := reg .word
abbrev Gd := reg .dword
abbrev Gv := reg .operand
abbrev Gy := reg .general
abbrev Rw := rmReg .word
abbrev Rv := rmReg .operand
abbrev Rn := rmReg .native
abbrev By := generalVex .general
abbrev Zb := opcodeReg .byte
abbrev Zv := opcodeReg .operand
abbrev Zy := opcodeReg .general
abbrev Sw := segmentReg
abbrev Cn := control
abbrev Dn := debug

abbrev AL := fixed .byte 0
abbrev CL := fixed .byte 1
abbrev AX := fixed .word 0
abbrev DX := fixed .word 2
abbrev eAX := fixed .atMostDword 0
abbrev rAX := fixed .operand 0
abbrev ES := segment 0
abbrev CS := segment 1
abbrev SS := segment 2
abbrev DS := segment 3
abbrev FS := segment 4
abbrev GS := segment 5

abbrev Ib := immediate .byte
abbrev Iw := immediate .word
abbrev Iz := immediate .atMostDword
abbrev Iv := immediate .operand
abbrev Sb := signedByte .operand
abbrev Jb := relativeByte
abbrev Jz := relative
abbrev Ap := farAddress
abbrev Ob := direct .byte
abbrev Ov := direct .operand

abbrev ST0 := stackTop
abbrev STi := stack

abbrev Vo := vector .xmmword
abbrev Vx := vector .vector
abbrev Ho := vectorVex .xmmword
abbrev Hx := vectorVex .vector
abbrev Uo := vectorRmReg .xmmword
abbrev Ux := vectorRmReg .vector
abbrev Wb := vectorRm .byte
abbrev Ww := vectorRm .word
abbrev Wd := vectorRm .dword
abbrev Wq := vectorRm .qword
abbrev Wo := vectorRm .xmmword
abbrev Wx := vectorRm .vector
abbrev Whalf := vectorRm .halfVector
abbrev Wquarter := vectorRm .quarterVector
abbrev Weighth := vectorRm .eighthVector
abbrev Lx := vectorTail
abbrev XMM0 := vectorFirst
abbrev Pq := mmx
abbrev Qq := mmxRm .qword
abbrev Nq := mmxRmReg
abbrev Br := bound
abbrev Brm := boundRm

abbrev ud : DecodeTree := .undefined

def op (m : Mnemonic) (operands : List OperandShape) : DecodeTree :=
  .leaf { mnemonic := m, operands := operands }

def atomic (m : Mnemonic) (operands : List OperandShape) : DecodeTree :=
  .leaf { mnemonic := m, operands := operands, lockable := true }

def only32 (m : Mnemonic) (operands : List OperandShape) : DecodeTree :=
  .leaf { mnemonic := m, operands := operands, availability := .notIn64 }

def only64 (m : Mnemonic) (operands : List OperandShape) : DecodeTree :=
  .leaf { mnemonic := m, operands := operands, availability := .onlyIn64 }

/-- An instruction that works on the stack, 64 bits wide in 64-bit mode. -/
def push (m : Mnemonic) (operands : List OperandShape) : DecodeTree :=
  .leaf { mnemonic := m, operands := operands, longSize := .qword }

def branch (m : Mnemonic) (operands : List OperandShape) : DecodeTree :=
  .leaf { mnemonic := m, operands := operands, longSize := .always, repeatUse := .branch }

def indirect (m : Mnemonic) (operands : List OperandShape) : DecodeTree :=
  .leaf { mnemonic := m, operands := operands, longSize := .qword, repeatUse := .branch }

def repeated (m : Mnemonic) : DecodeTree :=
  .leaf { mnemonic := m, operands := [], repeatUse := .string }

/-- A vector instruction with a legacy and a VEX encoding. -/
def vex (m : Mnemonic) (operands : List OperandShape) : DecodeTree :=
  .leaf { mnemonic := m, operands := operands, vexUse := .optional }

def vex128 (m : Mnemonic) (operands : List OperandShape) : DecodeTree :=
  .leaf { mnemonic := m, operands := operands, vexUse := .optional, shortVex := true }

/-- An instruction with a VEX encoding only. -/
def avx (m : Mnemonic) (operands : List OperandShape) : DecodeTree :=
  .leaf { mnemonic := m, operands := operands, vexUse := .required }

def avx128 (m : Mnemonic) (operands : List OperandShape) : DecodeTree :=
  .leaf { mnemonic := m, operands := operands, vexUse := .required, shortVex := true }

def octet {α : Type} (a b c d e f g h : α) : Fin 8 → α
  | 0 => a
  | 1 => b
  | 2 => c
  | 3 => d
  | 4 => e
  | 5 => f
  | 6 => g
  | 7 => h

def group (a b c d e f g h : DecodeTree) : DecodeTree := .byReg (octet a b c d e f g h)

def rmGroup (a b c d e f g h : DecodeTree) : DecodeTree := .byRm (octet a b c d e f g h)

def slots (plain p66 pF3 pF2 : DecodeTree) : DecodeTree :=
  .bySlot fun
    | .plain => plain
    | .p66 => p66
    | .pF3 => pF3
    | .pF2 => pF2

def with66 (t : DecodeTree) : DecodeTree := slots ud t ud ud

end X86.OpcodeTable
