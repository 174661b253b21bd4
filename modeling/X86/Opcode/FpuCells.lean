import X86.Opcode.Filling
import X86.Opcode.Fpu

/-! The floating-point opcodes in the table: a block for each, with the eight memory forms before
the 64 register forms. -/

namespace X86.OpcodeTable

open Mnemonic.X87

def stackSlot (modrm : Nat) : Nat := 8 + modrm % 64

def stackRow (modrm : Nat) (t : DecodeTree) : List (Nat × Cell) :=
  run (stackSlot modrm) (List.replicate 8 t)

def impliedRow (modrm : Nat) (ms : List Mnemonic) : List (Nat × Cell) :=
  run (stackSlot modrm) (ms.map fun m => op m [])

def memoryRow (ms : List Mnemonic) (w : Width) : List (Nat × Cell) :=
  run 0 (ms.map fun m => op m [.memory w])

def floatArithmeticRow : Width → List (Nat × Cell) :=
  memoryRow [FADD, FMUL, FCOM, FCOMP, FSUB, FSUBR, FDIV, FDIVR]

def integerArithmeticRow : Width → List (Nat × Cell) :=
  memoryRow [FIADD, FIMUL, FICOM, FICOMP, FISUB, FISUBR, FIDIV, FIDIVR]

def cellsD8 : List (Nat × Cell) := List.flatten [
  floatArithmeticRow .dword, stackRow 0xC0 (toTop FADD), stackRow 0xC8 (toTop FMUL),
  stackRow 0xD0 (stackOp FCOM), stackRow 0xD8 (stackOp FCOMP), stackRow 0xE0 (toTop FSUB),
  stackRow 0xE8 (toTop FSUBR), stackRow 0xF0 (toTop FDIV), stackRow 0xF8 (toTop FDIVR)]

def cellsD9 : List (Nat × Cell) := List.flatten [
  [(0, op FLD [Md]), (2, op FST [Md]), (3, op FSTP [Md]), (4, op FLDENV [M]), (5, op FLDCW [Mw]),
    (6, op FNSTENV [M]), (7, op FNSTCW [Mw])],
  stackRow 0xC0 (stackOp FLD), stackRow 0xC8 (stackOp FXCH), impliedRow 0xD0 [FNOP],
  stackRow 0xD8 (stackOp FSTP), impliedRow 0xE0 [FCHS], impliedRow 0xE1 [FABS],
  impliedRow 0xE4 [FTST], impliedRow 0xE5 [FXAM],
  impliedRow 0xE8 [FLD1, FLDL2T, FLDL2E, FLDPI, FLDLG2, FLDLN2, FLDZ],
  impliedRow 0xF0 [F2XM1, FYL2X, FPTAN, FPATAN, FXTRACT, FPREM1, FDECSTP, FINCSTP, FPREM, FYL2XP1,
    FSQRT, FSINCOS, FRNDINT, FSCALE, FSIN, FCOS]]

def cellsDA : List (Nat × Cell) := List.flatten [
  integerArithmeticRow .dword, stackRow 0xC0 (toTop FCMOVB), stackRow 0xC8 (toTop FCMOVE),
  stackRow 0xD0 (toTop FCMOVBE), stackRow 0xD8 (toTop FCMOVU), impliedRow 0xE9 [FUCOMPP]]

def cellsDB : List (Nat × Cell) := List.flatten [
  [(0, op FILD [Md]), (1, op FISTTP [Md]), (2, op FIST [Md]), (3, op FISTP [Md]),
    (5, op FLD [Mt]), (7, op FSTP [Mt])],
  stackRow 0xC0 (toTop FCMOVNB), stackRow 0xC8 (toTop FCMOVNE), stackRow 0xD0 (toTop FCMOVNBE),
  stackRow 0xD8 (toTop FCMOVNU), impliedRow 0xE0 [FNENI], impliedRow 0xE1 [FNDISI],
  impliedRow 0xE2 [FNCLEX], impliedRow 0xE3 [FNINIT], impliedRow 0xE4 [FNSETPM],
  stackRow 0xE8 (toTop FUCOMI), stackRow 0xF0 (toTop FCOMI)]

/-- Here and in the block of DE the subtractions and divisions change places with their reverses. -/
def cellsDC : List (Nat × Cell) := List.flatten [
  floatArithmeticRow .qword, stackRow 0xC0 (fromTop FADD), stackRow 0xC8 (fromTop FMUL),
  stackRow 0xD0 (stackOp FCOM), stackRow 0xD8 (stackOp FCOMP), stackRow 0xE0 (fromTop FSUBR),
  stackRow 0xE8 (fromTop FSUB), stackRow 0xF0 (fromTop FDIVR), stackRow 0xF8 (fromTop FDIV)]

def cellsDD : List (Nat × Cell) := List.flatten [
  [(0, op FLD [Mq]), (1, op FISTTP [Mq]), (2, op FST [Mq]), (3, op FSTP [Mq]), (4, op FRSTOR [M]),
    (6, op FNSAVE [M]), (7, op FNSTSW [Mw])],
  stackRow 0xC0 (stackOp FFREE), stackRow 0xC8 (stackOp FXCH), stackRow 0xD0 (stackOp FST),
  stackRow 0xD8 (stackOp FSTP), stackRow 0xE0 (stackOp FUCOM), stackRow 0xE8 (stackOp FUCOMP)]

def cellsDE : List (Nat × Cell) := List.flatten [
  integerArithmeticRow .word, stackRow 0xC0 (fromTop FADDP), stackRow 0xC8 (fromTop FMULP),
  stackRow 0xD0 (stackOp FCOMP), impliedRow 0xD9 [FCOMPP], stackRow 0xE0 (fromTop FSUBRP),
  stackRow 0xE8 (fromTop FSUBP), stackRow 0xF0 (fromTop FDIVRP), stackRow 0xF8 (fromTop FDIVP)]

def cellsDF : List (Nat × Cell) := List.flatten [
  [(0, op FILD [Mw]), (1, op FISTTP [Mw]), (2, op FIST [Mw]), (3, op FISTP [Mw]),
    (4, op FBLD [Mt]), (5, op FILD [Mq]), (6, op FBSTP [Mt]), (7, op FISTP [Mq])],
  stackRow 0xC0 (stackOp FFREEP), stackRow 0xC8 (stackOp FXCH), stackRow 0xD0 (stackOp FSTP),
  stackRow 0xD8 (stackOp FSTP),
  [(stackSlot 0xE0, op FNSTSW [AX])],
  stackRow 0xE8 (toTop FUCOMIP), stackRow 0xF0 (toTop FCOMIP)]

def fillFpu : List FillStep :=
  block .escapeD8 cellsD8 ++ block .escapeD9 cellsD9 ++ block .escapeDA cellsDA ++
    block .escapeDB cellsDB ++ block .escapeDC cellsDC ++ block .escapeDD cellsDD ++
    block .escapeDE cellsDE ++ block .escapeDF cellsDF

end X86.OpcodeTable
