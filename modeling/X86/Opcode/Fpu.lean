import X86.Opcode.Vocabulary

/-! The opcodes D8 to DF: the floating-point instructions. A memory form is chosen by reg, a
register form by reg and r/m. Several register forms repeat others. -/

namespace X86.OpcodeTable

open Mnemonic.X87

def stackOp (m : Mnemonic) : DecodeTree := op m [STi]

def toTop (m : Mnemonic) : DecodeTree := op m [ST0, STi]

def fromTop (m : Mnemonic) : DecodeTree := op m [STi, ST0]

def implied (a b c d e f g h : Mnemonic) : DecodeTree :=
  rmGroup (op a []) (op b []) (op c []) (op d []) (op e []) (op f []) (op g []) (op h [])

def memoryArithmetic (w : Width) : DecodeTree :=
  group (op FADD [.memory w]) (op FMUL [.memory w]) (op FCOM [.memory w]) (op FCOMP [.memory w])
    (op FSUB [.memory w]) (op FSUBR [.memory w]) (op FDIV [.memory w]) (op FDIVR [.memory w])

def integerArithmetic (w : Width) : DecodeTree :=
  group (op FIADD [.memory w]) (op FIMUL [.memory w]) (op FICOM [.memory w]) (op FICOMP [.memory w])
    (op FISUB [.memory w]) (op FISUBR [.memory w]) (op FIDIV [.memory w]) (op FIDIVR [.memory w])

def escapeD8 : DecodeTree :=
  .byForm (memoryArithmetic .dword)
    (group (toTop FADD) (toTop FMUL) (stackOp FCOM) (stackOp FCOMP) (toTop FSUB) (toTop FSUBR)
      (toTop FDIV) (toTop FDIVR))

def escapeD9 : DecodeTree :=
  .byForm
    (group (op FLD [Md]) ud (op FST [Md]) (op FSTP [Md]) (op FLDENV [M]) (op FLDCW [Mw])
      (op FNSTENV [M]) (op FNSTCW [Mw]))
    (group (stackOp FLD) (stackOp FXCH)
      (rmGroup (op FNOP []) ud ud ud ud ud ud ud)
      (stackOp FSTP)
      (rmGroup (op FCHS []) (op FABS []) ud ud (op FTST []) (op FXAM []) ud ud)
      (rmGroup (op FLD1 []) (op FLDL2T []) (op FLDL2E []) (op FLDPI []) (op FLDLG2 [])
        (op FLDLN2 []) (op FLDZ []) ud)
      (implied F2XM1 FYL2X FPTAN FPATAN FXTRACT FPREM1 FDECSTP FINCSTP)
      (implied FPREM FYL2XP1 FSQRT FSINCOS FRNDINT FSCALE FSIN FCOS))

def escapeDA : DecodeTree :=
  .byForm (integerArithmetic .dword)
    (group (toTop FCMOVB) (toTop FCMOVE) (toTop FCMOVBE) (toTop FCMOVU) ud
      (rmGroup ud (op FUCOMPP []) ud ud ud ud ud ud) ud ud)

def escapeDB : DecodeTree :=
  .byForm
    (group (op FILD [Md]) (op FISTTP [Md]) (op FIST [Md]) (op FISTP [Md]) ud (op FLD [Mt]) ud
      (op FSTP [Mt]))
    (group (toTop FCMOVNB) (toTop FCMOVNE) (toTop FCMOVNBE) (toTop FCMOVNU)
      (rmGroup (op FNENI []) (op FNDISI []) (op FNCLEX []) (op FNINIT []) (op FNSETPM []) ud ud ud)
      (toTop FUCOMI) (toTop FCOMI) ud)

/-- Here and under DE the subtractions and divisions change places with their reverses. -/
def escapeDC : DecodeTree :=
  .byForm (memoryArithmetic .qword)
    (group (fromTop FADD) (fromTop FMUL) (stackOp FCOM) (stackOp FCOMP) (fromTop FSUBR)
      (fromTop FSUB) (fromTop FDIVR) (fromTop FDIV))

def escapeDD : DecodeTree :=
  .byForm
    (group (op FLD [Mq]) (op FISTTP [Mq]) (op FST [Mq]) (op FSTP [Mq]) (op FRSTOR [M]) ud
      (op FNSAVE [M]) (op FNSTSW [Mw]))
    (group (stackOp FFREE) (stackOp FXCH) (stackOp FST) (stackOp FSTP) (stackOp FUCOM)
      (stackOp FUCOMP) ud ud)

def escapeDE : DecodeTree :=
  .byForm (integerArithmetic .word)
    (group (fromTop FADDP) (fromTop FMULP) (stackOp FCOMP)
      (rmGroup ud (op FCOMPP []) ud ud ud ud ud ud)
      (fromTop FSUBRP) (fromTop FSUBP) (fromTop FDIVRP) (fromTop FDIVP))

def escapeDF : DecodeTree :=
  .byForm
    (group (op FILD [Mw]) (op FISTTP [Mw]) (op FIST [Mw]) (op FISTP [Mw]) (op FBLD [Mt])
      (op FILD [Mq]) (op FBSTP [Mt]) (op FISTP [Mq]))
    (group (stackOp FFREEP) (stackOp FXCH) (stackOp FSTP) (stackOp FSTP)
      (rmGroup (op FNSTSW [AX]) ud ud ud ud ud ud ud)
      (toTop FUCOMIP) (toTop FCOMIP) ud)

end X86.OpcodeTable
