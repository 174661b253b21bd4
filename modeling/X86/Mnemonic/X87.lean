/-! Mnemonics: the floating-point instructions that work on the register stack. -/

namespace X86.Mnemonic

inductive X87 where
  | F2XM1 | FABS | FADD | FADDP | FBLD | FBSTP | FCHS | FCMOVB | FCMOVE | FCMOVBE | FCMOVU
  | FCMOVNB | FCMOVNE | FCMOVNBE | FCMOVNU | FCOM | FCOMP | FCOMPP | FCOMI | FCOMIP | FCOS
  | FDECSTP | FDIV | FDIVP | FDIVR | FDIVRP | FFREE | FFREEP | FIADD | FICOM | FICOMP | FIDIV
  | FIDIVR | FILD | FIMUL | FINCSTP | FIST | FISTP | FISTTP | FISUB | FISUBR | FLD | FLD1 | FLDCW
  | FLDENV | FLDL2E | FLDL2T | FLDLG2 | FLDLN2 | FLDPI | FLDZ | FMUL | FMULP | FNCLEX | FNDISI
  | FNENI | FNINIT | FNOP | FNSAVE | FNSETPM | FNSTCW | FNSTENV | FNSTSW | FPATAN | FPREM
  | FPREM1 | FPTAN | FRNDINT | FRSTOR | FSCALE | FSIN | FSINCOS | FSQRT | FST | FSTP | FSUB
  | FSUBP | FSUBR | FSUBRP | FTST | FUCOM | FUCOMP | FUCOMPP | FUCOMI | FUCOMIP | FXAM | FXCH
  | FXTRACT | FYL2X | FYL2XP1
  deriving DecidableEq, Inhabited

namespace X87

def all : List X87 :=
  [F2XM1, FABS, FADD, FADDP, FBLD, FBSTP, FCHS, FCMOVB, FCMOVE, FCMOVBE, FCMOVU, FCMOVNB,
   FCMOVNE, FCMOVNBE, FCMOVNU, FCOM, FCOMP, FCOMPP, FCOMI, FCOMIP, FCOS, FDECSTP, FDIV, FDIVP,
   FDIVR, FDIVRP, FFREE, FFREEP, FIADD, FICOM, FICOMP, FIDIV, FIDIVR, FILD, FIMUL, FINCSTP, FIST,
   FISTP, FISTTP, FISUB, FISUBR, FLD, FLD1, FLDCW, FLDENV, FLDL2E, FLDL2T, FLDLG2, FLDLN2, FLDPI,
   FLDZ, FMUL, FMULP, FNCLEX, FNDISI, FNENI, FNINIT, FNOP, FNSAVE, FNSETPM, FNSTCW, FNSTENV,
   FNSTSW, FPATAN, FPREM, FPREM1, FPTAN, FRNDINT, FRSTOR, FSCALE, FSIN, FSINCOS, FSQRT, FST,
   FSTP, FSUB, FSUBP, FSUBR, FSUBRP, FTST, FUCOM, FUCOMP, FUCOMPP, FUCOMI, FUCOMIP, FXAM, FXCH,
   FXTRACT, FYL2X, FYL2XP1]

def name : X87 → String
  | F2XM1 => "f2xm1" | FABS => "fabs" | FADD => "fadd" | FADDP => "faddp" | FBLD => "fbld"
  | FBSTP => "fbstp" | FCHS => "fchs" | FCMOVB => "fcmovb" | FCMOVE => "fcmove"
  | FCMOVBE => "fcmovbe" | FCMOVU => "fcmovu" | FCMOVNB => "fcmovnb" | FCMOVNE => "fcmovne"
  | FCMOVNBE => "fcmovnbe" | FCMOVNU => "fcmovnu" | FCOM => "fcom" | FCOMP => "fcomp"
  | FCOMPP => "fcompp" | FCOMI => "fcomi" | FCOMIP => "fcomip" | FCOS => "fcos"
  | FDECSTP => "fdecstp" | FDIV => "fdiv" | FDIVP => "fdivp" | FDIVR => "fdivr"
  | FDIVRP => "fdivrp" | FFREE => "ffree" | FFREEP => "ffreep" | FIADD => "fiadd"
  | FICOM => "ficom" | FICOMP => "ficomp" | FIDIV => "fidiv" | FIDIVR => "fidivr"
  | FILD => "fild" | FIMUL => "fimul" | FINCSTP => "fincstp" | FIST => "fist" | FISTP => "fistp"
  | FISTTP => "fisttp" | FISUB => "fisub" | FISUBR => "fisubr" | FLD => "fld" | FLD1 => "fld1"
  | FLDCW => "fldcw" | FLDENV => "fldenv" | FLDL2E => "fldl2e" | FLDL2T => "fldl2t"
  | FLDLG2 => "fldlg2" | FLDLN2 => "fldln2" | FLDPI => "fldpi" | FLDZ => "fldz" | FMUL => "fmul"
  | FMULP => "fmulp" | FNCLEX => "fnclex" | FNDISI => "fndisi" | FNENI => "fneni"
  | FNINIT => "fninit" | FNOP => "fnop" | FNSAVE => "fnsave" | FNSETPM => "fnsetpm"
  | FNSTCW => "fnstcw" | FNSTENV => "fnstenv" | FNSTSW => "fnstsw" | FPATAN => "fpatan"
  | FPREM => "fprem" | FPREM1 => "fprem1" | FPTAN => "fptan" | FRNDINT => "frndint"
  | FRSTOR => "frstor" | FSCALE => "fscale" | FSIN => "fsin" | FSINCOS => "fsincos"
  | FSQRT => "fsqrt" | FST => "fst" | FSTP => "fstp" | FSUB => "fsub" | FSUBP => "fsubp"
  | FSUBR => "fsubr" | FSUBRP => "fsubrp" | FTST => "ftst" | FUCOM => "fucom"
  | FUCOMP => "fucomp" | FUCOMPP => "fucompp" | FUCOMI => "fucomi" | FUCOMIP => "fucomip"
  | FXAM => "fxam" | FXCH => "fxch" | FXTRACT => "fxtract" | FYL2X => "fyl2x"
  | FYL2XP1 => "fyl2xp1"

end X87

end X86.Mnemonic
