/-! Mnemonics: the general-purpose instructions that have only a VEX encoding. -/

namespace X86.Mnemonic

inductive Bmi where
  | ANDN | BEXTR | BZHI | PDEP | PEXT | MULX | RORX | SARX | SHLX | SHRX | BLSR | BLSMSK | BLSI
  deriving DecidableEq, Inhabited

namespace Bmi

def all : List Bmi :=
  [ANDN, BEXTR, BZHI, PDEP, PEXT, MULX, RORX, SARX, SHLX, SHRX, BLSR, BLSMSK, BLSI]

def name : Bmi → String
  | ANDN => "andn" | BEXTR => "bextr" | BZHI => "bzhi" | PDEP => "pdep" | PEXT => "pext"
  | MULX => "mulx" | RORX => "rorx" | SARX => "sarx" | SHLX => "shlx" | SHRX => "shrx"
  | BLSR => "blsr" | BLSMSK => "blsmsk" | BLSI => "blsi"

end Bmi

end X86.Mnemonic
