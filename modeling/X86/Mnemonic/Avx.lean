/-! Mnemonics: the vector instructions that have only a VEX encoding. -/

namespace X86.Mnemonic

inductive Avx where
  | VBROADCASTSS | VBROADCASTSD | VBROADCASTF128 | VBROADCASTI128 | VINSERTF128 | VEXTRACTF128
  | VINSERTI128 | VEXTRACTI128 | VPERM2F128 | VPERM2I128 | VPERMILPS | VPERMILPD | VPERMD
  | VPERMQ | VPERMPS | VPERMPD | VPBROADCASTB | VPBROADCASTW | VPBROADCASTD | VPBROADCASTQ
  | VTESTPS | VTESTPD | VMASKMOVPS | VMASKMOVPD | VZEROUPPER | VZEROALL
  deriving DecidableEq, Inhabited

namespace Avx

def all : List Avx :=
  [VBROADCASTSS, VBROADCASTSD, VBROADCASTF128, VBROADCASTI128, VINSERTF128, VEXTRACTF128,
   VINSERTI128, VEXTRACTI128, VPERM2F128, VPERM2I128, VPERMILPS, VPERMILPD, VPERMD, VPERMQ,
   VPERMPS, VPERMPD, VPBROADCASTB, VPBROADCASTW, VPBROADCASTD, VPBROADCASTQ, VTESTPS, VTESTPD,
   VMASKMOVPS, VMASKMOVPD, VZEROUPPER, VZEROALL]

def name : Avx → String
  | VBROADCASTSS => "vbroadcastss" | VBROADCASTSD => "vbroadcastsd"
  | VBROADCASTF128 => "vbroadcastf128" | VBROADCASTI128 => "vbroadcasti128"
  | VINSERTF128 => "vinsertf128" | VEXTRACTF128 => "vextractf128" | VINSERTI128 => "vinserti128"
  | VEXTRACTI128 => "vextracti128" | VPERM2F128 => "vperm2f128" | VPERM2I128 => "vperm2i128"
  | VPERMILPS => "vpermilps" | VPERMILPD => "vpermilpd" | VPERMD => "vpermd" | VPERMQ => "vpermq"
  | VPERMPS => "vpermps" | VPERMPD => "vpermpd" | VPBROADCASTB => "vpbroadcastb"
  | VPBROADCASTW => "vpbroadcastw" | VPBROADCASTD => "vpbroadcastd"
  | VPBROADCASTQ => "vpbroadcastq" | VTESTPS => "vtestps" | VTESTPD => "vtestpd"
  | VMASKMOVPS => "vmaskmovps" | VMASKMOVPD => "vmaskmovpd" | VZEROUPPER => "vzeroupper"
  | VZEROALL => "vzeroall"

end Avx

end X86.Mnemonic
