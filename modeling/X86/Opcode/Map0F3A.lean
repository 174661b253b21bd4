import X86.Opcode.Vector

namespace X86.OpcodeTable

open Mnemonic Mnemonic.General Mnemonic.Bmi Mnemonic.Sse Mnemonic.Avx

def map0F3ARow0 : List DecodeTree := [
  with66 (avx VPERMQ [Vx, Wx, Ib]), with66 (avx VPERMPD [Vx, Wx, Ib]), ud, ud,
  with66 (avx VPERMILPS [Vx, Wx, Ib]), with66 (avx VPERMILPD [Vx, Wx, Ib]),
  with66 (avx VPERM2F128 [Vx, Hx, Wx, Ib]), ud, with66 (vex ROUNDPS [Vx, Wx, Ib]),
  with66 (vex ROUNDPD [Vx, Wx, Ib]), with66 (vex ROUNDSS [Vo, Ho, Wd, Ib]),
  with66 (vex ROUNDSD [Vo, Ho, Wq, Ib]), with66 (vex BLENDPS [Vx, Hx, Wx, Ib]),
  with66 (vex BLENDPD [Vx, Hx, Wx, Ib]), with66 (vex PBLENDW [Vx, Hx, Wx, Ib]),
  slots (op PALIGNR [Pq, Qq, Ib]) (vex PALIGNR [Vx, Hx, Wx, Ib]) ud ud]

def map0F3ARow1 : List DecodeTree := [
  ud, ud, ud, ud, with66 (vex128 PEXTRB [EbRd, Vo, Ib]), with66 (vex128 PEXTRW [EwRd, Vo, Ib]),
  with66 (vex128 PEXTRD [Ey, Vo, Ib]), with66 (vex128 EXTRACTPS [Ed, Vo, Ib]),
  with66 (avx VINSERTF128 [Vx, Hx, Wo, Ib]), with66 (avx VEXTRACTF128 [Wo, Vx, Ib]), ud, ud, ud,
  ud, ud, ud]

def map0F3ARow2 : List DecodeTree := [
  with66 (vex128 PINSRB [Vo, Ho, EbRd, Ib]), with66 (vex128 INSERTPS [Vo, Ho, Wd, Ib]),
  with66 (vex128 PINSRD [Vo, Ho, Ey, Ib]), ud, ud, ud, ud, ud, ud, ud, ud, ud, ud, ud, ud, ud]

def map0F3ARow3 : List DecodeTree := [
  ud, ud, ud, ud, ud, ud, ud, ud, with66 (avx VINSERTI128 [Vx, Hx, Wo, Ib]),
  with66 (avx VEXTRACTI128 [Wo, Vx, Ib]), ud, ud, ud, ud, ud, ud]

def map0F3ARow4 : List DecodeTree := [
  with66 (vex DPPS [Vx, Hx, Wx, Ib]), with66 (vex128 DPPD [Vo, Ho, Wo, Ib]),
  with66 (vex MPSADBW [Vx, Hx, Wx, Ib]), ud, with66 (vex128 PCLMULQDQ [Vo, Ho, Wo, Ib]), ud,
  with66 (avx VPERM2I128 [Vx, Hx, Wx, Ib]), ud, ud, ud, with66 (avx BLENDVPS [Vx, Hx, Wx, Lx]),
  with66 (avx BLENDVPD [Vx, Hx, Wx, Lx]), with66 (avx PBLENDVB [Vx, Hx, Wx, Lx]), ud, ud, ud]

def map0F3ARow6 : List DecodeTree := [
  with66 (vex128 PCMPESTRM [Vo, Wo, Ib]), with66 (vex128 PCMPESTRI [Vo, Wo, Ib]),
  with66 (vex128 PCMPISTRM [Vo, Wo, Ib]), with66 (vex128 PCMPISTRI [Vo, Wo, Ib]), ud, ud, ud, ud,
  ud, ud, ud, ud, ud, ud, ud, ud]

def map0F3ARowD : List DecodeTree := [
  ud, ud, ud, ud, ud, ud, ud, ud, ud, ud, ud, ud, ud, ud, ud,
  with66 (vex128 AESKEYGENASSIST [Vo, Wo, Ib])]

def map0F3ARowF : List DecodeTree := [
  slots ud ud ud (avx128 RORX [Gy, Ey, Ib]), ud, ud, ud, ud, ud, ud, ud, ud, ud, ud, ud, ud, ud,
  ud, ud]

def map0F3A : List DecodeTree :=
  map0F3ARow0 ++ map0F3ARow1 ++ map0F3ARow2 ++ map0F3ARow3 ++ map0F3ARow4 ++
    List.replicate 16 ud ++ map0F3ARow6 ++ List.replicate 96 ud ++ map0F3ARowD ++
    List.replicate 16 ud ++ map0F3ARowF

end X86.OpcodeTable
