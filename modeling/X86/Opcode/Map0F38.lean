import X86.Opcode.Vector

namespace X86.OpcodeTable

open Mnemonic Mnemonic.General Mnemonic.Bmi Mnemonic.Sse Mnemonic.Avx

def map0F38Row0 : List DecodeTree := [
  packed PSHUFB, packed PHADDW, packed PHADDD, packed PHADDSW, packed PMADDUBSW, packed PHSUBW,
  packed PHSUBD, packed PHSUBSW, packed PSIGNB, packed PSIGNW, packed PSIGND, packed PMULHRSW,
  with66 (avx VPERMILPS [Vx, Hx, Wx]), with66 (avx VPERMILPD [Vx, Hx, Wx]),
  with66 (avx VTESTPS [Vx, Wx]), with66 (avx VTESTPD [Vx, Wx])]

def map0F38Row1 : List DecodeTree := [
  with66 (op PBLENDVB [Vo, Wo, XMM0]), ud, ud, ud, with66 (op BLENDVPS [Vo, Wo, XMM0]),
  with66 (op BLENDVPD [Vo, Wo, XMM0]), with66 (avx VPERMPS [Vx, Hx, Wx]),
  with66 (vex PTEST [Vx, Wx]), with66 (avx VBROADCASTSS [Vx, Wd]),
  with66 (avx VBROADCASTSD [Vx, Wq]), with66 (avx VBROADCASTF128 [Vx, Mo]), ud, packedUnary PABSB,
  packedUnary PABSW, packedUnary PABSD, ud]

def map0F38Row2 : List DecodeTree := [
  with66 (vex PMOVSXBW [Vx, Whalf]), with66 (vex PMOVSXBD [Vx, Wquarter]),
  with66 (vex PMOVSXBQ [Vx, Weighth]), with66 (vex PMOVSXWD [Vx, Whalf]),
  with66 (vex PMOVSXWQ [Vx, Wquarter]), with66 (vex PMOVSXDQ [Vx, Whalf]), ud, ud,
  with66 (vex PMULDQ [Vx, Hx, Wx]), with66 (vex PCMPEQQ [Vx, Hx, Wx]),
  with66 (vex MOVNTDQA [Vx, Mx]), with66 (vex PACKUSDW [Vx, Hx, Wx]),
  with66 (avx VMASKMOVPS [Vx, Hx, Mx]), with66 (avx VMASKMOVPD [Vx, Hx, Mx]),
  with66 (avx VMASKMOVPS [Mx, Hx, Vx]), with66 (avx VMASKMOVPD [Mx, Hx, Vx])]

def map0F38Row3 : List DecodeTree := [
  with66 (vex PMOVZXBW [Vx, Whalf]), with66 (vex PMOVZXBD [Vx, Wquarter]),
  with66 (vex PMOVZXBQ [Vx, Weighth]), with66 (vex PMOVZXWD [Vx, Whalf]),
  with66 (vex PMOVZXWQ [Vx, Wquarter]), with66 (vex PMOVZXDQ [Vx, Whalf]),
  with66 (avx VPERMD [Vx, Hx, Wx]), with66 (vex PCMPGTQ [Vx, Hx, Wx]),
  with66 (vex PMINSB [Vx, Hx, Wx]), with66 (vex PMINSD [Vx, Hx, Wx]),
  with66 (vex PMINUW [Vx, Hx, Wx]), with66 (vex PMINUD [Vx, Hx, Wx]),
  with66 (vex PMAXSB [Vx, Hx, Wx]), with66 (vex PMAXSD [Vx, Hx, Wx]),
  with66 (vex PMAXUW [Vx, Hx, Wx]), with66 (vex PMAXUD [Vx, Hx, Wx])]

def map0F38Row4 : List DecodeTree := [
  with66 (vex PMULLD [Vx, Hx, Wx]), with66 (vex128 PHMINPOSUW [Vo, Wo]), ud, ud, ud, ud, ud, ud,
  ud, ud, ud, ud, ud, ud, ud, ud]

def map0F38Row5 : List DecodeTree := [
  ud, ud, ud, ud, ud, ud, ud, ud, with66 (avx VPBROADCASTD [Vx, Wd]),
  with66 (avx VPBROADCASTQ [Vx, Wq]), with66 (avx VBROADCASTI128 [Vx, Mo]), ud, ud, ud, ud, ud]

def map0F38Row7 : List DecodeTree := [
  ud, ud, ud, ud, ud, ud, ud, ud, with66 (avx VPBROADCASTB [Vx, Wb]),
  with66 (avx VPBROADCASTW [Vx, Ww]), ud, ud, ud, ud, ud, ud]

def map0F38RowD : List DecodeTree := [
  ud, ud, ud, ud, ud, ud, ud, ud, ud, ud, ud, with66 (vex128 AESIMC [Vo, Wo]),
  with66 (vex128 AESENC [Vo, Ho, Wo]), with66 (vex128 AESENCLAST [Vo, Ho, Wo]),
  with66 (vex128 AESDEC [Vo, Ho, Wo]), with66 (vex128 AESDECLAST [Vo, Ho, Wo])]

def map0F38RowF : List DecodeTree := [
  slots (op MOVBE [Gv, Mv]) ud ud (op CRC32 [Gy, Eb]),
  slots (op MOVBE [Mv, Gv]) ud ud (op CRC32 [Gy, Ev]), slots (avx128 ANDN [Gy, By, Ey]) ud ud ud,
  slots
    (group ud (avx128 BLSR [By, Ey]) (avx128 BLSMSK [By, Ey]) (avx128 BLSI [By, Ey]) ud ud ud ud)
    ud ud ud,
  ud, slots (avx128 BZHI [Gy, Ey, By]) ud (avx128 PEXT [Gy, By, Ey]) (avx128 PDEP [Gy, By, Ey]),
  slots ud ud ud (avx128 MULX [Gy, By, Ey]),
  slots (avx128 BEXTR [Gy, Ey, By]) (avx128 SHLX [Gy, Ey, By]) (avx128 SARX [Gy, Ey, By])
    (avx128 SHRX [Gy, Ey, By]),
  ud, ud, ud, ud, ud, ud, ud, ud]

def map0F38 : List DecodeTree :=
  map0F38Row0 ++ map0F38Row1 ++ map0F38Row2 ++ map0F38Row3 ++ map0F38Row4 ++ map0F38Row5 ++
    List.replicate 16 ud ++ map0F38Row7 ++ List.replicate 80 ud ++ map0F38RowD ++
    List.replicate 16 ud ++ map0F38RowF

end X86.OpcodeTable
