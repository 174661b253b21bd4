import X86.Opcode.Filling

/-! Vector instructions in the table. Almost all of them are in rows of slots: the MMX instruction
or the packed single without a prefix, the packed double or the SSE integers with 66, the scalars
with F3 and F2. -/

namespace X86.OpcodeTable

open Mnemonic Mnemonic.General Mnemonic.System Mnemonic.Bmi Mnemonic.Sse Mnemonic.Avx

def only66 (t : DecodeTree) : List (PrefixSlot × Cell) := [(.p66, t)]

def packedCells (m : Mnemonic) : List (PrefixSlot × Cell) :=
  [(.plain, op m [Pq, Qq]), (.p66, vex m [Vx, Hx, Wx])]

def packedUnaryCells (m : Mnemonic) : List (PrefixSlot × Cell) :=
  [(.plain, op m [Pq, Qq]), (.p66, vex m [Vx, Wx])]

def packedShiftCells (m : Mnemonic) : List (PrefixSlot × Cell) :=
  [(.plain, op m [Pq, Qq]), (.p66, vex m [Vx, Hx, Wo])]

def packedFloatsCells (single double : Mnemonic) : List (PrefixSlot × Cell) :=
  [(.plain, vex single [Vx, Hx, Wx]), (.p66, vex double [Vx, Hx, Wx])]

def floatsCells (packedSingle packedDouble single double : Mnemonic) : List (PrefixSlot × Cell) :=
  [(.plain, vex packedSingle [Vx, Hx, Wx]), (.p66, vex packedDouble [Vx, Hx, Wx]),
    (.pF3, vex single [Vo, Ho, Wd]), (.pF2, vex double [Vo, Ho, Wq])]

def vectorMoves : List FillStep := List.flatten [
  row0F 0x10 [(.plain, vex MOVUPS [Vx, Wx]), (.p66, vex MOVUPD [Vx, Wx]),
    (.pF3, .via .form .moveSingle10), (.pF2, .via .form .moveDouble10)],
  row0F 0x11 [(.plain, vex MOVUPS [Wx, Vx]), (.p66, vex MOVUPD [Wx, Vx]),
    (.pF3, .via .form .moveSingle11), (.pF2, .via .form .moveDouble11)],
  block .moveSingle10 [(0, vex MOVSS [Vo, Wd]), (1, vex MOVSS [Vo, Ho, Wo])],
  block .moveDouble10 [(0, vex Sse.MOVSD [Vo, Wq]), (1, vex Sse.MOVSD [Vo, Ho, Wo])],
  block .moveSingle11 [(0, vex MOVSS [Wd, Vo]), (1, vex MOVSS [Wo, Ho, Vo])],
  block .moveDouble11 [(0, vex Sse.MOVSD [Wq, Vo]), (1, vex Sse.MOVSD [Wo, Ho, Vo])],
  row0F 0x12 [(.plain, .via .form .moveLow12), (.p66, vex128 MOVLPD [Vo, Ho, Mq]),
    (.pF3, vex MOVSLDUP [Vx, Wx]), (.pF2, vex MOVDDUP [Vx, Wx])],
  block .moveLow12 [(0, vex128 MOVLPS [Vo, Ho, Mq]), (1, vex128 MOVHLPS [Vo, Ho, Uo])],
  row0F 0x13 [(.plain, vex128 MOVLPS [Mq, Vo]), (.p66, vex128 MOVLPD [Mq, Vo])],
  row0F 0x14 (packedFloatsCells UNPCKLPS UNPCKLPD),
  row0F 0x15 (packedFloatsCells UNPCKHPS UNPCKHPD),
  row0F 0x16 [(.plain, .via .form .moveHigh16), (.p66, vex128 MOVHPD [Vo, Ho, Mq]),
    (.pF3, vex MOVSHDUP [Vx, Wx])],
  block .moveHigh16 [(0, vex128 MOVHPS [Vo, Ho, Mq]), (1, vex128 MOVLHPS [Vo, Ho, Uo])],
  row0F 0x17 [(.plain, vex128 MOVHPS [Mq, Vo]), (.p66, vex128 MOVHPD [Mq, Vo])],
  row0F 0x28 [(.plain, vex MOVAPS [Vx, Wx]), (.p66, vex MOVAPD [Vx, Wx])],
  row0F 0x29 [(.plain, vex MOVAPS [Wx, Vx]), (.p66, vex MOVAPD [Wx, Vx])],
  row0F 0x2A [(.plain, op CVTPI2PS [Vo, Qq]), (.p66, op CVTPI2PD [Vo, Qq]),
    (.pF3, vex CVTSI2SS [Vo, Ho, Ey]), (.pF2, vex CVTSI2SD [Vo, Ho, Ey])],
  row0F 0x2B [(.plain, vex MOVNTPS [Mx, Vx]), (.p66, vex MOVNTPD [Mx, Vx])],
  row0F 0x2C [(.plain, op CVTTPS2PI [Pq, Wq]), (.p66, op CVTTPD2PI [Pq, Wo]),
    (.pF3, vex CVTTSS2SI [Gy, Wd]), (.pF2, vex CVTTSD2SI [Gy, Wq])],
  row0F 0x2D [(.plain, op CVTPS2PI [Pq, Wq]), (.p66, op CVTPD2PI [Pq, Wo]),
    (.pF3, vex CVTSS2SI [Gy, Wd]), (.pF2, vex CVTSD2SI [Gy, Wq])],
  row0F 0x2E [(.plain, vex UCOMISS [Vo, Wd]), (.p66, vex UCOMISD [Vo, Wq])],
  row0F 0x2F [(.plain, vex COMISS [Vo, Wd]), (.p66, vex COMISD [Vo, Wq])]]

def vectorArithmetic : List FillStep := List.flatten [
  row0F 0x50 [(.plain, vex MOVMSKPS [Gy, Ux]), (.p66, vex MOVMSKPD [Gy, Ux])],
  row0F 0x51 [(.plain, vex SQRTPS [Vx, Wx]), (.p66, vex SQRTPD [Vx, Wx]),
    (.pF3, vex SQRTSS [Vo, Ho, Wd]), (.pF2, vex SQRTSD [Vo, Ho, Wq])],
  row0F 0x52 [(.plain, vex RSQRTPS [Vx, Wx]), (.pF3, vex RSQRTSS [Vo, Ho, Wd])],
  row0F 0x53 [(.plain, vex RCPPS [Vx, Wx]), (.pF3, vex RCPSS [Vo, Ho, Wd])],
  row0F 0x54 (packedFloatsCells ANDPS ANDPD), row0F 0x55 (packedFloatsCells ANDNPS ANDNPD),
  row0F 0x56 (packedFloatsCells ORPS ORPD), row0F 0x57 (packedFloatsCells XORPS XORPD),
  row0F 0x58 (floatsCells ADDPS ADDPD ADDSS ADDSD),
  row0F 0x59 (floatsCells MULPS MULPD MULSS MULSD),
  row0F 0x5A [(.plain, vex CVTPS2PD [Vx, Whalf]), (.p66, vex CVTPD2PS [Vo, Wx]),
    (.pF3, vex CVTSS2SD [Vo, Ho, Wd]), (.pF2, vex CVTSD2SS [Vo, Ho, Wq])],
  row0F 0x5B [(.plain, vex CVTDQ2PS [Vx, Wx]), (.p66, vex CVTPS2DQ [Vx, Wx]),
    (.pF3, vex CVTTPS2DQ [Vx, Wx])], row0F 0x5C (floatsCells SUBPS SUBPD SUBSS SUBSD),
  row0F 0x5D (floatsCells MINPS MINPD MINSS MINSD),
  row0F 0x5E (floatsCells DIVPS DIVPD DIVSS DIVSD),
  row0F 0x5F (floatsCells MAXPS MAXPD MAXSS MAXSD), row0F 0x60 (packedCells PUNPCKLBW),
  row0F 0x61 (packedCells PUNPCKLWD), row0F 0x62 (packedCells PUNPCKLDQ),
  row0F 0x63 (packedCells PACKSSWB), row0F 0x64 (packedCells PCMPGTB),
  row0F 0x65 (packedCells PCMPGTW), row0F 0x66 (packedCells PCMPGTD),
  row0F 0x67 (packedCells PACKUSWB), row0F 0x68 (packedCells PUNPCKHBW),
  row0F 0x69 (packedCells PUNPCKHWD), row0F 0x6A (packedCells PUNPCKHDQ),
  row0F 0x6B (packedCells PACKSSDW), row0F 0x6C (only66 (vex PUNPCKLQDQ [Vx, Hx, Wx])),
  row0F 0x6D (only66 (vex PUNPCKHQDQ [Vx, Hx, Wx])),
  row0F 0x6E [(.plain, op MOVD [Pq, Ey]), (.p66, vex128 MOVD [Vo, Ey])],
  row0F 0x6F [(.plain, op MOVQ [Pq, Qq]), (.p66, vex MOVDQA [Vx, Wx]), (.pF3, vex MOVDQU [Vx, Wx])]]

def vectorShifts : List FillStep := List.flatten [
  row0F 0x70 [(.plain, op PSHUFW [Pq, Qq, Ib]), (.p66, vex PSHUFD [Vx, Wx, Ib]),
    (.pF3, vex PSHUFHW [Vx, Wx, Ib]), (.pF2, vex PSHUFLW [Vx, Wx, Ib])],
  row0F 0x71 [(.plain, .via .reg .mmxGroup12), (.p66, .via .reg .vectorGroup12)],
  row0F 0x72 [(.plain, .via .reg .mmxGroup13), (.p66, .via .reg .vectorGroup13)],
  row0F 0x73 [(.plain, .via .reg .mmxGroup14), (.p66, .via .reg .vectorGroup14)],
  block .mmxGroup12 [(2, op PSRLW [Nq, Ib]), (4, op PSRAW [Nq, Ib]), (6, op PSLLW [Nq, Ib])],
  block .vectorGroup12 [(2, vex PSRLW [Hx, Ux, Ib]), (4, vex PSRAW [Hx, Ux, Ib]),
    (6, vex PSLLW [Hx, Ux, Ib])],
  block .mmxGroup13 [(2, op PSRLD [Nq, Ib]), (4, op PSRAD [Nq, Ib]), (6, op PSLLD [Nq, Ib])],
  block .vectorGroup13 [(2, vex PSRLD [Hx, Ux, Ib]), (4, vex PSRAD [Hx, Ux, Ib]),
    (6, vex PSLLD [Hx, Ux, Ib])],
  block .mmxGroup14 [(2, op PSRLQ [Nq, Ib]), (6, op PSLLQ [Nq, Ib])],
  block .vectorGroup14 [(2, vex PSRLQ [Hx, Ux, Ib]), (3, vex PSRLDQ [Hx, Ux, Ib]),
    (6, vex PSLLQ [Hx, Ux, Ib]), (7, vex PSLLDQ [Hx, Ux, Ib])], row0F 0x74 (packedCells PCMPEQB),
  row0F 0x75 (packedCells PCMPEQW), row0F 0x76 (packedCells PCMPEQD),
  block .map0F [(0x77, .via .vex .vex77)],
  block .vex77 [(0, op EMMS []), (1, .via .vexLength .length77)],
  block .length77 [(0, avx VZEROUPPER []), (1, avx VZEROALL [])],
  row0F 0x7C [(.p66, vex HADDPD [Vx, Hx, Wx]), (.pF2, vex HADDPS [Vx, Hx, Wx])],
  row0F 0x7D [(.p66, vex HSUBPD [Vx, Hx, Wx]), (.pF2, vex HSUBPS [Vx, Hx, Wx])],
  row0F 0x7E [(.plain, op MOVD [Ey, Pq]), (.p66, vex128 MOVD [Ey, Vo]),
    (.pF3, vex128 MOVQ [Vo, Wq])],
  row0F 0x7F [(.plain, op MOVQ [Qq, Pq]), (.p66, vex MOVDQA [Wx, Vx]), (.pF3, vex MOVDQU [Wx, Vx])]]

def vectorIntegers0 : List FillStep := List.flatten [
  row0F 0xC2 [(.plain, vex CMPPS [Vx, Hx, Wx, Ib]), (.p66, vex CMPPD [Vx, Hx, Wx, Ib]),
    (.pF3, vex CMPSS [Vo, Ho, Wd, Ib]), (.pF2, vex Sse.CMPSD [Vo, Ho, Wq, Ib])],
  row0F 0xC3 [(.plain, op MOVNTI [My, Gy])],
  row0F 0xC4 [(.plain, op PINSRW [Pq, EwRd, Ib]), (.p66, vex128 PINSRW [Vo, Ho, EwRd, Ib])],
  row0F 0xC5 [(.plain, op PEXTRW [Gd, Nq, Ib]), (.p66, vex128 PEXTRW [Gd, Uo, Ib])],
  row0F 0xC6 [(.plain, vex SHUFPS [Vx, Hx, Wx, Ib]), (.p66, vex SHUFPD [Vx, Hx, Wx, Ib])],
  row0F 0xD0 [(.p66, vex ADDSUBPD [Vx, Hx, Wx]), (.pF2, vex ADDSUBPS [Vx, Hx, Wx])],
  row0F 0xD1 (packedShiftCells PSRLW), row0F 0xD2 (packedShiftCells PSRLD),
  row0F 0xD3 (packedShiftCells PSRLQ), row0F 0xD4 (packedCells PADDQ),
  row0F 0xD5 (packedCells PMULLW),
  row0F 0xD6 [(.p66, vex128 MOVQ [Wq, Vo]), (.pF3, op MOVQ2DQ [Vo, Nq]),
    (.pF2, op MOVDQ2Q [Pq, Uo])],
  row0F 0xD7 [(.plain, op PMOVMSKB [Gd, Nq]), (.p66, vex PMOVMSKB [Gd, Ux])],
  row0F 0xD8 (packedCells PSUBUSB), row0F 0xD9 (packedCells PSUBUSW),
  row0F 0xDA (packedCells PMINUB), row0F 0xDB (packedCells PAND), row0F 0xDC (packedCells PADDUSB),
  row0F 0xDD (packedCells PADDUSW), row0F 0xDE (packedCells PMAXUB), row0F 0xDF (packedCells PANDN)]

def vectorIntegers1 : List FillStep := List.flatten [
  row0F 0xE0 (packedCells PAVGB), row0F 0xE1 (packedShiftCells PSRAW),
  row0F 0xE2 (packedShiftCells PSRAD), row0F 0xE3 (packedCells PAVGW),
  row0F 0xE4 (packedCells PMULHUW), row0F 0xE5 (packedCells PMULHW),
  row0F 0xE6 [(.p66, vex CVTTPD2DQ [Vo, Wx]), (.pF3, vex CVTDQ2PD [Vx, Whalf]),
    (.pF2, vex CVTPD2DQ [Vo, Wx])],
  row0F 0xE7 [(.plain, op MOVNTQ [Mq, Pq]), (.p66, vex MOVNTDQ [Mx, Vx])],
  row0F 0xE8 (packedCells PSUBSB), row0F 0xE9 (packedCells PSUBSW), row0F 0xEA (packedCells PMINSW),
  row0F 0xEB (packedCells POR), row0F 0xEC (packedCells PADDSB), row0F 0xED (packedCells PADDSW),
  row0F 0xEE (packedCells PMAXSW), row0F 0xEF (packedCells PXOR),
  row0F 0xF0 [(.pF2, vex LDDQU [Vx, Mx])], row0F 0xF1 (packedShiftCells PSLLW),
  row0F 0xF2 (packedShiftCells PSLLD), row0F 0xF3 (packedShiftCells PSLLQ),
  row0F 0xF4 (packedCells PMULUDQ), row0F 0xF5 (packedCells PMADDWD),
  row0F 0xF6 (packedCells PSADBW),
  row0F 0xF7 [(.plain, op MASKMOVQ [Pq, Nq]), (.p66, vex128 MASKMOVDQU [Vo, Uo])],
  row0F 0xF8 (packedCells PSUBB), row0F 0xF9 (packedCells PSUBW), row0F 0xFA (packedCells PSUBD),
  row0F 0xFB (packedCells PSUBQ), row0F 0xFC (packedCells PADDB), row0F 0xFD (packedCells PADDW),
  row0F 0xFE (packedCells PADDD)]

def vectors38 : List FillStep := List.flatten [
  row0F38 0x00 (packedCells PSHUFB), row0F38 0x01 (packedCells PHADDW),
  row0F38 0x02 (packedCells PHADDD), row0F38 0x03 (packedCells PHADDSW),
  row0F38 0x04 (packedCells PMADDUBSW), row0F38 0x05 (packedCells PHSUBW),
  row0F38 0x06 (packedCells PHSUBD), row0F38 0x07 (packedCells PHSUBSW),
  row0F38 0x08 (packedCells PSIGNB), row0F38 0x09 (packedCells PSIGNW),
  row0F38 0x0A (packedCells PSIGND), row0F38 0x0B (packedCells PMULHRSW),
  row0F38 0x0C (only66 (avx VPERMILPS [Vx, Hx, Wx])),
  row0F38 0x0D (only66 (avx VPERMILPD [Vx, Hx, Wx])), row0F38 0x0E (only66 (avx VTESTPS [Vx, Wx])),
  row0F38 0x0F (only66 (avx VTESTPD [Vx, Wx])), row0F38 0x10 (only66 (op PBLENDVB [Vo, Wo, XMM0])),
  row0F38 0x14 (only66 (op BLENDVPS [Vo, Wo, XMM0])),
  row0F38 0x15 (only66 (op BLENDVPD [Vo, Wo, XMM0])),
  row0F38 0x16 (only66 (avx VPERMPS [Vx, Hx, Wx])), row0F38 0x17 (only66 (vex PTEST [Vx, Wx])),
  row0F38 0x18 (only66 (avx VBROADCASTSS [Vx, Wd])),
  row0F38 0x19 (only66 (avx VBROADCASTSD [Vx, Wq])),
  row0F38 0x1A (only66 (avx VBROADCASTF128 [Vx, Mo])), row0F38 0x1C (packedUnaryCells PABSB),
  row0F38 0x1D (packedUnaryCells PABSW), row0F38 0x1E (packedUnaryCells PABSD),
  row0F38 0x20 (only66 (vex PMOVSXBW [Vx, Whalf])),
  row0F38 0x21 (only66 (vex PMOVSXBD [Vx, Wquarter])),
  row0F38 0x22 (only66 (vex PMOVSXBQ [Vx, Weighth])),
  row0F38 0x23 (only66 (vex PMOVSXWD [Vx, Whalf])),
  row0F38 0x24 (only66 (vex PMOVSXWQ [Vx, Wquarter])),
  row0F38 0x25 (only66 (vex PMOVSXDQ [Vx, Whalf])), row0F38 0x28 (only66 (vex PMULDQ [Vx, Hx, Wx])),
  row0F38 0x29 (only66 (vex PCMPEQQ [Vx, Hx, Wx])), row0F38 0x2A (only66 (vex MOVNTDQA [Vx, Mx])),
  row0F38 0x2B (only66 (vex PACKUSDW [Vx, Hx, Wx])),
  row0F38 0x2C (only66 (avx VMASKMOVPS [Vx, Hx, Mx])),
  row0F38 0x2D (only66 (avx VMASKMOVPD [Vx, Hx, Mx])),
  row0F38 0x2E (only66 (avx VMASKMOVPS [Mx, Hx, Vx])),
  row0F38 0x2F (only66 (avx VMASKMOVPD [Mx, Hx, Vx])),
  row0F38 0x30 (only66 (vex PMOVZXBW [Vx, Whalf])),
  row0F38 0x31 (only66 (vex PMOVZXBD [Vx, Wquarter])),
  row0F38 0x32 (only66 (vex PMOVZXBQ [Vx, Weighth])),
  row0F38 0x33 (only66 (vex PMOVZXWD [Vx, Whalf])),
  row0F38 0x34 (only66 (vex PMOVZXWQ [Vx, Wquarter])),
  row0F38 0x35 (only66 (vex PMOVZXDQ [Vx, Whalf])), row0F38 0x36 (only66 (avx VPERMD [Vx, Hx, Wx])),
  row0F38 0x37 (only66 (vex PCMPGTQ [Vx, Hx, Wx])), row0F38 0x38 (only66 (vex PMINSB [Vx, Hx, Wx])),
  row0F38 0x39 (only66 (vex PMINSD [Vx, Hx, Wx])), row0F38 0x3A (only66 (vex PMINUW [Vx, Hx, Wx])),
  row0F38 0x3B (only66 (vex PMINUD [Vx, Hx, Wx])), row0F38 0x3C (only66 (vex PMAXSB [Vx, Hx, Wx])),
  row0F38 0x3D (only66 (vex PMAXSD [Vx, Hx, Wx])), row0F38 0x3E (only66 (vex PMAXUW [Vx, Hx, Wx])),
  row0F38 0x3F (only66 (vex PMAXUD [Vx, Hx, Wx])), row0F38 0x40 (only66 (vex PMULLD [Vx, Hx, Wx])),
  row0F38 0x41 (only66 (vex128 PHMINPOSUW [Vo, Wo])),
  row0F38 0x58 (only66 (avx VPBROADCASTD [Vx, Wd])),
  row0F38 0x59 (only66 (avx VPBROADCASTQ [Vx, Wq])),
  row0F38 0x5A (only66 (avx VBROADCASTI128 [Vx, Mo])),
  row0F38 0x78 (only66 (avx VPBROADCASTB [Vx, Wb])),
  row0F38 0x79 (only66 (avx VPBROADCASTW [Vx, Ww])), row0F38 0xDB (only66 (vex128 AESIMC [Vo, Wo])),
  row0F38 0xDC (only66 (vex128 AESENC [Vo, Ho, Wo])),
  row0F38 0xDD (only66 (vex128 AESENCLAST [Vo, Ho, Wo])),
  row0F38 0xDE (only66 (vex128 AESDEC [Vo, Ho, Wo])),
  row0F38 0xDF (only66 (vex128 AESDECLAST [Vo, Ho, Wo]))]

def vectors3A : List FillStep := List.flatten [
  row0F3A 0x00 (only66 (avx VPERMQ [Vx, Wx, Ib])), row0F3A 0x01 (only66 (avx VPERMPD [Vx, Wx, Ib])),
  row0F3A 0x04 (only66 (avx VPERMILPS [Vx, Wx, Ib])),
  row0F3A 0x05 (only66 (avx VPERMILPD [Vx, Wx, Ib])),
  row0F3A 0x06 (only66 (avx VPERM2F128 [Vx, Hx, Wx, Ib])),
  row0F3A 0x08 (only66 (vex ROUNDPS [Vx, Wx, Ib])),
  row0F3A 0x09 (only66 (vex ROUNDPD [Vx, Wx, Ib])),
  row0F3A 0x0A (only66 (vex ROUNDSS [Vo, Ho, Wd, Ib])),
  row0F3A 0x0B (only66 (vex ROUNDSD [Vo, Ho, Wq, Ib])),
  row0F3A 0x0C (only66 (vex BLENDPS [Vx, Hx, Wx, Ib])),
  row0F3A 0x0D (only66 (vex BLENDPD [Vx, Hx, Wx, Ib])),
  row0F3A 0x0E (only66 (vex PBLENDW [Vx, Hx, Wx, Ib])),
  row0F3A 0x0F [(.plain, op PALIGNR [Pq, Qq, Ib]), (.p66, vex PALIGNR [Vx, Hx, Wx, Ib])],
  row0F3A 0x14 (only66 (vex128 PEXTRB [EbRd, Vo, Ib])),
  row0F3A 0x15 (only66 (vex128 PEXTRW [EwRd, Vo, Ib])),
  row0F3A 0x16 (only66 (vex128 PEXTRD [Ey, Vo, Ib])),
  row0F3A 0x17 (only66 (vex128 EXTRACTPS [Ed, Vo, Ib])),
  row0F3A 0x18 (only66 (avx VINSERTF128 [Vx, Hx, Wo, Ib])),
  row0F3A 0x19 (only66 (avx VEXTRACTF128 [Wo, Vx, Ib])),
  row0F3A 0x20 (only66 (vex128 PINSRB [Vo, Ho, EbRd, Ib])),
  row0F3A 0x21 (only66 (vex128 INSERTPS [Vo, Ho, Wd, Ib])),
  row0F3A 0x22 (only66 (vex128 PINSRD [Vo, Ho, Ey, Ib])),
  row0F3A 0x38 (only66 (avx VINSERTI128 [Vx, Hx, Wo, Ib])),
  row0F3A 0x39 (only66 (avx VEXTRACTI128 [Wo, Vx, Ib])),
  row0F3A 0x40 (only66 (vex DPPS [Vx, Hx, Wx, Ib])),
  row0F3A 0x41 (only66 (vex128 DPPD [Vo, Ho, Wo, Ib])),
  row0F3A 0x42 (only66 (vex MPSADBW [Vx, Hx, Wx, Ib])),
  row0F3A 0x44 (only66 (vex128 PCLMULQDQ [Vo, Ho, Wo, Ib])),
  row0F3A 0x46 (only66 (avx VPERM2I128 [Vx, Hx, Wx, Ib])),
  row0F3A 0x4A (only66 (avx BLENDVPS [Vx, Hx, Wx, Lx])),
  row0F3A 0x4B (only66 (avx BLENDVPD [Vx, Hx, Wx, Lx])),
  row0F3A 0x4C (only66 (avx PBLENDVB [Vx, Hx, Wx, Lx])),
  row0F3A 0x60 (only66 (vex128 PCMPESTRM [Vo, Wo, Ib])),
  row0F3A 0x61 (only66 (vex128 PCMPESTRI [Vo, Wo, Ib])),
  row0F3A 0x62 (only66 (vex128 PCMPISTRM [Vo, Wo, Ib])),
  row0F3A 0x63 (only66 (vex128 PCMPISTRI [Vo, Wo, Ib])),
  row0F3A 0xDF (only66 (vex128 AESKEYGENASSIST [Vo, Wo, Ib]))]

def fillVector : List FillStep :=
  vectorMoves ++ vectorArithmetic ++ vectorShifts ++ vectorIntegers0 ++ vectorIntegers1 ++
    vectors38 ++ vectors3A

end X86.OpcodeTable
