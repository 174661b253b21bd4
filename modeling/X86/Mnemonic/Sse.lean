/-! Mnemonics: the MMX and SSE instructions; under a VEX encoding their names begin with `v`. -/

namespace X86.Mnemonic

inductive Sse where
  | ADDPD | ADDPS | ADDSD | ADDSS | ADDSUBPD | ADDSUBPS | AESDEC | AESDECLAST | AESENC
  | AESENCLAST | AESIMC | AESKEYGENASSIST | ANDNPD | ANDNPS | ANDPD | ANDPS | BLENDPD | BLENDPS
  | BLENDVPD | BLENDVPS | CMPPD | CMPPS | CMPSD | CMPSS | COMISD | COMISS | CVTDQ2PD | CVTDQ2PS
  | CVTPD2DQ | CVTPD2PI | CVTPD2PS | CVTPI2PD | CVTPI2PS | CVTPS2DQ | CVTPS2PD | CVTPS2PI
  | CVTSD2SI | CVTSD2SS | CVTSI2SD | CVTSI2SS | CVTSS2SD | CVTSS2SI | CVTTPD2DQ | CVTTPD2PI
  | CVTTPS2DQ | CVTTPS2PI | CVTTSD2SI | CVTTSS2SI | DIVPD | DIVPS | DIVSD | DIVSS | DPPD | DPPS
  | EMMS | EXTRACTPS | HADDPD | HADDPS | HSUBPD | HSUBPS | INSERTPS | LDDQU | LDMXCSR | STMXCSR
  | MASKMOVDQU | MASKMOVQ | MAXPD | MAXPS | MAXSD | MAXSS | MINPD | MINPS | MINSD | MINSS
  | MOVAPD | MOVAPS | MOVD | MOVQ | MOVDDUP | MOVDQ2Q | MOVDQA | MOVDQU | MOVHLPS | MOVHPD
  | MOVHPS | MOVLHPS | MOVLPD | MOVLPS | MOVMSKPD | MOVMSKPS | MOVNTDQ | MOVNTDQA | MOVNTI
  | MOVNTPD | MOVNTPS | MOVNTQ | MOVQ2DQ | MOVSD | MOVSHDUP | MOVSLDUP | MOVSS | MOVUPD | MOVUPS
  | MPSADBW | MULPD | MULPS | MULSD | MULSS | ORPD | ORPS | PABSB | PABSD | PABSW | PACKSSDW
  | PACKSSWB | PACKUSDW | PACKUSWB | PADDB | PADDD | PADDQ | PADDW | PADDSB | PADDSW | PADDUSB
  | PADDUSW | PALIGNR | PAND | PANDN | PAVGB | PAVGW | PBLENDVB | PBLENDW | PCLMULQDQ | PCMPEQB
  | PCMPEQD | PCMPEQQ | PCMPEQW | PCMPESTRI | PCMPESTRM | PCMPGTB | PCMPGTD | PCMPGTQ | PCMPGTW
  | PCMPISTRI | PCMPISTRM | PEXTRB | PEXTRD | PEXTRQ | PEXTRW | PHADDD | PHADDSW | PHADDW
  | PHMINPOSUW | PHSUBD | PHSUBSW | PHSUBW | PINSRB | PINSRD | PINSRQ | PINSRW | PMADDUBSW
  | PMADDWD | PMAXSB | PMAXSD | PMAXSW | PMAXUB | PMAXUD | PMAXUW | PMINSB | PMINSD | PMINSW
  | PMINUB | PMINUD | PMINUW | PMOVMSKB | PMOVSXBD | PMOVSXBQ | PMOVSXBW | PMOVSXDQ | PMOVSXWD
  | PMOVSXWQ | PMOVZXBD | PMOVZXBQ | PMOVZXBW | PMOVZXDQ | PMOVZXWD | PMOVZXWQ | PMULDQ
  | PMULHRSW | PMULHUW | PMULHW | PMULLD | PMULLW | PMULUDQ | POR | PSADBW | PSHUFB | PSHUFD
  | PSHUFHW | PSHUFLW | PSHUFW | PSIGNB | PSIGND | PSIGNW | PSLLD | PSLLDQ | PSLLQ | PSLLW
  | PSRAD | PSRAW | PSRLD | PSRLDQ | PSRLQ | PSRLW | PSUBB | PSUBD | PSUBQ | PSUBW | PSUBSB
  | PSUBSW | PSUBUSB | PSUBUSW | PTEST | PUNPCKHBW | PUNPCKHDQ | PUNPCKHQDQ | PUNPCKHWD
  | PUNPCKLBW | PUNPCKLDQ | PUNPCKLQDQ | PUNPCKLWD | PXOR | RCPPS | RCPSS | ROUNDPD | ROUNDPS
  | ROUNDSD | ROUNDSS | RSQRTPS | RSQRTSS | SHUFPD | SHUFPS | SQRTPD | SQRTPS | SQRTSD | SQRTSS
  | SUBPD | SUBPS | SUBSD | SUBSS | UCOMISD | UCOMISS | UNPCKHPD | UNPCKHPS | UNPCKLPD | UNPCKLPS
  | XORPD | XORPS
  deriving DecidableEq, Inhabited

namespace Sse

def all : List Sse :=
  [ADDPD, ADDPS, ADDSD, ADDSS, ADDSUBPD, ADDSUBPS, AESDEC, AESDECLAST, AESENC, AESENCLAST,
   AESIMC, AESKEYGENASSIST, ANDNPD, ANDNPS, ANDPD, ANDPS, BLENDPD, BLENDPS, BLENDVPD, BLENDVPS,
   CMPPD, CMPPS, CMPSD, CMPSS, COMISD, COMISS, CVTDQ2PD, CVTDQ2PS, CVTPD2DQ, CVTPD2PI, CVTPD2PS,
   CVTPI2PD, CVTPI2PS, CVTPS2DQ, CVTPS2PD, CVTPS2PI, CVTSD2SI, CVTSD2SS, CVTSI2SD, CVTSI2SS,
   CVTSS2SD, CVTSS2SI, CVTTPD2DQ, CVTTPD2PI, CVTTPS2DQ, CVTTPS2PI, CVTTSD2SI, CVTTSS2SI, DIVPD,
   DIVPS, DIVSD, DIVSS, DPPD, DPPS, EMMS, EXTRACTPS, HADDPD, HADDPS, HSUBPD, HSUBPS, INSERTPS,
   LDDQU, LDMXCSR, STMXCSR, MASKMOVDQU, MASKMOVQ, MAXPD, MAXPS, MAXSD, MAXSS, MINPD, MINPS,
   MINSD, MINSS, MOVAPD, MOVAPS, MOVD, MOVQ, MOVDDUP, MOVDQ2Q, MOVDQA, MOVDQU, MOVHLPS, MOVHPD,
   MOVHPS, MOVLHPS, MOVLPD, MOVLPS, MOVMSKPD, MOVMSKPS, MOVNTDQ, MOVNTDQA, MOVNTI, MOVNTPD,
   MOVNTPS, MOVNTQ, MOVQ2DQ, MOVSD, MOVSHDUP, MOVSLDUP, MOVSS, MOVUPD, MOVUPS, MPSADBW, MULPD,
   MULPS, MULSD, MULSS, ORPD, ORPS, PABSB, PABSD, PABSW, PACKSSDW, PACKSSWB, PACKUSDW, PACKUSWB,
   PADDB, PADDD, PADDQ, PADDW, PADDSB, PADDSW, PADDUSB, PADDUSW, PALIGNR, PAND, PANDN, PAVGB,
   PAVGW, PBLENDVB, PBLENDW, PCLMULQDQ, PCMPEQB, PCMPEQD, PCMPEQQ, PCMPEQW, PCMPESTRI, PCMPESTRM,
   PCMPGTB, PCMPGTD, PCMPGTQ, PCMPGTW, PCMPISTRI, PCMPISTRM, PEXTRB, PEXTRD, PEXTRQ, PEXTRW,
   PHADDD, PHADDSW, PHADDW, PHMINPOSUW, PHSUBD, PHSUBSW, PHSUBW, PINSRB, PINSRD, PINSRQ, PINSRW,
   PMADDUBSW, PMADDWD, PMAXSB, PMAXSD, PMAXSW, PMAXUB, PMAXUD, PMAXUW, PMINSB, PMINSD, PMINSW,
   PMINUB, PMINUD, PMINUW, PMOVMSKB, PMOVSXBD, PMOVSXBQ, PMOVSXBW, PMOVSXDQ, PMOVSXWD, PMOVSXWQ,
   PMOVZXBD, PMOVZXBQ, PMOVZXBW, PMOVZXDQ, PMOVZXWD, PMOVZXWQ, PMULDQ, PMULHRSW, PMULHUW, PMULHW,
   PMULLD, PMULLW, PMULUDQ, POR, PSADBW, PSHUFB, PSHUFD, PSHUFHW, PSHUFLW, PSHUFW, PSIGNB,
   PSIGND, PSIGNW, PSLLD, PSLLDQ, PSLLQ, PSLLW, PSRAD, PSRAW, PSRLD, PSRLDQ, PSRLQ, PSRLW, PSUBB,
   PSUBD, PSUBQ, PSUBW, PSUBSB, PSUBSW, PSUBUSB, PSUBUSW, PTEST, PUNPCKHBW, PUNPCKHDQ,
   PUNPCKHQDQ, PUNPCKHWD, PUNPCKLBW, PUNPCKLDQ, PUNPCKLQDQ, PUNPCKLWD, PXOR, RCPPS, RCPSS,
   ROUNDPD, ROUNDPS, ROUNDSD, ROUNDSS, RSQRTPS, RSQRTSS, SHUFPD, SHUFPS, SQRTPD, SQRTPS, SQRTSD,
   SQRTSS, SUBPD, SUBPS, SUBSD, SUBSS, UCOMISD, UCOMISS, UNPCKHPD, UNPCKHPS, UNPCKLPD, UNPCKLPS,
   XORPD, XORPS]

def name : Sse → String
  | ADDPD => "addpd" | ADDPS => "addps" | ADDSD => "addsd" | ADDSS => "addss"
  | ADDSUBPD => "addsubpd" | ADDSUBPS => "addsubps" | AESDEC => "aesdec"
  | AESDECLAST => "aesdeclast" | AESENC => "aesenc" | AESENCLAST => "aesenclast"
  | AESIMC => "aesimc" | AESKEYGENASSIST => "aeskeygenassist" | ANDNPD => "andnpd"
  | ANDNPS => "andnps" | ANDPD => "andpd" | ANDPS => "andps" | BLENDPD => "blendpd"
  | BLENDPS => "blendps" | BLENDVPD => "blendvpd" | BLENDVPS => "blendvps" | CMPPD => "cmppd"
  | CMPPS => "cmpps" | CMPSD => "cmpsd" | CMPSS => "cmpss" | COMISD => "comisd"
  | COMISS => "comiss" | CVTDQ2PD => "cvtdq2pd" | CVTDQ2PS => "cvtdq2ps" | CVTPD2DQ => "cvtpd2dq"
  | CVTPD2PI => "cvtpd2pi" | CVTPD2PS => "cvtpd2ps" | CVTPI2PD => "cvtpi2pd"
  | CVTPI2PS => "cvtpi2ps" | CVTPS2DQ => "cvtps2dq" | CVTPS2PD => "cvtps2pd"
  | CVTPS2PI => "cvtps2pi" | CVTSD2SI => "cvtsd2si" | CVTSD2SS => "cvtsd2ss"
  | CVTSI2SD => "cvtsi2sd" | CVTSI2SS => "cvtsi2ss" | CVTSS2SD => "cvtss2sd"
  | CVTSS2SI => "cvtss2si" | CVTTPD2DQ => "cvttpd2dq" | CVTTPD2PI => "cvttpd2pi"
  | CVTTPS2DQ => "cvttps2dq" | CVTTPS2PI => "cvttps2pi" | CVTTSD2SI => "cvttsd2si"
  | CVTTSS2SI => "cvttss2si" | DIVPD => "divpd" | DIVPS => "divps" | DIVSD => "divsd"
  | DIVSS => "divss" | DPPD => "dppd" | DPPS => "dpps" | EMMS => "emms"
  | EXTRACTPS => "extractps" | HADDPD => "haddpd" | HADDPS => "haddps" | HSUBPD => "hsubpd"
  | HSUBPS => "hsubps" | INSERTPS => "insertps" | LDDQU => "lddqu" | LDMXCSR => "ldmxcsr"
  | STMXCSR => "stmxcsr" | MASKMOVDQU => "maskmovdqu" | MASKMOVQ => "maskmovq" | MAXPD => "maxpd"
  | MAXPS => "maxps" | MAXSD => "maxsd" | MAXSS => "maxss" | MINPD => "minpd" | MINPS => "minps"
  | MINSD => "minsd" | MINSS => "minss" | MOVAPD => "movapd" | MOVAPS => "movaps"
  | MOVD => "movd" | MOVQ => "movq" | MOVDDUP => "movddup" | MOVDQ2Q => "movdq2q"
  | MOVDQA => "movdqa" | MOVDQU => "movdqu" | MOVHLPS => "movhlps" | MOVHPD => "movhpd"
  | MOVHPS => "movhps" | MOVLHPS => "movlhps" | MOVLPD => "movlpd" | MOVLPS => "movlps"
  | MOVMSKPD => "movmskpd" | MOVMSKPS => "movmskps" | MOVNTDQ => "movntdq"
  | MOVNTDQA => "movntdqa" | MOVNTI => "movnti" | MOVNTPD => "movntpd" | MOVNTPS => "movntps"
  | MOVNTQ => "movntq" | MOVQ2DQ => "movq2dq" | MOVSD => "movsd" | MOVSHDUP => "movshdup"
  | MOVSLDUP => "movsldup" | MOVSS => "movss" | MOVUPD => "movupd" | MOVUPS => "movups"
  | MPSADBW => "mpsadbw" | MULPD => "mulpd" | MULPS => "mulps" | MULSD => "mulsd"
  | MULSS => "mulss" | ORPD => "orpd" | ORPS => "orps" | PABSB => "pabsb" | PABSD => "pabsd"
  | PABSW => "pabsw" | PACKSSDW => "packssdw" | PACKSSWB => "packsswb" | PACKUSDW => "packusdw"
  | PACKUSWB => "packuswb" | PADDB => "paddb" | PADDD => "paddd" | PADDQ => "paddq"
  | PADDW => "paddw" | PADDSB => "paddsb" | PADDSW => "paddsw" | PADDUSB => "paddusb"
  | PADDUSW => "paddusw" | PALIGNR => "palignr" | PAND => "pand" | PANDN => "pandn"
  | PAVGB => "pavgb" | PAVGW => "pavgw" | PBLENDVB => "pblendvb" | PBLENDW => "pblendw"
  | PCLMULQDQ => "pclmulqdq" | PCMPEQB => "pcmpeqb" | PCMPEQD => "pcmpeqd" | PCMPEQQ => "pcmpeqq"
  | PCMPEQW => "pcmpeqw" | PCMPESTRI => "pcmpestri" | PCMPESTRM => "pcmpestrm"
  | PCMPGTB => "pcmpgtb" | PCMPGTD => "pcmpgtd" | PCMPGTQ => "pcmpgtq" | PCMPGTW => "pcmpgtw"
  | PCMPISTRI => "pcmpistri" | PCMPISTRM => "pcmpistrm" | PEXTRB => "pextrb" | PEXTRD => "pextrd"
  | PEXTRQ => "pextrq" | PEXTRW => "pextrw" | PHADDD => "phaddd" | PHADDSW => "phaddsw"
  | PHADDW => "phaddw" | PHMINPOSUW => "phminposuw" | PHSUBD => "phsubd" | PHSUBSW => "phsubsw"
  | PHSUBW => "phsubw" | PINSRB => "pinsrb" | PINSRD => "pinsrd" | PINSRQ => "pinsrq"
  | PINSRW => "pinsrw" | PMADDUBSW => "pmaddubsw" | PMADDWD => "pmaddwd" | PMAXSB => "pmaxsb"
  | PMAXSD => "pmaxsd" | PMAXSW => "pmaxsw" | PMAXUB => "pmaxub" | PMAXUD => "pmaxud"
  | PMAXUW => "pmaxuw" | PMINSB => "pminsb" | PMINSD => "pminsd" | PMINSW => "pminsw"
  | PMINUB => "pminub" | PMINUD => "pminud" | PMINUW => "pminuw" | PMOVMSKB => "pmovmskb"
  | PMOVSXBD => "pmovsxbd" | PMOVSXBQ => "pmovsxbq" | PMOVSXBW => "pmovsxbw"
  | PMOVSXDQ => "pmovsxdq" | PMOVSXWD => "pmovsxwd" | PMOVSXWQ => "pmovsxwq"
  | PMOVZXBD => "pmovzxbd" | PMOVZXBQ => "pmovzxbq" | PMOVZXBW => "pmovzxbw"
  | PMOVZXDQ => "pmovzxdq" | PMOVZXWD => "pmovzxwd" | PMOVZXWQ => "pmovzxwq" | PMULDQ => "pmuldq"
  | PMULHRSW => "pmulhrsw" | PMULHUW => "pmulhuw" | PMULHW => "pmulhw" | PMULLD => "pmulld"
  | PMULLW => "pmullw" | PMULUDQ => "pmuludq" | POR => "por" | PSADBW => "psadbw"
  | PSHUFB => "pshufb" | PSHUFD => "pshufd" | PSHUFHW => "pshufhw" | PSHUFLW => "pshuflw"
  | PSHUFW => "pshufw" | PSIGNB => "psignb" | PSIGND => "psignd" | PSIGNW => "psignw"
  | PSLLD => "pslld" | PSLLDQ => "pslldq" | PSLLQ => "psllq" | PSLLW => "psllw"
  | PSRAD => "psrad" | PSRAW => "psraw" | PSRLD => "psrld" | PSRLDQ => "psrldq"
  | PSRLQ => "psrlq" | PSRLW => "psrlw" | PSUBB => "psubb" | PSUBD => "psubd" | PSUBQ => "psubq"
  | PSUBW => "psubw" | PSUBSB => "psubsb" | PSUBSW => "psubsw" | PSUBUSB => "psubusb"
  | PSUBUSW => "psubusw" | PTEST => "ptest" | PUNPCKHBW => "punpckhbw" | PUNPCKHDQ => "punpckhdq"
  | PUNPCKHQDQ => "punpckhqdq" | PUNPCKHWD => "punpckhwd" | PUNPCKLBW => "punpcklbw"
  | PUNPCKLDQ => "punpckldq" | PUNPCKLQDQ => "punpcklqdq" | PUNPCKLWD => "punpcklwd"
  | PXOR => "pxor" | RCPPS => "rcpps" | RCPSS => "rcpss" | ROUNDPD => "roundpd"
  | ROUNDPS => "roundps" | ROUNDSD => "roundsd" | ROUNDSS => "roundss" | RSQRTPS => "rsqrtps"
  | RSQRTSS => "rsqrtss" | SHUFPD => "shufpd" | SHUFPS => "shufps" | SQRTPD => "sqrtpd"
  | SQRTPS => "sqrtps" | SQRTSD => "sqrtsd" | SQRTSS => "sqrtss" | SUBPD => "subpd"
  | SUBPS => "subps" | SUBSD => "subsd" | SUBSS => "subss" | UCOMISD => "ucomisd"
  | UCOMISS => "ucomiss" | UNPCKHPD => "unpckhpd" | UNPCKHPS => "unpckhps"
  | UNPCKLPD => "unpcklpd" | UNPCKLPS => "unpcklps" | XORPD => "xorpd" | XORPS => "xorps"

end Sse

end X86.Mnemonic
