import X86.Opcode.Vector
import X86.Opcode.Primary

namespace X86.OpcodeTable

open Mnemonic Mnemonic.General Mnemonic.System Mnemonic.Sse Mnemonic.Avx

def moveSpecial (operands : List OperandShape) : DecodeTree :=
  .leaf { mnemonic := MOV, operands := operands, exception := .alwaysRegister }

/-- The register forms of F3 0F 1E: two marks of branch targets among hints without effect. -/
def endBranch : DecodeTree :=
  let hint := op NOP [Ev]
  group hint hint hint hint hint hint hint
    (rmGroup hint hint (op ENDBR64 []) (op ENDBR32 []) hint hint hint hint)

def conditionalMoves : List DecodeTree :=
  [CMOVO, CMOVNO, CMOVB, CMOVAE, CMOVE, CMOVNE, CMOVBE, CMOVA, CMOVS, CMOVNS, CMOVP, CMOVNP, CMOVL,
    CMOVGE, CMOVLE, CMOVG].map fun m => op (Mnemonic.general m) [Gv, Ev]

def conditionalSets : List DecodeTree :=
  [SETO, SETNO, SETB, SETAE, SETZ, SETNZ, SETBE, SETA, SETS, SETNS, SETP, SETNP, SETL, SETGE, SETLE,
    SETG].map fun m => op (Mnemonic.general m) [Eb]

def map0FRow0 : List DecodeTree := [
  group (op SLDT [EwRv]) (op STR [EwRv]) (op LLDT [Ew]) (op LTR [Ew]) (op VERR [Ew])
    (op VERW [Ew]) ud ud,
  .byForm
    (group (op SGDT [Ms]) (op SIDT [Ms]) (op LGDT [Ms]) (op LIDT [Ms]) (op SMSW [Mw]) ud
      (op LMSW [Mw]) (op INVLPG [M]))
    (group ud (rmGroup (op MONITOR []) (op MWAIT []) (op CLAC []) (op STAC []) ud ud ud ud)
      (rmGroup (op XGETBV []) (op XSETBV []) ud ud ud ud ud ud) ud (op SMSW [Rv]) ud
      (op LMSW [Rw]) (rmGroup (only64 SWAPGS []) (op RDTSCP []) ud ud ud ud ud ud)),
  op LAR [Gv, EwRv], op LSL [Gv, EwRv], ud, only64 SYSCALL [], op CLTS [], only64 SYSRET [],
  op INVD [], op WBINVD [], ud, op UD2 [], ud,
  group (op PREFETCH [Mb]) (op PREFETCHW [Mb]) ud ud ud ud ud ud, ud, ud]

def map0FRow1 : List DecodeTree := [
  slots (vex MOVUPS [Vx, Wx]) (vex MOVUPD [Vx, Wx])
    (.byForm (vex MOVSS [Vo, Wd]) (vex MOVSS [Vo, Ho, Wo]))
    (.byForm (vex Sse.MOVSD [Vo, Wq]) (vex Sse.MOVSD [Vo, Ho, Wo])),
  slots (vex MOVUPS [Wx, Vx]) (vex MOVUPD [Wx, Vx])
    (.byForm (vex MOVSS [Wd, Vo]) (vex MOVSS [Wo, Ho, Vo]))
    (.byForm (vex Sse.MOVSD [Wq, Vo]) (vex Sse.MOVSD [Wo, Ho, Vo])),
  slots (.byForm (vex128 MOVLPS [Vo, Ho, Mq]) (vex128 MOVHLPS [Vo, Ho, Uo]))
    (vex128 MOVLPD [Vo, Ho, Mq]) (vex MOVSLDUP [Vx, Wx]) (vex MOVDDUP [Vx, Wx]),
  slots (vex128 MOVLPS [Mq, Vo]) (vex128 MOVLPD [Mq, Vo]) ud ud, packedFloats UNPCKLPS UNPCKLPD,
  packedFloats UNPCKHPS UNPCKHPD,
  slots (.byForm (vex128 MOVHPS [Vo, Ho, Mq]) (vex128 MOVLHPS [Vo, Ho, Uo]))
    (vex128 MOVHPD [Vo, Ho, Mq]) (vex MOVSHDUP [Vx, Wx]) ud,
  slots (vex128 MOVHPS [Mq, Vo]) (vex128 MOVHPD [Mq, Vo]) ud ud,
  .byForm
    (group (op PREFETCHNTA [Mb]) (op PREFETCHT0 [Mb]) (op PREFETCHT1 [Mb]) (op PREFETCHT2 [Mb])
      (op NOP [Ev]) (op NOP [Ev]) (op NOP [Ev]) (op NOP [Ev])) (op NOP [Ev]),
  op NOP [Ev],
  slots (op BNDLDX [Br, M]) (op BNDMOV [Br, Brm]) (op BNDCL [Br, En]) (op BNDCU [Br, En]),
  slots (op BNDSTX [M, Br]) (op BNDMOV [Brm, Br]) (op BNDMK [Br, M]) (op BNDCN [Br, En]),
  op NOP [Ev], op NOP [Ev], slots (op NOP [Ev]) ud (.byForm (op NOP [Ev]) endBranch) ud,
  op NOP [Ev]]

def map0FRow2 : List DecodeTree := [
  moveSpecial [Rn, Cn], moveSpecial [Rn, Dn], moveSpecial [Cn, Rn], moveSpecial [Dn, Rn], ud, ud,
  ud, ud, slots (vex MOVAPS [Vx, Wx]) (vex MOVAPD [Vx, Wx]) ud ud,
  slots (vex MOVAPS [Wx, Vx]) (vex MOVAPD [Wx, Vx]) ud ud,
  slots (op CVTPI2PS [Vo, Qq]) (op CVTPI2PD [Vo, Qq]) (vex CVTSI2SS [Vo, Ho, Ey])
    (vex CVTSI2SD [Vo, Ho, Ey]),
  slots (vex MOVNTPS [Mx, Vx]) (vex MOVNTPD [Mx, Vx]) ud ud,
  slots (op CVTTPS2PI [Pq, Wq]) (op CVTTPD2PI [Pq, Wo]) (vex CVTTSS2SI [Gy, Wd])
    (vex CVTTSD2SI [Gy, Wq]),
  slots (op CVTPS2PI [Pq, Wq]) (op CVTPD2PI [Pq, Wo]) (vex CVTSS2SI [Gy, Wd])
    (vex CVTSD2SI [Gy, Wq]),
  slots (vex UCOMISS [Vo, Wd]) (vex UCOMISD [Vo, Wq]) ud ud,
  slots (vex COMISS [Vo, Wd]) (vex COMISD [Vo, Wq]) ud ud]

def map0FRow3 : List DecodeTree := [
  op WRMSR [], op RDTSC [], op RDMSR [], op RDPMC [], op SYSENTER [], op SYSEXIT [], ud, ud, ud,
  ud, ud, ud, ud, ud, ud, ud]

def map0FRow5 : List DecodeTree := [
  slots (vex MOVMSKPS [Gy, Ux]) (vex MOVMSKPD [Gy, Ux]) ud ud,
  slots (vex SQRTPS [Vx, Wx]) (vex SQRTPD [Vx, Wx]) (vex SQRTSS [Vo, Ho, Wd])
    (vex SQRTSD [Vo, Ho, Wq]),
  slots (vex RSQRTPS [Vx, Wx]) ud (vex RSQRTSS [Vo, Ho, Wd]) ud,
  slots (vex RCPPS [Vx, Wx]) ud (vex RCPSS [Vo, Ho, Wd]) ud, packedFloats ANDPS ANDPD,
  packedFloats ANDNPS ANDNPD, packedFloats ORPS ORPD, packedFloats XORPS XORPD,
  floats ADDPS ADDPD ADDSS ADDSD, floats MULPS MULPD MULSS MULSD,
  slots (vex CVTPS2PD [Vx, Whalf]) (vex CVTPD2PS [Vo, Wx]) (vex CVTSS2SD [Vo, Ho, Wd])
    (vex CVTSD2SS [Vo, Ho, Wq]),
  slots (vex CVTDQ2PS [Vx, Wx]) (vex CVTPS2DQ [Vx, Wx]) (vex CVTTPS2DQ [Vx, Wx]) ud,
  floats SUBPS SUBPD SUBSS SUBSD, floats MINPS MINPD MINSS MINSD, floats DIVPS DIVPD DIVSS DIVSD,
  floats MAXPS MAXPD MAXSS MAXSD]

def map0FRow6 : List DecodeTree := [
  packed PUNPCKLBW, packed PUNPCKLWD, packed PUNPCKLDQ, packed PACKSSWB, packed PCMPGTB,
  packed PCMPGTW, packed PCMPGTD, packed PACKUSWB, packed PUNPCKHBW, packed PUNPCKHWD,
  packed PUNPCKHDQ, packed PACKSSDW, with66 (vex PUNPCKLQDQ [Vx, Hx, Wx]),
  with66 (vex PUNPCKHQDQ [Vx, Hx, Wx]), slots (op MOVD [Pq, Ey]) (vex128 MOVD [Vo, Ey]) ud ud,
  slots (op MOVQ [Pq, Qq]) (vex MOVDQA [Vx, Wx]) (vex MOVDQU [Vx, Wx]) ud]

def map0FRow7 : List DecodeTree := [
  slots (op PSHUFW [Pq, Qq, Ib]) (vex PSHUFD [Vx, Wx, Ib]) (vex PSHUFHW [Vx, Wx, Ib])
    (vex PSHUFLW [Vx, Wx, Ib]),
  slots (group ud ud (op PSRLW [Nq, Ib]) ud (op PSRAW [Nq, Ib]) ud (op PSLLW [Nq, Ib]) ud)
    (group ud ud (vex PSRLW [Hx, Ux, Ib]) ud (vex PSRAW [Hx, Ux, Ib]) ud (vex PSLLW [Hx, Ux, Ib])
      ud) ud ud,
  slots (group ud ud (op PSRLD [Nq, Ib]) ud (op PSRAD [Nq, Ib]) ud (op PSLLD [Nq, Ib]) ud)
    (group ud ud (vex PSRLD [Hx, Ux, Ib]) ud (vex PSRAD [Hx, Ux, Ib]) ud (vex PSLLD [Hx, Ux, Ib])
      ud) ud ud,
  slots (group ud ud (op PSRLQ [Nq, Ib]) ud ud ud (op PSLLQ [Nq, Ib]) ud)
    (group ud ud (vex PSRLQ [Hx, Ux, Ib]) (vex PSRLDQ [Hx, Ux, Ib]) ud ud (vex PSLLQ [Hx, Ux, Ib])
      (vex PSLLDQ [Hx, Ux, Ib])) ud ud,
  packed PCMPEQB, packed PCMPEQW, packed PCMPEQD,
  .byVex (op EMMS []) (.byVexLength (avx VZEROUPPER []) (avx VZEROALL [])), ud, ud, ud, ud,
  slots ud (vex HADDPD [Vx, Hx, Wx]) ud (vex HADDPS [Vx, Hx, Wx]),
  slots ud (vex HSUBPD [Vx, Hx, Wx]) ud (vex HSUBPS [Vx, Hx, Wx]),
  slots (op MOVD [Ey, Pq]) (vex128 MOVD [Ey, Vo]) (vex128 MOVQ [Vo, Wq]) ud,
  slots (op MOVQ [Qq, Pq]) (vex MOVDQA [Wx, Vx]) (vex MOVDQU [Wx, Vx]) ud]

def map0FRowA : List DecodeTree := [
  push PUSH [FS], push POP [FS], op CPUID [], op BT [Ev, Gv], op SHLD [Ev, Gv, Ib],
  op SHLD [Ev, Gv, CL], ud, ud, push PUSH [GS], push POP [GS], op RSM [], atomic BTS [Ev, Gv],
  op SHRD [Ev, Gv, Ib], op SHRD [Ev, Gv, CL],
  .byForm
    (group (op FXSAVE [M]) (op FXRSTOR [M]) (vex128 LDMXCSR [Md]) (vex128 STMXCSR [Md])
      (op XSAVE [M]) (op XRSTOR [M]) (op XSAVEOPT [M]) (op CLFLUSH [Mb]))
    (group ud ud ud ud ud (op LFENCE []) (op MFENCE []) (op SFENCE [])),
  op IMUL [Gv, Ev]]

def map0FRowB : List DecodeTree := [
  atomic CMPXCHG [Eb, Gb], atomic CMPXCHG [Ev, Gv], op LSS [Gv, Mp], atomic BTR [Ev, Gv],
  op LFS [Gv, Mp], op LGS [Gv, Mp], op MOVZX [Gv, Eb], op MOVZX [Gv, Ew],
  slots ud ud (op POPCNT [Gv, Ev]) ud, op UD1 [Gv, Ev],
  group ud ud ud ud (op BT [Ev, Ib]) (atomic BTS [Ev, Ib]) (atomic BTR [Ev, Ib])
    (atomic BTC [Ev, Ib]),
  atomic BTC [Ev, Gv], slots (op BSF [Gv, Ev]) ud (op TZCNT [Gv, Ev]) ud,
  slots (op BSR [Gv, Ev]) ud (op LZCNT [Gv, Ev]) ud, op MOVSX [Gv, Eb], op MOVSX [Gv, Ew]]

def map0FRowC : List DecodeTree := [
  atomic XADD [Eb, Gb], atomic XADD [Ev, Gv],
  slots (vex CMPPS [Vx, Hx, Wx, Ib]) (vex CMPPD [Vx, Hx, Wx, Ib]) (vex CMPSS [Vo, Ho, Wd, Ib])
    (vex Sse.CMPSD [Vo, Ho, Wq, Ib]),
  slots (op MOVNTI [My, Gy]) ud ud ud,
  slots (op PINSRW [Pq, EwRd, Ib]) (vex128 PINSRW [Vo, Ho, EwRd, Ib]) ud ud,
  slots (op PEXTRW [Gd, Nq, Ib]) (vex128 PEXTRW [Gd, Uo, Ib]) ud ud,
  slots (vex SHUFPS [Vx, Hx, Wx, Ib]) (vex SHUFPD [Vx, Hx, Wx, Ib]) ud ud,
  .byForm
    (group ud (atomic CMPXCHG8B [Mpair]) ud (op XRSTORS [M]) (op XSAVEC [M]) (op XSAVES [M]) ud ud)
    (group ud ud ud ud ud ud (op RDRAND [Rv]) (op RDSEED [Rv])),
  op BSWAP [Zy], op BSWAP [Zy], op BSWAP [Zy], op BSWAP [Zy], op BSWAP [Zy], op BSWAP [Zy],
  op BSWAP [Zy], op BSWAP [Zy]]

def map0FRowD : List DecodeTree := [
  slots ud (vex ADDSUBPD [Vx, Hx, Wx]) ud (vex ADDSUBPS [Vx, Hx, Wx]), packedShift PSRLW,
  packedShift PSRLD, packedShift PSRLQ, packed PADDQ, packed PMULLW,
  slots ud (vex128 MOVQ [Wq, Vo]) (op MOVQ2DQ [Vo, Nq]) (op MOVDQ2Q [Pq, Uo]),
  slots (op PMOVMSKB [Gd, Nq]) (vex PMOVMSKB [Gd, Ux]) ud ud, packed PSUBUSB, packed PSUBUSW,
  packed PMINUB, packed PAND, packed PADDUSB, packed PADDUSW, packed PMAXUB, packed PANDN]

def map0FRowE : List DecodeTree := [
  packed PAVGB, packedShift PSRAW, packedShift PSRAD, packed PAVGW, packed PMULHUW, packed PMULHW,
  slots ud (vex CVTTPD2DQ [Vo, Wx]) (vex CVTDQ2PD [Vx, Whalf]) (vex CVTPD2DQ [Vo, Wx]),
  slots (op MOVNTQ [Mq, Pq]) (vex MOVNTDQ [Mx, Vx]) ud ud, packed PSUBSB, packed PSUBSW,
  packed PMINSW, packed POR, packed PADDSB, packed PADDSW, packed PMAXSW, packed PXOR]

def map0FRowF : List DecodeTree := [
  slots ud ud ud (vex LDDQU [Vx, Mx]), packedShift PSLLW, packedShift PSLLD, packedShift PSLLQ,
  packed PMULUDQ, packed PMADDWD, packed PSADBW,
  slots (op MASKMOVQ [Pq, Nq]) (vex128 MASKMOVDQU [Vo, Uo]) ud ud, packed PSUBB, packed PSUBW,
  packed PSUBD, packed PSUBQ, packed PADDB, packed PADDW, packed PADDD, op UD0 [Gv, Ev]]

def map0F : List DecodeTree :=
  map0FRow0 ++ map0FRow1 ++ map0FRow2 ++ map0FRow3 ++ conditionalMoves ++ map0FRow5 ++
    map0FRow6 ++ map0FRow7 ++ jumps Jz ++ conditionalSets ++ map0FRowA ++ map0FRowB ++
    map0FRowC ++ map0FRowD ++ map0FRowE ++ map0FRowF

end X86.OpcodeTable
