import X86.Opcode.Filling
import X86.Opcode.Map0F

/-! The opcodes behind 0F in the table, but for the vector instructions, and the general
instructions behind 0F 38 and 0F 3A. -/

namespace X86.OpcodeTable

open Mnemonic Mnemonic.General Mnemonic.System Mnemonic.Bmi Mnemonic.Sse

def generalCells : List (Nat × Cell) := List.flatten [
  [(0x00, .via .reg .group6), (0x01, .via .form .group7Form), (0x02, op LAR [Gv, EwRv]),
    (0x03, op LSL [Gv, EwRv]), (0x05, only64 SYSCALL []), (0x06, op CLTS []),
    (0x07, only64 SYSRET []), (0x08, op INVD []), (0x09, op WBINVD []), (0x0B, op UD2 []),
    (0x0D, .via .reg .groupP), (0x18, .via .form .form18), (0x19, op NOP [Ev]), (0x1C, op NOP [Ev]),
    (0x1D, op NOP [Ev]), (0x1F, op NOP [Ev]), (0x20, moveSpecial [Rn, Cn]),
    (0x21, moveSpecial [Rn, Dn]), (0x22, moveSpecial [Cn, Rn]), (0x23, moveSpecial [Dn, Rn]),
    (0x30, op WRMSR []), (0x31, op RDTSC []), (0x32, op RDMSR []), (0x33, op RDPMC []),
    (0x34, op SYSENTER []), (0x35, op SYSEXIT [])],
  run 0x40 conditionalMoves, run 0x80 (jumps Jz), run 0x90 conditionalSets,
  [(0xA0, push PUSH [FS]), (0xA1, push POP [FS]), (0xA2, op CPUID []), (0xA3, op BT [Ev, Gv]),
    (0xA4, op SHLD [Ev, Gv, Ib]), (0xA5, op SHLD [Ev, Gv, CL]), (0xA8, push PUSH [GS]),
    (0xA9, push POP [GS]), (0xAA, op RSM []), (0xAB, atomic BTS [Ev, Gv]),
    (0xAC, op SHRD [Ev, Gv, Ib]), (0xAD, op SHRD [Ev, Gv, CL]), (0xAE, .via .form .group15Form),
    (0xAF, op IMUL [Gv, Ev]), (0xB0, atomic CMPXCHG [Eb, Gb]), (0xB1, atomic CMPXCHG [Ev, Gv]),
    (0xB2, op LSS [Gv, Mp]), (0xB3, atomic BTR [Ev, Gv]), (0xB4, op LFS [Gv, Mp]),
    (0xB5, op LGS [Gv, Mp]), (0xB6, op MOVZX [Gv, Eb]), (0xB7, op MOVZX [Gv, Ew]),
    (0xB9, op UD1 [Gv, Ev]), (0xBA, .via .reg .group8), (0xBB, atomic BTC [Ev, Gv]),
    (0xBE, op MOVSX [Gv, Eb]), (0xBF, op MOVSX [Gv, Ew]), (0xC0, atomic XADD [Eb, Gb]),
    (0xC1, atomic XADD [Ev, Gv]), (0xC7, .via .form .group9Form)],
  run 0xC8 (List.replicate 8 (op BSWAP [Zy])),
  [(0xFF, op UD0 [Gv, Ev])]]

def generalRows : List FillStep := List.flatten [
  row0F 0x1A [(.plain, op BNDLDX [Br, M]), (.p66, op BNDMOV [Br, Brm]), (.pF3, op BNDCL [Br, En]),
    (.pF2, op BNDCU [Br, En])],
  row0F 0x1B [(.plain, op BNDSTX [M, Br]), (.p66, op BNDMOV [Brm, Br]), (.pF3, op BNDMK [Br, M]),
    (.pF2, op BNDCN [Br, En])],
  row0F 0x1E [(.plain, op NOP [Ev]), (.pF3, .via .form .endBranchForm)],
  row0F 0xB8 [(.pF3, op POPCNT [Gv, Ev])],
  row0F 0xBC [(.plain, op BSF [Gv, Ev]), (.pF3, op TZCNT [Gv, Ev])],
  row0F 0xBD [(.plain, op BSR [Gv, Ev]), (.pF3, op LZCNT [Gv, Ev])]]

def generalGroups : List FillStep := List.flatten [
  block .group6 [(0, op SLDT [EwRv]), (1, op STR [EwRv]), (2, op LLDT [Ew]), (3, op LTR [Ew]),
    (4, op VERR [Ew]), (5, op VERW [Ew])],
  block .group7Form [(0, .via .reg .group7Memory), (1, .via .reg .group7Register)],
  block .group7Memory [(0, op SGDT [Ms]), (1, op SIDT [Ms]), (2, op LGDT [Ms]), (3, op LIDT [Ms]),
    (4, op SMSW [Mw]), (6, op LMSW [Mw]), (7, op INVLPG [M])],
  block .group7Register [(1, .via .rm .group7Rm1), (2, .via .rm .group7Rm2), (4, op SMSW [Rv]),
    (6, op LMSW [Rw]), (7, .via .rm .group7Rm7)],
  block .group7Rm1 [(0, op MONITOR []), (1, op MWAIT []), (2, op CLAC []), (3, op STAC [])],
  block .group7Rm2 [(0, op XGETBV []), (1, op XSETBV [])],
  block .group7Rm7 [(0, only64 SWAPGS []), (1, op RDTSCP [])],
  block .groupP [(0, op PREFETCH [Mb]), (1, op PREFETCHW [Mb])],
  block .form18 [(0, .via .reg .group16), (1, op NOP [Ev])],
  block .group16 (List.flatten [
    [(0, op PREFETCHNTA [Mb]), (1, op PREFETCHT0 [Mb]), (2, op PREFETCHT1 [Mb]),
      (3, op PREFETCHT2 [Mb])],
    run 4 (List.replicate 4 (op NOP [Ev]))]),
  block .endBranchForm [(0, op NOP [Ev]), (1, .via .reg .endBranchReg)],
  block .endBranchReg (List.flatten [
    run 0 (List.replicate 7 (op NOP [Ev])), [(7, .via .rm .endBranchRm)]]),
  -- the two marks replace hints that have been set before
  block .endBranchRm (List.flatten [
    run 0 (List.replicate 8 (op NOP [Ev])), [(2, op ENDBR64 []), (3, op ENDBR32 [])]]),
  block .group8 [(4, op BT [Ev, Ib]), (5, atomic BTS [Ev, Ib]), (6, atomic BTR [Ev, Ib]),
    (7, atomic BTC [Ev, Ib])],
  block .group9Form [(0, .via .reg .group9Memory), (1, .via .reg .group9Register)],
  block .group9Memory [(1, atomic CMPXCHG8B [Mpair]), (3, op XRSTORS [M]), (4, op XSAVEC [M]),
    (5, op XSAVES [M])],
  block .group9Register [(6, op RDRAND [Rv]), (7, op RDSEED [Rv])],
  block .group15Form [(0, .via .reg .group15Memory), (1, .via .reg .group15Register)],
  block .group15Memory [(0, op FXSAVE [M]), (1, op FXRSTOR [M]), (2, vex128 LDMXCSR [Md]),
    (3, vex128 STMXCSR [Md]), (4, op XSAVE [M]), (5, op XRSTOR [M]), (6, op XSAVEOPT [M]),
    (7, op CLFLUSH [Mb])],
  block .group15Register [(5, op LFENCE []), (6, op MFENCE []), (7, op SFENCE [])]]

/-- With MOVBE and CRC32 the prefix 66 sets the operand size. -/
def generalRows38 : List FillStep := List.flatten [
  row0F38 0xF0 [(.plain, op MOVBE [Gv, Mv]), (.pF2, op CRC32 [Gy, Eb])],
  row0F38 0xF1 [(.plain, op MOVBE [Mv, Gv]), (.pF2, op CRC32 [Gy, Ev])],
  row0F38 0xF2 [(.plain, avx128 ANDN [Gy, By, Ey])],
  row0F38 0xF3 [(.plain, .via .reg .group17)],
  row0F38 0xF5 [(.plain, avx128 BZHI [Gy, Ey, By]), (.pF3, avx128 PEXT [Gy, By, Ey]),
    (.pF2, avx128 PDEP [Gy, By, Ey])],
  row0F38 0xF6 [(.pF2, avx128 MULX [Gy, By, Ey])],
  row0F38 0xF7 [(.plain, avx128 BEXTR [Gy, Ey, By]), (.p66, avx128 SHLX [Gy, Ey, By]),
    (.pF3, avx128 SARX [Gy, Ey, By]), (.pF2, avx128 SHRX [Gy, Ey, By])],
  row0F3A 0xF0 [(.pF2, avx128 RORX [Gy, Ey, Ib])],
  block .group17 [(1, avx128 BLSR [By, Ey]), (2, avx128 BLSMSK [By, Ey]),
    (3, avx128 BLSI [By, Ey])]]

def fillGeneral : List FillStep :=
  block .map0F generalCells ++ generalRows ++ generalGroups ++ generalRows38

end X86.OpcodeTable
