/-! Mnemonics: instructions for operating systems: descriptor tables, machine state, caches and
bounds. -/

namespace X86.Mnemonic

inductive System where
  | CLI | STI | HLT | CLTS | SLDT | STR | LLDT | LTR | VERR | VERW | SGDT | SIDT | LGDT | LIDT
  | SMSW | LMSW | INVLPG | LAR | LSL | SWAPGS | RDTSCP | MONITOR | MWAIT | CLAC | STAC | XGETBV
  | XSETBV | SYSCALL | SYSRET | SYSENTER | SYSEXIT | INVD | WBINVD | WRMSR | RDMSR | RDTSC
  | RDPMC | RSM | IRET | IRETD | IRETQ | FXSAVE | FXSAVE64 | FXRSTOR | FXRSTOR64 | XSAVE
  | XSAVE64 | XRSTOR | XRSTOR64 | XSAVEOPT | XSAVEOPT64 | XSAVEC | XSAVEC64 | XSAVES | XSAVES64
  | XRSTORS | XRSTORS64 | CLFLUSH | LFENCE | MFENCE | SFENCE | BNDLDX | BNDSTX | BNDMOV | BNDMK
  | BNDCL | BNDCU | BNDCN
  deriving DecidableEq, Inhabited

namespace System

def all : List System :=
  [CLI, STI, HLT, CLTS, SLDT, STR, LLDT, LTR, VERR, VERW, SGDT, SIDT, LGDT, LIDT, SMSW, LMSW,
   INVLPG, LAR, LSL, SWAPGS, RDTSCP, MONITOR, MWAIT, CLAC, STAC, XGETBV, XSETBV, SYSCALL, SYSRET,
   SYSENTER, SYSEXIT, INVD, WBINVD, WRMSR, RDMSR, RDTSC, RDPMC, RSM, IRET, IRETD, IRETQ, FXSAVE,
   FXSAVE64, FXRSTOR, FXRSTOR64, XSAVE, XSAVE64, XRSTOR, XRSTOR64, XSAVEOPT, XSAVEOPT64, XSAVEC,
   XSAVEC64, XSAVES, XSAVES64, XRSTORS, XRSTORS64, CLFLUSH, LFENCE, MFENCE, SFENCE, BNDLDX,
   BNDSTX, BNDMOV, BNDMK, BNDCL, BNDCU, BNDCN]

def name : System → String
  | CLI => "cli" | STI => "sti" | HLT => "hlt" | CLTS => "clts" | SLDT => "sldt" | STR => "str"
  | LLDT => "lldt" | LTR => "ltr" | VERR => "verr" | VERW => "verw" | SGDT => "sgdt"
  | SIDT => "sidt" | LGDT => "lgdt" | LIDT => "lidt" | SMSW => "smsw" | LMSW => "lmsw"
  | INVLPG => "invlpg" | LAR => "lar" | LSL => "lsl" | SWAPGS => "swapgs" | RDTSCP => "rdtscp"
  | MONITOR => "monitor" | MWAIT => "mwait" | CLAC => "clac" | STAC => "stac"
  | XGETBV => "xgetbv" | XSETBV => "xsetbv" | SYSCALL => "syscall" | SYSRET => "sysret"
  | SYSENTER => "sysenter" | SYSEXIT => "sysexit" | INVD => "invd" | WBINVD => "wbinvd"
  | WRMSR => "wrmsr" | RDMSR => "rdmsr" | RDTSC => "rdtsc" | RDPMC => "rdpmc" | RSM => "rsm"
  | IRET => "iret" | IRETD => "iretd" | IRETQ => "iretq" | FXSAVE => "fxsave"
  | FXSAVE64 => "fxsave64" | FXRSTOR => "fxrstor" | FXRSTOR64 => "fxrstor64" | XSAVE => "xsave"
  | XSAVE64 => "xsave64" | XRSTOR => "xrstor" | XRSTOR64 => "xrstor64" | XSAVEOPT => "xsaveopt"
  | XSAVEOPT64 => "xsaveopt64" | XSAVEC => "xsavec" | XSAVEC64 => "xsavec64" | XSAVES => "xsaves"
  | XSAVES64 => "xsaves64" | XRSTORS => "xrstors" | XRSTORS64 => "xrstors64"
  | CLFLUSH => "clflush" | LFENCE => "lfence" | MFENCE => "mfence" | SFENCE => "sfence"
  | BNDLDX => "bndldx" | BNDSTX => "bndstx" | BNDMOV => "bndmov" | BNDMK => "bndmk"
  | BNDCL => "bndcl" | BNDCU => "bndcu" | BNDCN => "bndcn"

end System

end X86.Mnemonic
