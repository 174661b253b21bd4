/-! Mnemonics: the general-purpose instructions that have no VEX encoding. -/

namespace X86.Mnemonic

inductive General where
  | AAA | AAD | AAM | AAS | ADC | ADD | AND | ARPL | BOUND | BSF | BSR | BSWAP | BT | BTC | BTR
  | BTS | CALL | CALLF | CBW | CWDE | CDQE | CWD | CDQ | CQO | CLC | CLD | CMC | CMP | CMOVO
  | CMOVNO | CMOVB | CMOVAE | CMOVE | CMOVNE | CMOVBE | CMOVA | CMOVS | CMOVNS | CMOVP | CMOVNP
  | CMOVL | CMOVGE | CMOVLE | CMOVG | CMPSB | CMPSW | CMPSD | CMPSQ | CMPXCHG | CMPXCHG8B
  | CMPXCHG16B | CRC32 | DAA | DAS | DEC | DIV | ENTER | IDIV | IMUL | IN | INC | INSB | INSW
  | INSD | INT | INT1 | INT3 | INTO | JO | JNO | JB | JAE | JZ | JNZ | JBE | JA | JS | JNS | JP
  | JNP | JL | JGE | JLE | JG | JCXZ | JECXZ | JRCXZ | JMP | JMPF | LAHF | LDS | LEA | LEAVE
  | LES | LFS | LGS | LSS | LODSB | LODSW | LODSD | LODSQ | LOOP | LOOPE | LOOPNE | LZCNT | MOV
  | MOVBE | MOVSB | MOVSW | MOVSD | MOVSQ | MOVSX | MOVSXD | MOVZX | MUL | NEG | NOP | NOT | OR
  | OUT | OUTSB | OUTSW | OUTSD | PAUSE | POP | POPA | POPAD | POPCNT | POPF | POPFD | POPFQ
  | PUSH | PUSHA | PUSHAD | PUSHF | PUSHFD | PUSHFQ | RCL | RCR | RET | RETF | ROL | ROR | SAHF
  | SAL | SALC | SAR | SBB | SCASB | SCASW | SCASD | SCASQ | SETO | SETNO | SETB | SETAE | SETZ
  | SETNZ | SETBE | SETA | SETS | SETNS | SETP | SETNP | SETL | SETGE | SETLE | SETG | SHL | SHLD
  | SHR | SHRD | STC | STD | STOSB | STOSW | STOSD | STOSQ | SUB | TEST | TZCNT | UD0 | UD1 | UD2
  | WAIT | XADD | XCHG | XLAT | XOR | RDRAND | RDSEED | CPUID | PREFETCH | PREFETCHW
  | PREFETCHNTA | PREFETCHT0 | PREFETCHT1 | PREFETCHT2 | ENDBR32 | ENDBR64
  deriving DecidableEq, Inhabited

namespace General

def all : List General :=
  [AAA, AAD, AAM, AAS, ADC, ADD, AND, ARPL, BOUND, BSF, BSR, BSWAP, BT, BTC, BTR, BTS, CALL,
   CALLF, CBW, CWDE, CDQE, CWD, CDQ, CQO, CLC, CLD, CMC, CMP, CMOVO, CMOVNO, CMOVB, CMOVAE,
   CMOVE, CMOVNE, CMOVBE, CMOVA, CMOVS, CMOVNS, CMOVP, CMOVNP, CMOVL, CMOVGE, CMOVLE, CMOVG,
   CMPSB, CMPSW, CMPSD, CMPSQ, CMPXCHG, CMPXCHG8B, CMPXCHG16B, CRC32, DAA, DAS, DEC, DIV, ENTER,
   IDIV, IMUL, IN, INC, INSB, INSW, INSD, INT, INT1, INT3, INTO, JO, JNO, JB, JAE, JZ, JNZ, JBE,
   JA, JS, JNS, JP, JNP, JL, JGE, JLE, JG, JCXZ, JECXZ, JRCXZ, JMP, JMPF, LAHF, LDS, LEA, LEAVE,
   LES, LFS, LGS, LSS, LODSB, LODSW, LODSD, LODSQ, LOOP, LOOPE, LOOPNE, LZCNT, MOV, MOVBE, MOVSB,
   MOVSW, MOVSD, MOVSQ, MOVSX, MOVSXD, MOVZX, MUL, NEG, NOP, NOT, OR, OUT, OUTSB, OUTSW, OUTSD,
   PAUSE, POP, POPA, POPAD, POPCNT, POPF, POPFD, POPFQ, PUSH, PUSHA, PUSHAD, PUSHF, PUSHFD,
   PUSHFQ, RCL, RCR, RET, RETF, ROL, ROR, SAHF, SAL, SALC, SAR, SBB, SCASB, SCASW, SCASD, SCASQ,
   SETO, SETNO, SETB, SETAE, SETZ, SETNZ, SETBE, SETA, SETS, SETNS, SETP, SETNP, SETL, SETGE,
   SETLE, SETG, SHL, SHLD, SHR, SHRD, STC, STD, STOSB, STOSW, STOSD, STOSQ, SUB, TEST, TZCNT,
   UD0, UD1, UD2, WAIT, XADD, XCHG, XLAT, XOR, RDRAND, RDSEED, CPUID, PREFETCH, PREFETCHW,
   PREFETCHNTA, PREFETCHT0, PREFETCHT1, PREFETCHT2, ENDBR32, ENDBR64]

def name : General → String
  | AAA => "aaa" | AAD => "aad" | AAM => "aam" | AAS => "aas" | ADC => "adc" | ADD => "add"
  | AND => "and" | ARPL => "arpl" | BOUND => "bound" | BSF => "bsf" | BSR => "bsr"
  | BSWAP => "bswap" | BT => "bt" | BTC => "btc" | BTR => "btr" | BTS => "bts" | CALL => "call"
  | CALLF => "call" | CBW => "cbw" | CWDE => "cwde" | CDQE => "cdqe" | CWD => "cwd"
  | CDQ => "cdq" | CQO => "cqo" | CLC => "clc" | CLD => "cld" | CMC => "cmc" | CMP => "cmp"
  | CMOVO => "cmovo" | CMOVNO => "cmovno" | CMOVB => "cmovb" | CMOVAE => "cmovae"
  | CMOVE => "cmove" | CMOVNE => "cmovne" | CMOVBE => "cmovbe" | CMOVA => "cmova"
  | CMOVS => "cmovs" | CMOVNS => "cmovns" | CMOVP => "cmovp" | CMOVNP => "cmovnp"
  | CMOVL => "cmovl" | CMOVGE => "cmovge" | CMOVLE => "cmovle" | CMOVG => "cmovg"
  | CMPSB => "cmpsb" | CMPSW => "cmpsw" | CMPSD => "cmpsd" | CMPSQ => "cmpsq"
  | CMPXCHG => "cmpxchg" | CMPXCHG8B => "cmpxchg8b" | CMPXCHG16B => "cmpxchg16b"
  | CRC32 => "crc32" | DAA => "daa" | DAS => "das" | DEC => "dec" | DIV => "div"
  | ENTER => "enter" | IDIV => "idiv" | IMUL => "imul" | IN => "in" | INC => "inc"
  | INSB => "insb" | INSW => "insw" | INSD => "insd" | INT => "int" | INT1 => "int1"
  | INT3 => "int3" | INTO => "into" | JO => "jo" | JNO => "jno" | JB => "jb" | JAE => "jae"
  | JZ => "jz" | JNZ => "jnz" | JBE => "jbe" | JA => "ja" | JS => "js" | JNS => "jns"
  | JP => "jp" | JNP => "jnp" | JL => "jl" | JGE => "jge" | JLE => "jle" | JG => "jg"
  | JCXZ => "jcxz" | JECXZ => "jecxz" | JRCXZ => "jrcxz" | JMP => "jmp" | JMPF => "jmp"
  | LAHF => "lahf" | LDS => "lds" | LEA => "lea" | LEAVE => "leave" | LES => "les" | LFS => "lfs"
  | LGS => "lgs" | LSS => "lss" | LODSB => "lodsb" | LODSW => "lodsw" | LODSD => "lodsd"
  | LODSQ => "lodsq" | LOOP => "loop" | LOOPE => "loope" | LOOPNE => "loopne" | LZCNT => "lzcnt"
  | MOV => "mov" | MOVBE => "movbe" | MOVSB => "movsb" | MOVSW => "movsw" | MOVSD => "movsd"
  | MOVSQ => "movsq" | MOVSX => "movsx" | MOVSXD => "movsxd" | MOVZX => "movzx" | MUL => "mul"
  | NEG => "neg" | NOP => "nop" | NOT => "not" | OR => "or" | OUT => "out" | OUTSB => "outsb"
  | OUTSW => "outsw" | OUTSD => "outsd" | PAUSE => "pause" | POP => "pop" | POPA => "popa"
  | POPAD => "popad" | POPCNT => "popcnt" | POPF => "popf" | POPFD => "popfd" | POPFQ => "popfq"
  | PUSH => "push" | PUSHA => "pusha" | PUSHAD => "pushad" | PUSHF => "pushf"
  | PUSHFD => "pushfd" | PUSHFQ => "pushfq" | RCL => "rcl" | RCR => "rcr" | RET => "ret"
  | RETF => "retf" | ROL => "rol" | ROR => "ror" | SAHF => "sahf" | SAL => "sal" | SALC => "salc"
  | SAR => "sar" | SBB => "sbb" | SCASB => "scasb" | SCASW => "scasw" | SCASD => "scasd"
  | SCASQ => "scasq" | SETO => "seto" | SETNO => "setno" | SETB => "setb" | SETAE => "setae"
  | SETZ => "setz" | SETNZ => "setnz" | SETBE => "setbe" | SETA => "seta" | SETS => "sets"
  | SETNS => "setns" | SETP => "setp" | SETNP => "setnp" | SETL => "setl" | SETGE => "setge"
  | SETLE => "setle" | SETG => "setg" | SHL => "shl" | SHLD => "shld" | SHR => "shr"
  | SHRD => "shrd" | STC => "stc" | STD => "std" | STOSB => "stosb" | STOSW => "stosw"
  | STOSD => "stosd" | STOSQ => "stosq" | SUB => "sub" | TEST => "test" | TZCNT => "tzcnt"
  | UD0 => "ud0" | UD1 => "ud1" | UD2 => "ud2" | WAIT => "wait" | XADD => "xadd" | XCHG => "xchg"
  | XLAT => "xlatb" | XOR => "xor" | RDRAND => "rdrand" | RDSEED => "rdseed" | CPUID => "cpuid"
  | PREFETCH => "prefetch" | PREFETCHW => "prefetchw" | PREFETCHNTA => "prefetchnta"
  | PREFETCHT0 => "prefetcht0" | PREFETCHT1 => "prefetcht1" | PREFETCHT2 => "prefetcht2"
  | ENDBR32 => "endbr32" | ENDBR64 => "endbr64"

end General

end X86.Mnemonic
