import X86.Size

/-! Registers. A number means a register only within its file, so a register carries its file, its
width and its number; the byte registers `ah`, `ch`, `dh`, `bh` have the numbers 16 to 19. -/

namespace X86

inductive RegisterFile where
  | gpr | mmx | xmm | segment | debug | control | bound | fpu | special
  deriving DecidableEq, Repr, Inhabited

structure Register where
  file : RegisterFile
  width : Size
  index : Nat
  deriving DecidableEq, Repr, Inhabited

namespace Register

def highByteBase : Nat := 16

/-- The general register with the given encoding. Without a REX prefix the encodings 4 to 7 of a
byte register mean the high bytes of the first four. -/
def gpr (width : Size) (index : Nat) (rex : Bool) : Register :=
  if width = .byte ∧ rex = false ∧ 4 ≤ index ∧ index < 8 then
    ⟨.gpr, width, index - 4 + highByteBase⟩
  else
    ⟨.gpr, width, index⟩

def segment (index : Nat) : Register := ⟨.segment, .word, index⟩

def ip (width : Size) : Register := ⟨.special, width, 0⟩

def isGpr (r : Register) : Bool := r.file == .gpr

def isIp (r : Register) : Bool := r.file == .special && r.index == 0

def valid (r : Register) : Bool :=
  match r.file with
  | .gpr =>
    match r.width with
    | .byte => r.index < 20
    | .word | .dword | .qword => r.index < 16
    | _ => false
  | .mmx | .fpu => r.index < 8
  | .xmm | .debug | .control => r.index < 16
  | .segment => r.index < 6
  | .bound => r.index < 4
  | .special => r.index < 2

def byteNames : List String :=
  ["al", "cl", "dl", "bl", "spl", "bpl", "sil", "dil", "r8b", "r9b", "r10b", "r11b", "r12b",
    "r13b", "r14b", "r15b", "ah", "ch", "dh", "bh"]

def wordNames : List String :=
  ["ax", "cx", "dx", "bx", "sp", "bp", "si", "di", "r8w", "r9w", "r10w", "r11w", "r12w", "r13w",
    "r14w", "r15w"]

def dwordNames : List String :=
  ["eax", "ecx", "edx", "ebx", "esp", "ebp", "esi", "edi", "r8d", "r9d", "r10d", "r11d", "r12d",
    "r13d", "r14d", "r15d"]

def qwordNames : List String :=
  ["rax", "rcx", "rdx", "rbx", "rsp", "rbp", "rsi", "rdi", "r8", "r9", "r10", "r11", "r12", "r13",
    "r14", "r15"]

def segmentNames : List String := ["es", "cs", "ss", "ds", "fs", "gs"]

def numbered (stem : String) (count : Nat) : List String :=
  (List.range count).map fun i => stem ++ toString i

def names : RegisterFile → Size → List String
  | .gpr, .byte => byteNames
  | .gpr, .word => wordNames
  | .gpr, .dword => dwordNames
  | .gpr, _ => qwordNames
  | .segment, _ => segmentNames
  | .control, _ => numbered "cr" 16
  | .debug, _ => numbered "dr" 16
  | .mmx, _ => numbered "mm" 8
  | .xmm, .ymmword => numbered "ymm" 16
  | .xmm, .zmmword => numbered "zmm" 16
  | .xmm, _ => numbered "xmm" 16
  | .bound, _ => numbered "bnd" 4
  | .fpu, _ => (numbered "st(" 8).map (· ++ ")")
  | .special, _ => []

def specialName (index : Nat) : Size → String
  | .word => if index = 0 then "ip" else "flags"
  | .dword => if index = 0 then "eip" else "eflags"
  | _ => if index = 0 then "rip" else "rflags"

def name (r : Register) : String :=
  match r.file with
  | .special => specialName r.index r.width
  | file => (names file r.width).getD r.index "?"

end Register

end X86
