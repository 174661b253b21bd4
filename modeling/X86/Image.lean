import X86.Elf
import X86.Mode

/-! Code to disassemble: runs of bytes with the addresses they are loaded at, and names for
addresses. -/

namespace X86

structure CodeSection where
  name : String
  address : Nat
  data : List UInt8
  deriving DecidableEq, Repr, Inhabited

structure Image where
  mode : Option Mode
  sections : List CodeSection
  symbols : List (Nat × String)
  deriving DecidableEq, Repr, Inhabited

inductive ImageError where
  | malformed
  | notElf
  | sectionPastEnd (name : String)
  deriving DecidableEq, Repr

def ImageError.message (path : String) : ImageError → String
  | malformed => "parsing " ++ path
  | notElf => path ++ " is not an ELF object (pass --raw for flat images)"
  | sectionPastEnd name => "section " ++ name ++ " extends past the end of the file"

namespace Elf

def executable : Nat := 4

def function : Nat := 2

def SectionHeader.isCode (s : SectionHeader) : Bool :=
  s.kind == progbits && s.flags &&& executable != 0 && s.size != 0

variable (nameAt : StringTable → Nat → Option String)

def Symbol.functionName? (names : StringTable) (s : Symbol) : Option (Nat × String) :=
  if s.info % 16 = function ∧ s.value ≠ 0 then
    match nameAt names s.name with
    | some n => if n.isEmpty then none else some (s.value, n)
    | none => none
  else none

def SymbolTable.functions (t : SymbolTable) : List (Nat × String) :=
  t.symbols.filterMap (Symbol.functionName? nameAt t.names)

def sectionName (e : Elf) (s : SectionHeader) : String :=
  (nameAt e.sectionNames s.name).getD ".unknown"

def codeSection (e : Elf) (file : List UInt8) (s : SectionHeader) : Except ImageError CodeSection :=
  if s.offset + s.size ≤ file.length then
    .ok ⟨e.sectionName nameAt s, s.address, (file.drop s.offset).take s.size⟩
  else .error (.sectionPastEnd (e.sectionName nameAt s))

end Elf

namespace Image

def flat (origin : Nat) (file : List UInt8) : Image := ⟨none, [⟨"raw", origin, file⟩], []⟩

def ofElf (nameAt : Elf.StringTable → Nat → Option String) (e : Elf) (file : List UInt8) :
    Except ImageError Image :=
  match (e.sections.filter Elf.SectionHeader.isCode).mapM (e.codeSection nameAt file) with
  | .ok sections =>
    .ok ⟨some (if e.wide then .bits64 else .bits32), sections,
      e.static.functions nameAt ++ e.dynamic.functions nameAt⟩
  | .error err => .error err

def ofFile (file : List UInt8) : Except ImageError Image :=
  if file.length < Elf.identLength then .error .malformed
  else if file.take 4 ≠ Elf.magic then .error .notElf
  else
    match Elf.ofBytes? file with
    | some e => ofElf Elf.StringTable.name? e file
    | none => .error .malformed

def nameAt? (i : Image) (address : Nat) : Option String := i.symbols.lookup address

end Image

end X86
