import X86.Elf.Dynamic

namespace X86

structure Elf where
  wide : Bool
  sections : List Elf.SectionHeader
  sectionNames : Elf.StringTable
  static : Elf.SymbolTable
  dynamic : Elf.SymbolTable
  deriving DecidableEq, Repr, Inhabited

namespace Elf

def magic : List UInt8 := [0x7F, 0x45, 0x4C, 0x46]

def segments? (l : Layout) (file : List UInt8) (h : FileHeader) : Option (List SegmentHeader) :=
  (SegmentHeader.reader.many h.segmentCount).at? l file h.segmentOffset

/-- The headers of all sections. If their number is zero, the first of them tells it by its size,
but it is always there itself. -/
def sections? (l : Layout) (file : List UInt8) (h : FileHeader) : Option (List SectionHeader) := do
  if h.sectionOffset = 0 then return []
  let first ← SectionHeader.reader.at? l file h.sectionOffset
  let count := if h.sectionCount = 0 then first.size else h.sectionCount
  (SectionHeader.reader.many (max 1 count)).at? l file h.sectionOffset

namespace SectionHeader

def progbits : Nat := 1
def symbolTable : Nat := 2
def withAddend : Nat := 4
def nobits : Nat := 8
def relocations : Nat := 9

def versions : List Nat := [0x6FFFFFFF, 0x6FFFFFFD, 0x6FFFFFFE]

def fits (s : SectionHeader) (file : List UInt8) : Bool :=
  s.kind == nobits || s.size == 0 ||
    (s.offset + s.size ≤ file.length && s.address + s.size < 1 <<< 64)

end SectionHeader

/-- The string table in a section; empty if there is no such section. The number `0xFFFF` stands for
the one that the first section links to. -/
def names? (file : List UInt8) (sections : List SectionHeader) (index : Nat) :
    Option StringTable := do
  let index :=
    match sections with
    | first :: _ => if index = 0xFFFF then first.link else index
    | [] => index
  match sections[index]? with
  | none => some .empty
  | some s =>
    guard (s.fits file)
    namesAt? file s.offset s.size

def static? (l : Layout) (file : List UInt8) (sections : List SectionHeader) :
    Option SymbolTable :=
  match sections.reverse.find? fun s => s.kind == SectionHeader.symbolTable with
  | none => some .empty
  | some s => do
    let count := s.size / s.entrySize
    let symbols ← symbolsAt? l file s.offset count
    return ⟨symbols, ← names? file sections s.link⟩

def dynamic? (l : Layout) (file : List UInt8) (segments : List SegmentHeader) :
    Option SymbolTable := do
  match ← Dynamic.ofFile? l file segments with
  | none => some .empty
  | some d => d.symbolTable? file

def relocationsFit (file : List UInt8) (sections : List SectionHeader) : Bool :=
  sections.all fun s =>
    !(s.kind == SectionHeader.withAddend || s.kind == SectionHeader.relocations) ||
      (s.fits file && (s.size == 0 || (slice? file s.offset s.size).isSome))

def versionsFit (file : List UInt8) (sections : List SectionHeader) : Bool :=
  SectionHeader.versions.all fun kind =>
    (sections.find? fun s => s.kind == kind).all fun s => (slice? file s.offset s.size).isSome

def ofBytes? (file : List UInt8) : Option Elf := do
  let l ← Layout.ofFile? file
  let h ← FileHeader.reader.at? l file identLength
  let segments ← segments? l file h
  let sections ← sections? l file h
  let sectionNames ← names? file sections h.nameSection
  let static ← static? l file sections
  let dynamic ← dynamic? l file segments
  guard (relocationsFit file sections && versionsFit file sections)
  return ⟨l.wide, sections, sectionNames, static, dynamic⟩

end Elf

end X86
