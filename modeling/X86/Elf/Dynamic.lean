import X86.Elf.Header
import X86.Elf.StringTable

/-! Symbols for the dynamic linker. The dynamic segment tells the addresses at which its tables are
loaded; their number is told by a hash table. -/

namespace X86.Elf

structure SymbolTable where
  symbols : List Symbol
  names : StringTable
  deriving DecidableEq, Repr, Inhabited

namespace SymbolTable

def empty : SymbolTable := ⟨[], .empty⟩

end SymbolTable

def symbolsAt? (l : Layout) (file : List UInt8) (offset count : Nat) : Option (List Symbol) := do
  let bytes ← slice? file offset (count * Symbol.size l)
  (Symbol.reader.many count).at? l bytes 0

def namesAt? (file : List UInt8) (offset size : Nat) : Option StringTable := do
  StringTable.ofBytes? (← slice? file offset size)

namespace SegmentHeader

def loaded : Nat := 1

def dynamic : Nat := 2

def fileOffset? (segments : List SegmentHeader) (address : Nat) : Option Nat :=
  match segments.find? fun s =>
    s.kind == loaded && s.address ≤ address && address < s.address + s.memorySize with
  | some s =>
    let offset := s.offset + (address - s.address)
    if offset < 1 <<< 64 then some offset else none
  | none => none

end SegmentHeader

namespace Tag

def jumpsSize : Nat := 2
def hash : Nat := 4
def names : Nat := 5
def symbols : Nat := 6
def addends : Nat := 7
def addendsSize : Nat := 8
def namesSize : Nat := 10
def relocations : Nat := 17
def relocationsSize : Nat := 18
def jumpsKind : Nat := 20
def jumps : Nat := 23
def filteredHash : Nat := 0x6FFFFEF5

end Tag

structure Dynamic where
  layout : Layout
  segments : List SegmentHeader
  entries : List DynamicEntry
  deriving DecidableEq, Repr, Inhabited

namespace Dynamic

def ofFile? (l : Layout) (file : List UInt8) (segments : List SegmentHeader) :
    Option (Option Dynamic) :=
  match segments.find? fun s => s.kind == SegmentHeader.dynamic with
  | none => some none
  | some s => do
    let bytes ← if s.fileSize = 0 then some [] else slice? file s.offset s.fileSize
    let count := s.fileSize / DynamicEntry.size l
    let entries ← (DynamicEntry.reader.upTo (fun e => e.tag == 0) count).at? l bytes 0
    return some ⟨l, segments, entries⟩

def value? (d : Dynamic) (tag : Nat) : Option Nat :=
  (d.entries.reverse.find? fun e => e.tag == tag).map DynamicEntry.value

def sizeOf (d : Dynamic) (tag : Nat) : Nat := (d.value? tag).getD 0

def offset? (d : Dynamic) (tag : Nat) : Option Nat :=
  (d.value? tag).bind (SegmentHeader.fileOffset? d.segments)

def offsetOf (d : Dynamic) (tag : Nat) : Nat := (d.offset? tag).getD 0

/-- The last number in a run of hash values is odd. The number of values up to there. -/
def chainLength? (l : Layout) (file : List UInt8) (offset : Nat) : Option Nat := do
  let room := (file.length - offset) / 4 + 1
  let hashes ← (Reader.word.upTo (fun n => n % 2 == 1) room).at? l file offset
  return hashes.length

def filteredCount? (l : Layout) (file : List UInt8) (offset : Nat) : Option Nat := do
  let head ← (Reader.word.many 3).at? l file offset
  match head with
  | [bucketCount, first, filterSize] =>
    guard (bucketCount ≠ 0 ∧ first ≠ 0 ∧ filterSize ≠ 0)
    let bucketOffset := offset + 16 + filterSize * (if l.wide then 8 else 4)
    let buckets ← (Reader.word.many bucketCount).at? l file bucketOffset
    let last := buckets.foldl max 0
    if last < first then return 0
    let chainOffset := bucketOffset + 4 * bucketCount + 4 * (last - first)
    return last + (← chainLength? l file chainOffset)
  | _ => none

def hashedCount? (l : Layout) (file : List UInt8) (offset : Nat) : Option Nat :=
  Reader.word.at? l file (offset + 4)

def relocationSymbols? (l : Layout) (file : List UInt8) (offset size : Nat) (addend : Bool) :
    Option (List Nat) := do
  if size = 0 then return []
  let bytes ← slice? file offset size
  ((relocationSymbol addend).many (size / relocationSize l addend)).at? l bytes 0

/-- The number of symbols: what the hash table tells, but at least up to the last one that a
relocation names. -/
def symbolCount? (d : Dynamic) (file : List UInt8) : Option Nat := do
  let l := d.layout
  let withAddend ←
    relocationSymbols? l file (d.offsetOf Tag.addends) (d.sizeOf Tag.addendsSize) true
  let without ←
    relocationSymbols? l file (d.offsetOf Tag.relocations) (d.sizeOf Tag.relocationsSize) false
  let jumps ←
    relocationSymbols? l file (d.offsetOf Tag.jumps) (d.sizeOf Tag.jumpsSize)
      (d.sizeOf Tag.jumpsKind == Tag.addends)
  let hashed ←
    match d.offset? Tag.filteredHash, d.offset? Tag.hash with
    | some offset, _ => filteredCount? l file offset
    | none, some offset => hashedCount? l file offset
    | none, none => some 0
  let last := (withAddend ++ without ++ jumps).foldl max 0
  return if last = 0 then hashed else max hashed (last + 1)

def symbolTable? (d : Dynamic) (file : List UInt8) : Option SymbolTable := do
  let names ← namesAt? file (d.offsetOf Tag.names) (d.sizeOf Tag.namesSize)
  let count ← d.symbolCount? file
  let symbols ← symbolsAt? d.layout file (d.offsetOf Tag.symbols) count
  return ⟨symbols, names⟩

end Dynamic

end X86.Elf
