import X86.Elf.Reader

namespace X86.Elf

structure FileHeader where
  segmentOffset : Nat
  sectionOffset : Nat
  segmentCount : Nat
  sectionCount : Nat
  nameSection : Nat
  deriving DecidableEq, Repr, Inhabited

structure SegmentHeader where
  kind : Nat
  offset : Nat
  address : Nat
  fileSize : Nat
  memorySize : Nat
  deriving DecidableEq, Repr, Inhabited

structure SectionHeader where
  name : Nat
  kind : Nat
  flags : Nat
  address : Nat
  offset : Nat
  size : Nat
  link : Nat
  entrySize : Nat
  deriving DecidableEq, Repr, Inhabited

structure Symbol where
  name : Nat
  info : Nat
  value : Nat
  deriving DecidableEq, Repr, Inhabited

structure DynamicEntry where
  tag : Nat
  value : Nat
  deriving DecidableEq, Repr, Inhabited

def Layout.ofFile? (file : List UInt8) : Option Layout :=
  match file.drop 4 with
  | 1 :: 1 :: _ => some ⟨false, false⟩
  | 1 :: 2 :: _ => some ⟨false, true⟩
  | 2 :: 1 :: _ => some ⟨true, false⟩
  | 2 :: 2 :: _ => some ⟨true, true⟩
  | _ => none

def identLength : Nat := 16

def FileHeader.reader : Reader FileHeader := do
  let _kind ← Reader.half
  let _machine ← Reader.half
  let _version ← Reader.word
  let _entry ← Reader.address
  let segmentOffset ← Reader.address
  let sectionOffset ← Reader.address
  let _flags ← Reader.word
  let _size ← Reader.half
  let _segmentSize ← Reader.half
  let segmentCount ← Reader.half
  let _sectionSize ← Reader.half
  let sectionCount ← Reader.half
  let nameSection ← Reader.half
  return ⟨segmentOffset, sectionOffset, segmentCount, sectionCount, nameSection⟩

def SegmentHeader.reader : Reader SegmentHeader := do
  let wide := (← read).wide
  let kind ← Reader.word
  if wide then
    let _flags ← Reader.word
  let offset ← Reader.address
  let address ← Reader.address
  let _physical ← Reader.address
  let fileSize ← Reader.address
  let memorySize ← Reader.address
  if !wide then
    let _flags ← Reader.word
  let _align ← Reader.address
  return ⟨kind, offset, address, fileSize, memorySize⟩

def SectionHeader.reader : Reader SectionHeader := do
  let name ← Reader.word
  let kind ← Reader.word
  let flags ← Reader.address
  let address ← Reader.address
  let offset ← Reader.address
  let size ← Reader.address
  let link ← Reader.word
  let _info ← Reader.word
  let _align ← Reader.address
  let entrySize ← Reader.address
  return ⟨name, kind, flags, address, offset, size, link, entrySize⟩

def Symbol.size (l : Layout) : Nat := if l.wide then 24 else 16

def Symbol.reader : Reader Symbol := do
  let name ← Reader.word
  if (← read).wide then
    let info ← Reader.byte
    let _other ← Reader.byte
    let _section ← Reader.half
    let value ← Reader.address
    let _size ← Reader.address
    return ⟨name, info, value⟩
  else
    let value ← Reader.address
    let _size ← Reader.address
    let info ← Reader.byte
    let _other ← Reader.byte
    let _section ← Reader.half
    return ⟨name, info, value⟩

def DynamicEntry.size (l : Layout) : Nat := if l.wide then 16 else 8

def DynamicEntry.reader : Reader DynamicEntry := do
  let tag ← Reader.address
  return ⟨tag, ← Reader.address⟩

def relocationSize (l : Layout) (addend : Bool) : Nat :=
  (if l.wide then 8 else 4) * if addend then 3 else 2

def relocationSymbol (addend : Bool) : Reader Nat := do
  let _offset ← Reader.address
  let info ← Reader.address
  if addend then
    let _addend ← Reader.address
  return info >>> if (← read).wide then 32 else 8

end X86.Elf
