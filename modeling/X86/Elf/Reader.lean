import X86.Cursor

/-! Reading numbers and records from an ELF file, whose header tells how wide addresses are and in
what order the bytes of a number come. -/

namespace X86.Elf

structure Layout where
  wide : Bool
  highFirst : Bool
  deriving DecidableEq, Repr, Inhabited

def Layout.number (l : Layout) (bytes : List UInt8) : Nat :=
  littleEndian (if l.highFirst then bytes.reverse else bytes)

abbrev Reader := ReaderT Layout (StateT (List UInt8) Option)

namespace Reader

def number (n : Nat) : Reader Nat := do
  let bytes := (← get).take n
  guard (bytes.length = n)
  modify (List.drop n)
  return (← read).number bytes

def byte : Reader Nat := number 1

def half : Reader Nat := number 2

def word : Reader Nat := number 4

def address : Reader Nat := do
  number (if (← read).wide then 8 else 4)

def many {α : Type} (r : Reader α) : Nat → Reader (List α)
  | 0 => return []
  | n + 1 => do
    let a ← r
    return a :: (← r.many n)

def upTo {α : Type} (last : α → Bool) (r : Reader α) : Nat → Reader (List α)
  | 0 => return []
  | n + 1 => do
    let a ← r
    if last a then return [a]
    return a :: (← r.upTo last n)

def at? {α : Type} (r : Reader α) (l : Layout) (file : List UInt8) (offset : Nat) : Option α :=
  (r l (file.drop offset)).map (·.1)

end Reader

def slice? (file : List UInt8) (offset size : Nat) : Option (List UInt8) :=
  if offset + size ≤ file.length then some ((file.drop offset).take size) else none

end X86.Elf
