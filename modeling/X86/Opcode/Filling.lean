import X86.Opcode.Cell
import X86.Opcode.Vocabulary

/-! Filling the table. Steps go to a block and set its cells; a row of slots is linked from its
opcode on the way. -/

namespace X86

inductive FillStep where
  | seek (b : Block)
  | set (slot : Nat) (c : Cell)
  | row (map slots : Block) (opcode : Nat)

structure Filling where
  cells : FlatTable
  base : Nat

namespace Filling

def start : Filling := ⟨List.replicate Block.total .undefined, 0⟩

def step (f : Filling) : FillStep → Filling
  | .seek b => { f with base := b.base }
  | .set slot c => { f with cells := f.cells.set (f.base + slot) c }
  | .row map slots opcode =>
    let base := slots.base + 4 * opcode
    ⟨f.cells.set (map.base + opcode) (.link .slot base), base⟩

end Filling

namespace OpcodeTable

def block (b : Block) (cells : List (Nat × Cell)) : List FillStep :=
  .seek b :: cells.map fun (slot, c) => .set slot c

def row (map slots : Block) (opcode : Nat) (cells : List (PrefixSlot × Cell)) : List FillStep :=
  .row map slots opcode :: cells.map fun (slot, c) => .set slot.number c

def row0F : Nat → List (PrefixSlot × Cell) → List FillStep := row .map0F .slots0F

def row0F38 : Nat → List (PrefixSlot × Cell) → List FillStep := row .map0F38 .slots0F38

def row0F3A : Nat → List (PrefixSlot × Cell) → List FillStep := row .map0F3A .slots0F3A

def run (slot : Nat) : List DecodeTree → List (Nat × Cell)
  | [] => []
  | t :: ts => (slot, t) :: run (slot + 1) ts

end OpcodeTable

end X86
