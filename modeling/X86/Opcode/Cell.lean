import X86.Opcode
import X86.Opcode.DecodeTree

/-! The opcode maps as one table. A cell holds an instruction, or a link to the cells that one more
selector chooses between. -/

namespace X86

inductive Selector where
  | reg
  | form
  | rm
  | slot
  | escape
  | mode
  | vex
  | vexLength
  deriving DecidableEq, Repr, Inhabited

def Selector.span : Selector → Nat
  | reg | rm => 8
  | form | mode | vex | vexLength => 2
  | slot => 4
  | escape => 72

/-- The parts of the table: the opcode maps, a row of slots for each opcode of a map, and what the
other links lead to. Groups have their customary numbers. -/
inductive Block where
  | primary | map0F | map0F38 | map0F3A
  | slots0F | slots0F38 | slots0F3A
  | mode63 | slots90
  | group1At80 | group1At81 | group1At82 | group1At83 | group1AAt8F
  | group2AtC0 | group2AtC1 | group2AtD0 | group2AtD1 | group2AtD2 | group2AtD3
  | group11AtC6 | group11AtC7 | group3AtF6 | group3AtF7 | group4 | group5
  | escapeD8 | escapeD9 | escapeDA | escapeDB | escapeDC | escapeDD | escapeDE | escapeDF
  | group6 | group7Form | group7Memory | group7Register | group7Rm1 | group7Rm2 | group7Rm7
  | groupP | form18 | group16 | endBranchForm | endBranchReg | endBranchRm
  | group8 | group9Form | group9Memory | group9Register
  | group15Form | group15Memory | group15Register
  | moveSingle10 | moveDouble10 | moveSingle11 | moveDouble11 | moveLow12 | moveHigh16
  | mmxGroup12 | vectorGroup12 | mmxGroup13 | vectorGroup13 | mmxGroup14 | vectorGroup14
  | vex77 | length77 | group17
  deriving DecidableEq, Repr, Inhabited

namespace Block

def all : List Block := [
  primary, map0F, map0F38, map0F3A,
  slots0F, slots0F38, slots0F3A,
  mode63, slots90,
  group1At80, group1At81, group1At82, group1At83, group1AAt8F,
  group2AtC0, group2AtC1, group2AtD0, group2AtD1, group2AtD2, group2AtD3,
  group11AtC6, group11AtC7, group3AtF6, group3AtF7, group4, group5,
  escapeD8, escapeD9, escapeDA, escapeDB, escapeDC, escapeDD, escapeDE, escapeDF,
  group6, group7Form, group7Memory, group7Register, group7Rm1, group7Rm2, group7Rm7,
  groupP, form18, group16, endBranchForm, endBranchReg, endBranchRm,
  group8, group9Form, group9Memory, group9Register,
  group15Form, group15Memory, group15Register,
  moveSingle10, moveDouble10, moveSingle11, moveDouble11, moveLow12, moveHigh16,
  mmxGroup12, vectorGroup12, mmxGroup13, vectorGroup13, mmxGroup14, vectorGroup14,
  vex77, length77, group17]

def length : Block → Nat
  | primary | map0F | map0F38 | map0F3A => 256
  | slots0F | slots0F38 | slots0F3A => 1024
  | slots90 => 4
  | escapeD8 | escapeD9 | escapeDA | escapeDB | escapeDC | escapeDD | escapeDE | escapeDF => 72
  | mode63 | group7Form | form18 | endBranchForm | group9Form | group15Form | moveSingle10
  | moveDouble10 | moveSingle11 | moveDouble11 | moveLow12 | moveHigh16 | vex77 | length77 => 2
  | _ => 8

def base (b : Block) : Nat := ((all.takeWhile (· != b)).map length).foldl (· + ·) 0

def total : Nat := (all.map length).foldl (· + ·) 0

end Block

inductive Cell where
  | undefined
  | leaf (e : Entry)
  | link (s : Selector) (base : Nat)
  deriving DecidableEq, Inhabited

namespace Cell

def isDefined : Cell → Bool
  | undefined => false
  | _ => true

def isLink : Cell → Bool
  | link _ _ => true
  | _ => false

def via (s : Selector) (b : Block) : Cell := link s b.base

def ofTree : DecodeTree → Cell
  | .leaf e => leaf e
  | _ => undefined

instance : Coe DecodeTree Cell := ⟨ofTree⟩

end Cell

abbrev FlatTable := List Cell

def OpcodeMap.block : OpcodeMap → Block
  | primary => .primary
  | map0F => .map0F
  | map0F38 => .map0F38
  | map0F3A => .map0F3A

def Opcode.place (o : Opcode) : Nat := o.map.block.base + o.byte.toNat

end X86
