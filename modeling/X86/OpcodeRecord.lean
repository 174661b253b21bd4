import X86.Opcode.Table

namespace X86

/-- The selectors on the way to an instruction; those that were not asked for are missing. -/
structure DecodePath where
  reg : Option (Fin 8) := none
  isRegister : Option Bool := none
  slot : Option PrefixSlot := none
  vex : Option Bool := none
  long : Option Bool := none
  modrm : Bool := false
  deriving DecidableEq, Inhabited

structure Leaf where
  path : DecodePath
  entry : Entry
  deriving DecidableEq, Inhabited

def DecodeTree.leaves : DecodeTree → DecodePath → List Leaf
  | undefined, _ => []
  | leaf e, p => [⟨p, e⟩]
  | byReg next, p =>
    (List.finRange 8).flatMap fun r => (next r).leaves { p with reg := some r, modrm := true }
  | byForm memory register, p =>
    memory.leaves { p with isRegister := some false, modrm := true } ++
      register.leaves { p with isRegister := some true, modrm := true }
  | byRm next, p => (List.finRange 8).flatMap fun r => (next r).leaves { p with modrm := true }
  | bySlot next, p => PrefixSlot.all.flatMap fun s => (next s).leaves { p with slot := some s }
  | byMode legacy long, p =>
    legacy.leaves { p with long := some false } ++ long.leaves { p with long := some true }
  | byVex legacy vex, p =>
    legacy.leaves { p with vex := some false } ++ vex.leaves { p with vex := some true }
  | byVexLength short long, p => short.leaves p ++ long.leaves { p with vex := some true }

namespace Leaf

def usesModRM (l : Leaf) : Bool := l.path.modrm || l.entry.usesModRM

def hasExtension (l : Leaf) (r : Fin 8) : Bool :=
  l.usesModRM && (l.path.reg.isNone || l.path.reg == some r)

def hasRegisterForm (l : Leaf) : Bool :=
  l.usesModRM && l.entry.allowsRegister && l.path.isRegister != some false

def hasMemoryForm (l : Leaf) : Bool :=
  l.usesModRM && l.entry.allowsMemory && l.path.isRegister != some true

def slot (l : Leaf) : PrefixSlot := l.path.slot.getD .plain

def hasLegacy (l : Leaf) : Bool := l.entry.vexUse != .required && l.path.vex != some true

def hasVex (l : Leaf) : Bool := l.entry.vexUse != .never && l.path.vex != some false

def validIn64 (l : Leaf) : Bool := l.entry.availability != .notIn64 && l.path.long != some false

def validOutside64 (l : Leaf) : Bool :=
  l.entry.availability != .onlyIn64 && l.path.long != some true

end Leaf

/-- Facts about an opcode; each holds of some instruction under it. -/
structure OpcodeRecord where
  opcode : Opcode
  hasModRM : Bool
  extensions : List (Fin 8)
  registerForm : Bool
  memoryForm : Bool
  slots : List PrefixSlot
  legacy : Bool
  vex : Bool
  shortVex : Bool
  usesVexRegister : Bool
  validIn64 : Bool
  validOutside64 : Bool
  lockable : Bool
  classOf : MnemonicClass
  deriving DecidableEq, Inhabited

namespace OpcodeRecord

def ofLeaves (o : Opcode) (first : Leaf) (ls : List Leaf) : OpcodeRecord where
  opcode := o
  hasModRM := ls.any Leaf.usesModRM
  extensions := (List.finRange 8).filter fun r => ls.any fun l => l.hasExtension r
  registerForm := ls.any Leaf.hasRegisterForm
  memoryForm := ls.any Leaf.hasMemoryForm
  slots := PrefixSlot.all.filter fun s => ls.any fun l => l.slot == s
  legacy := ls.any Leaf.hasLegacy
  vex := ls.any Leaf.hasVex
  shortVex := ls.any fun l => l.hasVex && l.entry.shortVex
  usesVexRegister := ls.any fun l => l.hasVex && l.entry.usesVexRegister
  validIn64 := ls.any Leaf.validIn64
  validOutside64 := ls.any Leaf.validOutside64
  lockable := ls.any fun l => l.entry.lockable
  classOf := first.entry.mnemonic.classOf

def ofOpcode? (o : Opcode) : Option OpcodeRecord :=
  match o.tree.leaves {} with
  | [] => none
  | first :: rest => some (ofLeaves o first (first :: rest))

def ofMap (m : OpcodeMap) : List OpcodeRecord := (Opcode.ofMap m).filterMap ofOpcode?

def all : List OpcodeRecord := Opcode.all.filterMap ofOpcode?

end OpcodeRecord

end X86
