import X86.Instruction
import X86.Text.Number
import X86.Text.Piece

/-! Instructions in the two customary dialects: the destination first and sizes beside the operands,
or the source first and sizes behind the mnemonic. -/

namespace X86

inductive Dialect where
  | intel | att
  deriving DecidableEq, Repr, Inhabited

structure FormatOptions where
  uppercase : Bool := false
  mnemonicOnly : Bool := false
  address : Option Nat := none
  deriving DecidableEq, Repr, Inhabited

namespace Format

def prefixNames : List (Flags × String) :=
  [(.lock, "lock"), (.rep, "rep"), (.repz, "repz"), (.repnz, "repnz"), (.bnd, "bnd")]

def prefixes (i : Instruction) : List Piece :=
  prefixNames.flatMap fun (flag, name) =>
    if i.flags.meets flag then [⟨.prefixName, name⟩, ⟨.separator, " "⟩] else []

def mnemonic (options : FormatOptions) (name : String) : Piece :=
  ⟨.mnemonic, if options.uppercase then name.toUpper else name⟩

def relative (options : FormatOptions) (i : Instruction) (here : String) (distance : Int) : Piece :=
  match options.address.bind i.branchTarget? with
  | some target => ⟨.relative, Number.hex target⟩
  | none => ⟨.relative, here ++ Number.offset (Int.bmod (i.length + distance) (1 <<< 64))⟩

def immediateText (value : Int) (width : Size) : String := Number.hex (width.truncate value)

def absoluteText (i : Instruction) (m : Memory) : String :=
  Number.hex (i.addressSize.truncate m.displacement)

def separated (separator : String) (operands : List (List Piece)) : List Piece :=
  (operands.intersperse [⟨.separator, separator⟩]).flatten

end Format

end X86
