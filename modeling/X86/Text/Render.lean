import X86.Text.Att
import X86.Text.Intel

namespace X86

namespace Dialect

def name : Dialect → Instruction → String
  | intel => Format.Intel.name
  | att => Format.Att.name

def operands : Dialect → FormatOptions → Instruction → List Piece
  | intel => Format.Intel.operands
  | att => Format.Att.operands

end Dialect

def Instruction.render (dialect : Dialect) (options : FormatOptions) (i : Instruction) :
    List Piece :=
  let name := Format.mnemonic options (dialect.name i)
  if options.mnemonicOnly then [name]
  else
    Format.prefixes i ++ name ::
      if i.operands.isEmpty then [] else ⟨.separator, " "⟩ :: dialect.operands options i

def Instruction.text (dialect : Dialect) (options : FormatOptions) (i : Instruction) : String :=
  Piece.plain (i.render dialect options)

namespace Data

def more (bs : List UInt8) : List Piece :=
  bs.flatMap fun b => [⟨.separator, ", "⟩, ⟨.immediate, "0x" ++ Number.byteDigits b⟩]

def render : List UInt8 → List Piece
  | [] => [⟨.mnemonic, "db"⟩]
  | b :: bs =>
    [⟨.mnemonic, "db"⟩, ⟨.separator, " "⟩, ⟨.immediate, "0x" ++ Number.byteDigits b⟩] ++ more bs

def text (bs : List UInt8) : String := Piece.plain (render bs)

end Data

end X86
