/-! Text in pieces that say what they are. Instructions are written as lists of pieces; what becomes
of them is up to the reader. -/

namespace X86

inductive PieceKind where
  | text | prefixName | mnemonic | register | immediate | displacement | relative | separator
  | symbol
  deriving DecidableEq, Repr, Inhabited

structure Piece where
  kind : PieceKind
  text : String
  deriving DecidableEq, Repr, Inhabited

namespace Piece

def plain (ps : List Piece) : String := String.join (ps.map text)

end Piece

end X86
