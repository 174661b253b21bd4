import X86.Text.Piece

/-! Tokens: pieces sorted into those that carry meaning and those that only set them apart. -/

namespace X86

inductive SemanticKind where
  | prefixName | mnemonic | register | immediate | displacement | relative
  deriving DecidableEq, Repr, Inhabited

inductive Token where
  | semantic (kind : SemanticKind) (text : String)
  | openBracket | closeBracket | openParen | closeParen
  | plus | minus | multiply | comma | colon
  | whitespace (text : String)
  | text (text : String)
  deriving DecidableEq, Repr, Inhabited

def isBlank (c : Char) : Bool :=
  let n := c.toNat
  (9 ≤ n && n ≤ 13) || n == 0x20 || n == 0x85 || n == 0xA0 || n == 0x1680 ||
    (0x2000 ≤ n && n ≤ 0x200A) || n == 0x2028 || n == 0x2029 || n == 0x202F || n == 0x205F ||
    n == 0x3000

namespace Token

def toText : Token → String
  | semantic _ t => t
  | openBracket => "["
  | closeBracket => "]"
  | openParen => "("
  | closeParen => ")"
  | plus => "+"
  | minus => "-"
  | multiply => "*"
  | comma => ","
  | colon => ":"
  | whitespace t => t
  | text t => t

def ofSeparator (t : String) : List Token :=
  if t = "[" then [openBracket]
  else if t = "]" then [closeBracket]
  else if t = "(" then [openParen]
  else if t = ")" then [closeParen]
  else if t = ":" then [colon]
  else if t = "," then [comma]
  else if t = ", " then [comma, whitespace " "]
  else if t.toList.all isBlank then [whitespace t]
  else [text t]

def ofSymbol (t : String) : Token :=
  if t = "+" then plus
  else if t = "-" then minus
  else if t = "*" then multiply
  else text t

def ofPiece (p : Piece) : List Token :=
  match p.kind with
  | .text => [text p.text]
  | .prefixName => [semantic .prefixName p.text]
  | .mnemonic => [semantic .mnemonic p.text]
  | .register => [semantic .register p.text]
  | .immediate => [semantic .immediate p.text]
  | .displacement => [semantic .displacement p.text]
  | .relative => [semantic .relative p.text]
  | .separator => ofSeparator p.text
  | .symbol => [ofSymbol p.text]

def ofPieces (ps : List Piece) : List Token := ps.flatMap ofPiece

def flat (ts : List Token) : String := String.join (ts.map toText)

def semantic? : Token → Option String
  | semantic _ t => some t
  | _ => none

def meanings (ts : List Token) : List String := ts.filterMap semantic?

end Token

end X86
