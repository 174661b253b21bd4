import X86.Text.Piece

/-! Colors of a terminal: pieces that carry meaning, and brackets, are painted with escape
sequences. -/

namespace X86

inductive Color where
  | magenta | cyan | green | yellow | brightBlue
  deriving DecidableEq, Repr, Inhabited

namespace Color

def code : Color → Nat
  | magenta => 35
  | cyan => 36
  | green => 32
  | yellow => 33
  | brightBlue => 94

def escape (code : Nat) : List Char := '\x1b' :: '[' :: (toString code).toList ++ ['m']

def reset : List Char := escape 0

def resume (mark : List Char) : List Char → List Char
  | '\x1b' :: '[' :: '0' :: 'm' :: cs => reset ++ mark ++ resume mark cs
  | c :: cs => c :: resume mark cs
  | [] => []

/-- A text in a color. Where the text itself ends all colors, the color goes on. -/
def paint (color : Color) (t : String) : String :=
  let mark := escape color.code
  String.ofList (mark ++ resume mark t.toList ++ reset)

end Color

namespace Piece

def color? (p : Piece) : Option Color :=
  match p.kind with
  | .prefixName => some .magenta
  | .mnemonic => some .cyan
  | .register => some .green
  | .immediate | .displacement | .relative => some .yellow
  | .separator =>
    if p.text = "[" ∨ p.text = "]" ∨ p.text = "(" ∨ p.text = ")" then some .brightBlue else none
  | .text | .symbol => none

variable (paint : Color → String → String)

def paintedBy (p : Piece) : String :=
  match p.color? with
  | some c => paint c p.text
  | none => p.text

def coloredBy (ps : List Piece) : String := String.join (ps.map (paintedBy paint))

def colored (ps : List Piece) : String := coloredBy Color.paint ps

end Piece

end X86
