import X86.Decoder
import X86.Image
import X86.Text.Color
import X86.Text.Render

/-! Listings of code: a line for each instruction, and for bytes that are none, with its address and
its bytes. -/

namespace X86

namespace Listing

structure Options where
  decoder : DecoderOptions
  dialect : Dialect := .intel
  colors : Bool := false
  labels : Bool := true
  deriving DecidableEq, Repr, Inhabited

structure Line where
  label : Option String
  address : Nat
  bytes : List UInt8
  text : String
  deriving DecidableEq, Repr, Inhabited

def addressWidth (mode : Mode) : Nat := if mode.isLong then 16 else 8

def bytesWidth : Nat := 30

def addressText (mode : Mode) (address : Nat) : String :=
  Number.padded (addressWidth mode) (Number.hexDigits address)

def column (width : Nat) (t : String) : String :=
  t ++ String.ofList (List.replicate (width - t.length) ' ')

def Line.toText (mode : Mode) (l : Line) : String :=
  let label :=
    match l.label with
    | some name => "\n" ++ addressText mode l.address ++ " <" ++ name ++ ">:\n"
    | none => ""
  label ++ "  " ++ addressText mode l.address ++ "  " ++
    column bytesWidth (Number.bytesDigits l.bytes) ++ "  " ++ l.text ++ "\n"

variable (paint : Color → String → String)

def instructionText (o : Options) (address : Nat) (i : Instruction) : String :=
  let pieces := i.render o.dialect { address := some address }
  if o.colors then Piece.coloredBy paint pieces else Piece.plain pieces

def line (o : Options) (image : Image) (s : CodeSection) (bytes : List UInt8)
    (item : Decoder.Item) : Line :=
  let address := (s.address + item.1) % (1 <<< 64)
  { label := if o.labels then image.nameAt? address else none
    address := address
    bytes := bytes
    text :=
      match item.2 with
      | .ok i => instructionText paint o address i
      | .error _ => Data.text bytes }

def linesOf (o : Options) (image : Image) (s : CodeSection) :
    List Decoder.Item → List UInt8 → List Line
  | [], _ => []
  | item :: items, bytes =>
    let n := Decoder.itemLength item.2
    line paint o image s (bytes.take n) item :: linesOf o image s items (bytes.drop n)

def lines (o : Options) (image : Image) (s : CodeSection) : List Line :=
  linesOf paint o image s (Decoder.start o.decoder s.data).sweep s.data

def sectionText (o : Options) (image : Image) (s : CodeSection) : String :=
  "\nDisassembly of section " ++ s.name ++ ":\n" ++
    String.join ((lines paint o image s).map (Line.toText o.decoder.mode))

def text (o : Options) (image : Image) : String :=
  String.join (image.sections.map (sectionText paint o image))

end Listing

end X86
