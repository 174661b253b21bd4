import X86.Text.Format

/-! The dialect that writes `size ptr segment:[base+index*scale+displacement]` and the destination
first. -/

namespace X86.Format.Intel

def segment (i : Instruction) : List Piece :=
  match i.segment with
  | some s => [⟨.register, s.name⟩, ⟨.separator, ":"⟩]
  | none => []

def width (m : Memory) : List Piece :=
  match m.width.keyword? with
  | some word => [⟨.text, word⟩, ⟨.text, " ptr "⟩]
  | none => []

def base (m : Memory) : List Piece :=
  match m.base with
  | some r => [⟨.register, r.name⟩]
  | none => []

def index (m : Memory) : List Piece :=
  match m.index with
  | some r =>
    (if m.base.isSome then [⟨.symbol, "+"⟩] else []) ++ [⟨.register, r.name⟩] ++
      if 1 < m.scale then [⟨.symbol, "*"⟩, ⟨.text, toString m.scale⟩] else []
  | none => []

def displacement (i : Instruction) (m : Memory) : List Piece :=
  if m.isAbsolute then [⟨.displacement, absoluteText i m⟩]
  else if m.displacement = 0 then []
  else [⟨.symbol, if m.displacement < 0 then "-" else "+"⟩,
    ⟨.displacement, Number.hex m.displacement.natAbs⟩]

def memory (i : Instruction) (m : Memory) : List Piece :=
  width m ++ segment i ++ [⟨.separator, "["⟩] ++ base m ++ index m ++ displacement i m ++
    [⟨.separator, "]"⟩]

def operand (options : FormatOptions) (i : Instruction) : Operand → List Piece
  | .register r => [⟨.register, r.name⟩]
  | .immediate v w => [⟨.immediate, immediateText v w⟩]
  | .memory m => memory i m
  | .short d => [relative options i "$" d]
  | .near _ d => [relative options i "$" d]
  | .far _ selector offset =>
    [⟨.immediate, Number.hex selector⟩, ⟨.separator, ":"⟩, ⟨.immediate, Number.hex offset.toNat⟩]

def operands (options : FormatOptions) (i : Instruction) : List Piece :=
  separated ", " (i.operands.map (operand options i))

def name (i : Instruction) : String := i.name

end X86.Format.Intel
