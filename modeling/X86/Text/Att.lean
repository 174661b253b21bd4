import X86.Text.Format

/-! The dialect that writes `%register`, `$immediate`, `%segment:displacement(base,index,scale)` and
the source first. -/

namespace X86.Format.Att

def register (r : Register) : Piece := ⟨.register, "%" ++ r.name⟩

def segment (i : Instruction) : List Piece :=
  match i.segment with
  | some s => [register s, ⟨.separator, ":"⟩]
  | none => []

def base (m : Memory) : List Piece :=
  match m.base with
  | some r => [register r]
  | none => []

def index (m : Memory) : List Piece :=
  match m.index with
  | some r => [⟨.separator, ","⟩, register r, ⟨.separator, ","⟩, ⟨.text, toString m.scale⟩]
  | none => []

def displacement (m : Memory) : List Piece :=
  if m.displacement = 0 then [] else [⟨.displacement, Number.displacement m.displacement⟩]

def memory (i : Instruction) (m : Memory) : List Piece :=
  segment i ++
    if m.isAbsolute then [⟨.displacement, absoluteText i m⟩]
    else displacement m ++ [⟨.separator, "("⟩] ++ base m ++ index m ++ [⟨.separator, ")"⟩]

def indirection (i : Instruction) (o : Operand) : List Piece :=
  if i.mnemonic.isTransfer && (o.isRegister || o.isMemory) then [⟨.symbol, "*"⟩] else []

def operand (options : FormatOptions) (i : Instruction) (o : Operand) : List Piece :=
  indirection i o ++
    match o with
    | .register r => [register r]
    | .immediate v w => [⟨.immediate, "$" ++ immediateText v w⟩]
    | .memory m => memory i m
    | .short d => [relative options i "." d]
    | .near _ d => [relative options i "." d]
    | .far _ selector offset =>
      [⟨.immediate, "$" ++ Number.hex selector⟩, ⟨.separator, ","⟩,
        ⟨.immediate, "$" ++ Number.hex offset.toNat⟩]

def operands (options : FormatOptions) (i : Instruction) : List Piece :=
  separated "," (i.operands.reverse.map (operand options i))

/-- The width behind a general-purpose mnemonic whose operands include no register. -/
def suffix? (i : Instruction) : Option Char :=
  if i.vex || i.mnemonic.classOf != .general || i.mnemonic.isTransfer ||
      i.operands.any Operand.isRegister then none
  else i.memory?.bind fun m => m.width.suffix?

def stem (i : Instruction) : String :=
  match i.mnemonic with
  | .general .JMPF => "ljmp"
  | .general .CALLF => "lcall"
  | .general .RETF => "lret"
  | _ => i.name

def name (i : Instruction) : String :=
  match suffix? i with
  | some c => (stem i).push c
  | none => stem i

end X86.Format.Att
