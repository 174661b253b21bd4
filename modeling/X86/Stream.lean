import X86.Text.Color
import X86.Text.Number
import X86.Text.Render

/-! Output in chunks. Bytes wait until there are more of them than a chunk holds, or until they are
flushed. -/

namespace X86

structure Stream where
  chunks : List (List UInt8)
  pending : List UInt8
  deriving DecidableEq, Repr, Inhabited

namespace Stream

def capacity : Nat := 1024

def empty : Stream := ⟨[], []⟩

/-- Full chunks, and what is left. A last full chunk is left too. -/
def chop (bytes : List UInt8) : List (List UInt8) × List UInt8 :=
  if bytes.length ≤ capacity then ([], bytes)
  else
    let (chunks, rest) := chop (bytes.drop capacity)
    (bytes.take capacity :: chunks, rest)
termination_by bytes.length
decreasing_by
  simp only [List.length_drop, capacity] at *
  omega

def write (s : Stream) (bytes : List UInt8) : Stream :=
  let (chunks, rest) := chop (s.pending ++ bytes)
  ⟨s.chunks ++ chunks, rest⟩

def flush (s : Stream) : Stream :=
  if s.pending.isEmpty then s else ⟨s.chunks ++ [s.pending], []⟩

def writeText (s : Stream) (t : String) : Stream := s.write t.toUTF8.toList

def writeInt (s : Stream) (value : Int) (forceSign : Bool) : Stream :=
  s.writeText (Number.decimal forceSign value)

def writeHex (s : Stream) (value width : Nat) : Stream :=
  s.writeText (Number.upperHex width value)

def writePieces (s : Stream) (ps : List Piece) : Stream :=
  ps.foldl (fun s p => s.writeText p.text) s

def writePaintedBy (paint : Color → String → String) (s : Stream) (ps : List Piece) : Stream :=
  ps.foldl (fun s p => s.writeText (p.paintedBy paint)) s

def writeInstructionBy (paint : Color → String → String) (s : Stream) (dialect : Dialect)
    (options : FormatOptions) (colors : Bool) (i : Instruction) : Stream :=
  if colors then s.writePaintedBy paint (i.render dialect options)
  else s.writePieces (i.render dialect options)

def writeInstruction (s : Stream) (dialect : Dialect) (options : FormatOptions) (colors : Bool)
    (i : Instruction) : Stream :=
  s.writeInstructionBy Color.paint dialect options colors i

def writeData (s : Stream) (bytes : List UInt8) : Stream := s.writePieces (Data.render bytes)

end Stream

end X86
