import X86.Opcode.FpuCells
import X86.Opcode.GeneralCells
import X86.Opcode.PrimaryCells
import X86.Opcode.VectorCells

namespace X86

def OpcodeTable.fill : List FillStep :=
  OpcodeTable.fillPrimary ++ OpcodeTable.fillFpu ++ OpcodeTable.fillGeneral ++
    OpcodeTable.fillVector

namespace FlatTable

def opcodes : FlatTable := (OpcodeTable.fill.foldl Filling.step .start).cells

def isDefinedAt (t : FlatTable) (place : Nat) : Bool := t[place]?.any Cell.isDefined

end FlatTable

end X86
