import X86.Opcode
import X86.Opcode.Primary
import X86.Opcode.Map0F
import X86.Opcode.Map0F38
import X86.Opcode.Map0F3A

namespace X86

def OpcodeMap.table : OpcodeMap → List DecodeTree
  | primary => OpcodeTable.primary
  | map0F => OpcodeTable.map0F
  | map0F38 => OpcodeTable.map0F38
  | map0F3A => OpcodeTable.map0F3A

theorem OpcodeMap.length_table (m : OpcodeMap) : m.table.length = 256 := by
  cases m <;> decide +kernel

def Opcode.tree (o : Opcode) : DecodeTree := o.map.table.getD o.byte.toNat .undefined

end X86
