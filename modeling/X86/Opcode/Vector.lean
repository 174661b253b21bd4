import X86.Opcode.Vocabulary

namespace X86.OpcodeTable

/-- The MMX instruction without a prefix, and the vector instruction with 66. -/
def packed (m : Mnemonic) : DecodeTree := slots (op m [Pq, Qq]) (vex m [Vx, Hx, Wx]) ud ud

def packedUnary (m : Mnemonic) : DecodeTree := slots (op m [Pq, Qq]) (vex m [Vx, Wx]) ud ud

def packedShift (m : Mnemonic) : DecodeTree := slots (op m [Pq, Qq]) (vex m [Vx, Hx, Wo]) ud ud

def packedFloats (single double : Mnemonic) : DecodeTree :=
  slots (vex single [Vx, Hx, Wx]) (vex double [Vx, Hx, Wx]) ud ud

def floats (packedSingle packedDouble single double : Mnemonic) : DecodeTree :=
  slots (vex packedSingle [Vx, Hx, Wx]) (vex packedDouble [Vx, Hx, Wx]) (vex single [Vo, Ho, Wd])
    (vex double [Vo, Ho, Wq])

end X86.OpcodeTable
