import X86.Opcode.Fpu

/-! The one-byte opcode map, a row for each high digit of the opcode. The opcodes of prefixes and of
escapes to other maps have no instruction here. -/

namespace X86.OpcodeTable

open Mnemonic Mnemonic.General

def arithmetic (store : Mnemonic → List OperandShape → DecodeTree) (m : Mnemonic) :
    List DecodeTree :=
  [store m [Eb, Gb], store m [Ev, Gv], op m [Gb, Eb], op m [Gv, Ev], op m [AL, Ib], op m [rAX, Iz]]

/-- Arithmetic with an immediate; a comparison writes nothing and cannot be locked. -/
def immediateGroup (operands : List OperandShape) : DecodeTree :=
  group (atomic ADD operands) (atomic OR operands) (atomic ADC operands) (atomic SBB operands)
    (atomic AND operands) (atomic SUB operands) (atomic XOR operands) (op CMP operands)

def immediateGroup82 : DecodeTree :=
  let store (m : Mnemonic) : DecodeTree :=
    .leaf { mnemonic := m, operands := [Eb, Ib], lockable := true, availability := .notIn64 }
  group (store ADD) (store OR) (store ADC) (store SBB) (store AND) (store SUB) (store XOR)
    (only32 CMP [Eb, Ib])

def shiftGroup (operands : List OperandShape) : DecodeTree :=
  group (op ROL operands) (op ROR operands) (op RCL operands) (op RCR operands) (op SHL operands)
    (op SHR operands) (op SAL operands) (op SAR operands)

def unaryGroup (rm immediate : OperandShape) : DecodeTree :=
  group (op TEST [rm, immediate]) (op TEST [rm, immediate]) (atomic NOT [rm]) (atomic NEG [rm])
    (op MUL [rm]) (op IMUL [rm]) (op DIV [rm]) (op IDIV [rm])

def exchangeOrNop : DecodeTree :=
  .leaf { mnemonic := NOP, operands := [Zv, rAX], exception := .exchangeOrNop }

def loadSegment : DecodeTree :=
  .leaf { mnemonic := MOV, operands := [Sw, Ew], exception := .loadsSegment }

def jumps (distance : OperandShape) : List DecodeTree :=
  [JO, JNO, JB, JAE, JZ, JNZ, JBE, JA, JS, JNS, JP, JNP, JL, JGE, JLE, JG].map fun m =>
    branch (Mnemonic.general m) [distance]

def primary0 : List DecodeTree :=
  arithmetic atomic ADD ++ [only32 PUSH [ES], only32 POP [ES]] ++
    arithmetic atomic OR ++ [only32 PUSH [CS], ud]

def primary1 : List DecodeTree :=
  arithmetic atomic ADC ++ [only32 PUSH [SS], only32 POP [SS]] ++
    arithmetic atomic SBB ++ [only32 PUSH [DS], only32 POP [DS]]

def primary2 : List DecodeTree :=
  arithmetic atomic AND ++ [ud, only32 DAA []] ++ arithmetic atomic SUB ++ [ud, only32 DAS []]

def primary3 : List DecodeTree :=
  arithmetic atomic XOR ++ [ud, only32 AAA []] ++ arithmetic op CMP ++ [ud, only32 AAS []]

def primary4 : List DecodeTree :=
  List.replicate 8 (only32 INC [Zv]) ++ List.replicate 8 (only32 DEC [Zv])

def primary5 : List DecodeTree :=
  List.replicate 8 (push PUSH [Zv]) ++ List.replicate 8 (push POP [Zv])

def primary6 : List DecodeTree := [
  only32 PUSHA [], only32 POPA [], only32 BOUND [Gv, Ma],
  .byMode (op ARPL [Ew, Gw]) (op MOVSXD [Gv, Ed]),
  ud, ud, ud, ud,
  push PUSH [Iz], op IMUL [Gv, Ev, Iz], push PUSH [Sb], op IMUL [Gv, Ev, Sb],
  repeated INSB, repeated INSW, repeated OUTSB, repeated OUTSW]

def primary8 : List DecodeTree := [
  immediateGroup [Eb, Ib], immediateGroup [Ev, Iz], immediateGroup82, immediateGroup [Ev, Sb],
  op TEST [Eb, Gb], op TEST [Ev, Gv], atomic XCHG [Eb, Gb], atomic XCHG [Ev, Gv],
  op MOV [Eb, Gb], op MOV [Ev, Gv], op MOV [Gb, Eb], op MOV [Gv, Ev],
  op MOV [EwRv, Sw], op LEA [Gv, M], loadSegment, group (push POP [Ev]) ud ud ud ud ud ud ud]

def primary9 : List DecodeTree :=
  [slots exchangeOrNop ud (op PAUSE []) ud] ++ List.replicate 7 (op XCHG [Zv, rAX]) ++
    [op CBW [], op CWD [], only32 CALLF [Ap], op WAIT [], push PUSHF [], push POPF [], op SAHF [],
      op LAHF []]

def primaryA : List DecodeTree := [
  op MOV [AL, Ob], op MOV [rAX, Ov], op MOV [Ob, AL], op MOV [Ov, rAX],
  repeated MOVSB, repeated MOVSW, op CMPSB [], op CMPSW [],
  op TEST [AL, Ib], op TEST [rAX, Iz], repeated STOSB, repeated STOSW,
  repeated LODSB, repeated LODSW, op SCASB [], op SCASW []]

def primaryB : List DecodeTree :=
  List.replicate 8 (op MOV [Zb, Ib]) ++ List.replicate 8 (op MOV [Zv, Iv])

def primaryC : List DecodeTree := [
  shiftGroup [Eb, Ib], shiftGroup [Ev, Ib], branch RET [Iw], branch RET [],
  only32 LES [Gv, Mp], only32 LDS [Gv, Mp],
  group (op MOV [Eb, Ib]) ud ud ud ud ud ud ud, group (op MOV [Ev, Iz]) ud ud ud ud ud ud ud,
  push ENTER [Iw, Ib], push LEAVE [], op RETF [Iw], op RETF [],
  op INT3 [], op INT [Ib], only32 INTO [], op System.IRET []]

def primaryD : List DecodeTree := [
  shiftGroup [Eb, .one], shiftGroup [Ev, .one], shiftGroup [Eb, CL], shiftGroup [Ev, CL],
  only32 AAM [Ib], only32 AAD [Ib], only32 SALC [], op XLAT [],
  escapeD8, escapeD9, escapeDA, escapeDB, escapeDC, escapeDD, escapeDE, escapeDF]

def primaryE : List DecodeTree := [
  branch LOOPNE [Jb], branch LOOPE [Jb], branch LOOP [Jb], branch JCXZ [Jb],
  op IN [AL, Ib], op IN [eAX, Ib], op OUT [Ib, AL], op OUT [Ib, eAX],
  branch CALL [Jz], branch JMP [Jz], only32 JMPF [Ap], branch JMP [Jb],
  op IN [AL, DX], op IN [eAX, DX], op OUT [DX, AL], op OUT [DX, eAX]]

def primaryF : List DecodeTree := [
  ud, op INT1 [], ud, ud, op System.HLT [], op CMC [], unaryGroup Eb Ib, unaryGroup Ev Iz,
  op CLC [], op STC [], op System.CLI [], op System.STI [], op CLD [], op STD [],
  group (atomic INC [Eb]) (atomic DEC [Eb]) ud ud ud ud ud ud,
  group (atomic INC [Ev]) (atomic DEC [Ev]) (indirect CALL [Ev]) (op CALLF [Mp])
    (indirect JMP [Ev]) (op JMPF [Mp]) (push PUSH [Ev]) ud]

def primary : List DecodeTree :=
  primary0 ++ primary1 ++ primary2 ++ primary3 ++ primary4 ++ primary5 ++ primary6 ++ jumps Jb ++
    primary8 ++ primary9 ++ primaryA ++ primaryB ++ primaryC ++ primaryD ++ primaryE ++ primaryF

end X86.OpcodeTable
