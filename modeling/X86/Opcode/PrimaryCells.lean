import X86.Opcode.Filling
import X86.Opcode.Primary

namespace X86.OpcodeTable

open Mnemonic Mnemonic.General

def atomic32 (m : Mnemonic) (operands : List OperandShape) : DecodeTree :=
  .leaf { mnemonic := m, operands := operands, lockable := true, availability := .notIn64 }

def groupCells (b : Block) (ms : List Mnemonic) (build : Mnemonic → DecodeTree) : List FillStep :=
  block b (run 0 (ms.map build))

def group1Cells (b : Block) (store compare : Mnemonic → List OperandShape → DecodeTree)
    (operands : List OperandShape) : List FillStep :=
  groupCells b [ADD, OR, ADC, SBB, AND, SUB, XOR, CMP] fun m =>
    if m = CMP then compare m operands else store m operands

def group2Cells (b : Block) (operands : List OperandShape) : List FillStep :=
  groupCells b [ROL, ROR, RCL, RCR, SHL, SHR, SAL, SAR] fun m => op m operands

def group3Cells (b : Block) (rm immediate : OperandShape) : List FillStep :=
  block b [(0, op TEST [rm, immediate]), (1, op TEST [rm, immediate]), (2, atomic NOT [rm]),
    (3, atomic NEG [rm]), (4, op MUL [rm]), (5, op IMUL [rm]), (6, op DIV [rm]), (7, op IDIV [rm])]

def primaryCells0 : List (Nat × Cell) := List.flatten [
  run 0x00 (arithmetic atomic ADD), run 0x08 (arithmetic atomic OR),
  run 0x10 (arithmetic atomic ADC), run 0x18 (arithmetic atomic SBB),
  run 0x20 (arithmetic atomic AND), run 0x28 (arithmetic atomic SUB),
  run 0x30 (arithmetic atomic XOR), run 0x38 (arithmetic op CMP),
  [(0x06, only32 PUSH [ES]), (0x07, only32 POP [ES]), (0x0E, only32 PUSH [CS]),
    (0x16, only32 PUSH [SS]), (0x17, only32 POP [SS]), (0x1E, only32 PUSH [DS]),
    (0x1F, only32 POP [DS]), (0x27, only32 DAA []), (0x2F, only32 DAS []), (0x37, only32 AAA []),
    (0x3F, only32 AAS [])]]

def primaryCells1 : List (Nat × Cell) := List.flatten [
  run 0x40 (List.replicate 8 (only32 INC [Zv])), run 0x48 (List.replicate 8 (only32 DEC [Zv])),
  run 0x50 (List.replicate 8 (push PUSH [Zv])), run 0x58 (List.replicate 8 (push POP [Zv])),
  run 0xB0 (List.replicate 8 (op MOV [Zb, Ib])), run 0xB8 (List.replicate 8 (op MOV [Zv, Iv])),
  run 0x91 (List.replicate 7 (op XCHG [Zv, rAX]))]

def primaryCells2 : List (Nat × Cell) := List.flatten [
  [(0x60, only32 PUSHA []), (0x61, only32 POPA []), (0x62, only32 BOUND [Gv, Ma]),
    (0x63, .via .mode .mode63), (0x68, push PUSH [Iz]), (0x69, op IMUL [Gv, Ev, Iz]),
    (0x6A, push PUSH [Sb]), (0x6B, op IMUL [Gv, Ev, Sb]), (0x6C, repeated INSB),
    (0x6D, repeated INSW), (0x6E, repeated OUTSB), (0x6F, repeated OUTSW)],
  run 0x70 (jumps Jb),
  [(0x80, .via .reg .group1At80), (0x81, .via .reg .group1At81), (0x82, .via .reg .group1At82),
    (0x83, .via .reg .group1At83), (0x84, op TEST [Eb, Gb]), (0x85, op TEST [Ev, Gv]),
    (0x86, atomic XCHG [Eb, Gb]), (0x87, atomic XCHG [Ev, Gv]), (0x88, op MOV [Eb, Gb]),
    (0x89, op MOV [Ev, Gv]), (0x8A, op MOV [Gb, Eb]), (0x8B, op MOV [Gv, Ev]),
    (0x8C, op MOV [EwRv, Sw]), (0x8D, op LEA [Gv, M]), (0x8E, loadSegment),
    (0x8F, .via .reg .group1AAt8F)],
  [(0x90, .via .slot .slots90), (0x98, op CBW []), (0x99, op CWD []), (0x9A, only32 CALLF [Ap]),
    (0x9B, op WAIT []), (0x9C, push PUSHF []), (0x9D, push POPF []), (0x9E, op SAHF []),
    (0x9F, op LAHF [])],
  [(0xA0, op MOV [AL, Ob]), (0xA1, op MOV [rAX, Ov]), (0xA2, op MOV [Ob, AL]),
    (0xA3, op MOV [Ov, rAX]), (0xA4, repeated MOVSB), (0xA5, repeated MOVSW), (0xA6, op CMPSB []),
    (0xA7, op CMPSW []), (0xA8, op TEST [AL, Ib]), (0xA9, op TEST [rAX, Iz]),
    (0xAA, repeated STOSB), (0xAB, repeated STOSW), (0xAC, repeated LODSB), (0xAD, repeated LODSW),
    (0xAE, op SCASB []), (0xAF, op SCASW [])]]

def primaryCells3 : List (Nat × Cell) := List.flatten [
  [(0xC0, .via .reg .group2AtC0), (0xC1, .via .reg .group2AtC1), (0xC2, branch RET [Iw]),
    (0xC3, branch RET []), (0xC4, only32 LES [Gv, Mp]), (0xC5, only32 LDS [Gv, Mp]),
    (0xC6, .via .reg .group11AtC6), (0xC7, .via .reg .group11AtC7), (0xC8, push ENTER [Iw, Ib]),
    (0xC9, push LEAVE []), (0xCA, op RETF [Iw]), (0xCB, op RETF []), (0xCC, op INT3 []),
    (0xCD, op INT [Ib]), (0xCE, only32 INTO []), (0xCF, op System.IRET [])],
  [(0xD0, .via .reg .group2AtD0), (0xD1, .via .reg .group2AtD1), (0xD2, .via .reg .group2AtD2),
    (0xD3, .via .reg .group2AtD3), (0xD4, only32 AAM [Ib]), (0xD5, only32 AAD [Ib]),
    (0xD6, only32 SALC []), (0xD7, op XLAT []), (0xD8, .via .escape .escapeD8),
    (0xD9, .via .escape .escapeD9), (0xDA, .via .escape .escapeDA), (0xDB, .via .escape .escapeDB),
    (0xDC, .via .escape .escapeDC), (0xDD, .via .escape .escapeDD), (0xDE, .via .escape .escapeDE),
    (0xDF, .via .escape .escapeDF)],
  [(0xE0, branch LOOPNE [Jb]), (0xE1, branch LOOPE [Jb]), (0xE2, branch LOOP [Jb]),
    (0xE3, branch JCXZ [Jb]), (0xE4, op IN [AL, Ib]), (0xE5, op IN [eAX, Ib]),
    (0xE6, op OUT [Ib, AL]), (0xE7, op OUT [Ib, eAX]), (0xE8, branch CALL [Jz]),
    (0xE9, branch JMP [Jz]), (0xEA, only32 JMPF [Ap]), (0xEB, branch JMP [Jb]),
    (0xEC, op IN [AL, DX]), (0xED, op IN [eAX, DX]), (0xEE, op OUT [DX, AL]),
    (0xEF, op OUT [DX, eAX])],
  [(0xF1, op INT1 []), (0xF4, op System.HLT []), (0xF5, op CMC []), (0xF6, .via .reg .group3AtF6),
    (0xF7, .via .reg .group3AtF7), (0xF8, op CLC []), (0xF9, op STC []), (0xFA, op System.CLI []),
    (0xFB, op System.STI []), (0xFC, op CLD []), (0xFD, op STD []), (0xFE, .via .reg .group4),
    (0xFF, .via .reg .group5)]]

def primaryGroups : List FillStep := List.flatten [
  block .mode63 [(0, op ARPL [Ew, Gw]), (1, op MOVSXD [Gv, Ed])],
  block .slots90 [(PrefixSlot.plain.number, exchangeOrNop), (PrefixSlot.pF3.number, op PAUSE [])],
  group1Cells .group1At80 atomic op [Eb, Ib], group1Cells .group1At81 atomic op [Ev, Iz],
  group1Cells .group1At82 atomic32 only32 [Eb, Ib], group1Cells .group1At83 atomic op [Ev, Sb],
  block .group1AAt8F [(0, push POP [Ev])],
  group2Cells .group2AtC0 [Eb, Ib], group2Cells .group2AtC1 [Ev, Ib],
  group2Cells .group2AtD0 [Eb, .one], group2Cells .group2AtD1 [Ev, .one],
  group2Cells .group2AtD2 [Eb, CL], group2Cells .group2AtD3 [Ev, CL],
  block .group11AtC6 [(0, op MOV [Eb, Ib])], block .group11AtC7 [(0, op MOV [Ev, Iz])],
  group3Cells .group3AtF6 Eb Ib, group3Cells .group3AtF7 Ev Iz,
  block .group4 [(0, atomic INC [Eb]), (1, atomic DEC [Eb])],
  block .group5 [(0, atomic INC [Ev]), (1, atomic DEC [Ev]), (2, indirect CALL [Ev]),
    (3, op CALLF [Mp]), (4, indirect JMP [Ev]), (5, op JMPF [Mp]), (6, push PUSH [Ev])]]

def fillPrimary : List FillStep :=
  block .primary (primaryCells0 ++ primaryCells1 ++ primaryCells2 ++ primaryCells3) ++ primaryGroups

end X86.OpcodeTable
