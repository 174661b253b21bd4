import X86.Instruction
import X86.Opcode.Table
import X86.Prefixes

/-! Scanning: which instruction the bytes encode, how long it is, and the sizes and prefixes in
effect. Operands are measured, not read. -/

namespace X86

structure Selection where
  entry : Entry
  modrm : Option ModRM
  slot : Option PrefixSlot
  deriving DecidableEq, Inhabited

/-- The slot among instructions told apart by a mandatory prefix. The slot of a VEX prefix is its
own; a repeat prefix comes before an operand-size prefix, and each selects only what is defined. -/
def Head.slotWhere (h : Head) (defined : PrefixSlot → Bool) : PrefixSlot :=
  let by66 : PrefixSlot := if h.prefixes.operandSize && defined .p66 then .p66 else .plain
  match h.vex with
  | some v => v.slot
  | none =>
    match h.prefixes.repeated with
    | some .repz => if defined .pF3 then .pF3 else by66
    | some .repnz => if defined .pF2 then .pF2 else by66
    | none => by66

def Head.slot (h : Head) (next : PrefixSlot → DecodeTree) : PrefixSlot :=
  h.slotWhere fun s => (next s).isDefined

def ModRM.scan {α : Type} : Option ModRM → (ModRM → Scan α) → Scan α
  | some m, k => k m
  | none, k => .fetch fun b => k (ModRM.ofByte b)

def DecodeTree.select (mode : Mode) (h : Head) :
    DecodeTree → Option ModRM → Option PrefixSlot → Scan Selection
  | undefined, _, _ => .fail .noEncoding
  | leaf e, m, s => .done ⟨e, m, s⟩
  | byReg next, m, s => ModRM.scan m fun m => (next m.reg).select mode h (some m) s
  | byForm memory register, m, s => ModRM.scan m fun m =>
    if m.isRegister then register.select mode h (some m) s else memory.select mode h (some m) s
  | byRm next, m, s => ModRM.scan m fun m => (next m.rm).select mode h (some m) s
  | bySlot next, m, _ => (next (h.slot next)).select mode h m (some (h.slot next))
  | byMode legacy long, m, s =>
    if mode.isLong then long.select mode h m s else legacy.select mode h m s
  | byVex legacy vex, m, s =>
    if h.vex.isSome then vex.select mode h m s else legacy.select mode h m s
  | byVexLength short long, m, s =>
    if h.vex.any Vex.long then long.select mode h m s else short.select mode h m s

namespace Selection

def isMemory (s : Selection) : Bool :=
  s.modrm.any (fun m => !m.isRegister) && !s.entry.alwaysRegister

/-- The mode and the VEX prefix, or its absence, have to suit the instruction. A repeat prefix that
selects no vector instruction does not fall back to one without it. -/
def checkPrefixes (mode : Mode) (h : Head) (s : Selection) : Scan Unit := do
  Scan.require (s.entry.availableIn mode) .noEncoding
  match h.vex with
  | none =>
    let stray := h.prefixes.repeated.isSome && (s.slot == some .plain || s.slot == some .p66) &&
      s.entry.mnemonic.classOf == .simd
    Scan.require (!stray) .invalid
    Scan.require (s.entry.vexUse != .required) .noEncoding
  | some v =>
    Scan.require (s.entry.vexUse != .never && (v.slot == .plain || s.slot.isSome)) .noEncoding
    Scan.require (!(s.entry.shortVex && v.long)) .invalid
    Scan.require (v.register == 0 || s.entry.usesVexRegister) .invalid

def overridesSize (h : Head) (s : Selection) : Bool :=
  h.prefixes.operandSize && s.slot != some .p66

def operandSize (mode : Mode) (h : Head) (s : Selection) : Size :=
  if mode.isLong then
    if s.entry.longSize == .always || h.prefixes.wide then .qword
    else if s.overridesSize h then .word
    else if s.entry.longSize == .qword then .qword
    else .dword
  else if s.overridesSize h then mode.otherOperandSize
  else mode.operandSize

def withModRM (s : Selection) : Scan Selection :=
  if s.entry.usesModRM then ModRM.scan s.modrm fun m => .done { s with modrm := some m }
  else .done s

def fieldAllowed (rex : Option Rex) (s : Selection) (m : ModRM) : OperandShape → Bool
  | .segmentReg => m.reg ≤ 5 && !(s.entry.exception == .loadsSegment && m.reg == 1)
  | .control => [0, 2, 3, 4, 8].contains (extended m.reg (rex.any Rex.r))
  | .debug => extended m.reg (rex.any Rex.r) ≤ 7
  | .bound => extended m.reg (rex.any Rex.r) ≤ 3
  | .boundRm => s.isMemory || extended m.rm (rex.any Rex.b) ≤ 3
  | _ => true

def fieldsAllowed (rex : Option Rex) (s : Selection) (m : ModRM) : Bool :=
  (if s.isMemory then s.entry.allowsMemory else s.entry.allowsRegister) &&
    s.entry.operands.all (s.fieldAllowed rex m)

def lockAllowed (s : Selection) : Bool := s.entry.lockable && s.isMemory

end Selection

def ModRM.skipAddress (addressSize : Size) (m : ModRM) : Scan Unit :=
  if addressSize = .word then Scan.drop m.dispLength16
  else if m.hasSib then do
    let b ← Scan.byte
    if (Sib.ofByte b).hasDisp32 m.mod then Scan.drop 4
    Scan.drop m.dispLength32
  else Scan.drop m.dispLength32

def Selection.scanAddress (rex : Option Rex) (addressSize : Size) (s : Selection) : Scan Unit :=
  match s.modrm with
  | none => pure ()
  | some m => do
    Scan.require (s.fieldsAllowed rex m) .invalid
    if s.isMemory then m.skipAddress addressSize

def Prefixes.effectiveAddressSize (mode : Mode) (p : Prefixes) : Size :=
  if p.addressSize then mode.otherAddressSize else mode.addressSize

def Selection.flags (h : Head) (s : Selection) : Flags :=
  let lock := if h.prefixes.lock then Flags.lock else Flags.none
  lock.insert <|
    match h.prefixes.repeated with
    | none => .none
    | some .repz =>
      if s.slot = some .pF3 then .none
      else if s.entry.repeatUse = .string then .rep
      else .repz
    | some .repnz =>
      if s.slot = some .pF2 then .none
      else if s.entry.repeatUse = .branch then .bnd
      else .repnz

def Selection.scanRest (mode : Mode) (strictLock : Bool) (h : Head) (s : Selection) :
    Scan Selection := do
  s.checkPrefixes mode h
  let s ← s.withModRM
  let addressSize := h.prefixes.effectiveAddressSize mode
  s.scanAddress h.prefixes.rex addressSize
  Scan.drop (s.entry.trailingBytes (s.operandSize mode h) addressSize)
  Scan.require (!(strictLock && h.prefixes.lock && !s.lockAllowed)) .invalid
  return s

def Head.scanBody (mode : Mode) (strictLock : Bool) (h : Head) : Scan Selection := do
  let s ← h.opcode.tree.select mode h none none
  s.scanRest mode strictLock h

structure Encoding where
  entry : Entry
  length : Nat
  opcodeOffset : Nat
  hasModRM : Bool
  rex : Option Rex
  vex : Option Vex
  segment : Option Register
  operandSize : Size
  addressSize : Size
  flags : Flags
  deriving DecidableEq, Inhabited

namespace Encoding

def ofSelection (mode : Mode) (h : Head) (s : Selection) (body stop : Nat) : Encoding where
  entry := s.entry
  length := stop
  opcodeOffset := body - 1
  hasModRM := s.modrm.isSome
  rex := h.prefixes.rex
  vex := h.vex
  segment := h.prefixes.segment
  operandSize := s.operandSize mode h
  addressSize := h.prefixes.effectiveAddressSize mode
  flags := s.flags h

def scanBy (mode : Mode) (body : Head → Scan Selection) (bytes : List UInt8) :
    Except DecodeError Encoding :=
  match (Head.scan mode).run (.start bytes) with
  | .error e => .error e
  | .ok (h, c) =>
    match (body h).run c with
    | .error e => .error e
    | .ok (s, c') => .ok (ofSelection mode h s c.position c'.position)

/-- Scans the instruction at the start of some bytes. With `strictLock`, a LOCK prefix is refused
where it does not make an instruction atomic. -/
def scan (mode : Mode) (strictLock : Bool) (bytes : List UInt8) : Except DecodeError Encoding :=
  scanBy mode (Head.scanBody mode strictLock) bytes

def isVex (e : Encoding) : Bool := e.vex.isSome

def vexLong (e : Encoding) : Bool := e.vex.any Vex.long

def operandOffset (e : Encoding) : Nat := e.opcodeOffset + 1

theorem length_pos {mode : Mode} {strictLock : Bool} {bytes : List UInt8} {e : Encoding}
    (h : scan mode strictLock bytes = .ok e) : 0 < e.length := by
  unfold scan scanBy at h
  cases hh : (Head.scan mode).run (.start bytes) with
  | error _ => simp [hh] at h
  | ok hc =>
    obtain ⟨hd, c⟩ := hc
    cases hb : (hd.scanBody mode strictLock).run c with
    | error _ => simp [hh, hb] at h
    | ok sc =>
      obtain ⟨s, c'⟩ := sc
      simp only [hh, hb, Except.ok.injEq] at h
      subst h
      have hle := Scan.position_le_of_run hb
      have hpos : 1 ≤ c.position := by
        change (Scan.fetch _).run _ = _ at hh
        simp only [Scan.run, Cursor.fetch] at hh
        cases hcur : (Cursor.start bytes).current with
        | error _ => simp [hcur] at hh
        | ok b =>
          simp only [hcur] at hh
          exact Scan.position_le_of_run hh
      exact Nat.lt_of_lt_of_le hpos hle

end Encoding

end X86
