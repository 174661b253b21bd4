import X86.Encoding
import X86.Opcode.FlatTable
import X86.OpcodeRecord

/-! Walking through the table of all opcodes: to the instruction that some bytes select, and to all
instructions under an opcode. Both walks are guarded. They stop where a place is outside the table
and after a number of links. -/

namespace X86

structure Guards (α : Type) where
  limit : Nat
  tooDeep : α
  outside : α

def ModRM.escapeIndex (m : ModRM) : Nat :=
  if m.isRegister then 8 + (8 * m.reg + m.rm) else m.reg

def Selector.scan {α : Type} (mode : Mode) (h : Head) (defined : PrefixSlot → Bool)
    (m : Option ModRM) (s : Option PrefixSlot)
    (k : Nat → Option ModRM → Option PrefixSlot → Scan α) : Selector → Scan α
  | reg => ModRM.scan m fun m => k m.reg (some m) s
  | form => ModRM.scan m fun m => k m.isRegister.toNat (some m) s
  | rm => ModRM.scan m fun m => k m.rm (some m) s
  | slot => k (h.slotWhere defined).number m (some (h.slotWhere defined))
  | escape => ModRM.scan m fun m => k m.escapeIndex (some m) s
  | .mode => k mode.isLong.toNat m s
  | vex => k h.vex.isSome.toNat m s
  | vexLength => k (h.vex.any Vex.long).toNat m s

namespace FlatTable

variable (t : FlatTable)

section

variable (g : Guards (Scan Selection)) (mode : Mode) (h : Head)

def look (next : Nat → Option ModRM → Option PrefixSlot → Scan Selection) (place : Nat)
    (m : Option ModRM) (s : Option PrefixSlot) : Scan Selection :=
  match t[place]? with
  | none => g.outside
  | some .undefined => .fail .noEncoding
  | some (.leaf e) => .done ⟨e, m, s⟩
  | some (.link selector base) =>
    selector.scan mode h (fun slot => t.isDefinedAt (base + slot.number)) m s
      fun i => next (base + i)

def selectWithin : Nat → Nat → Option ModRM → Option PrefixSlot → Scan Selection
  | 0 => t.look g mode h fun _ _ _ => g.tooDeep
  | room + 1 => t.look g mode h (selectWithin room)

def select : Scan Selection := t.selectWithin g mode h g.limit h.opcode.place none none

end

def scanBody (g : Guards (Scan Selection)) (mode : Mode) (strictLock : Bool) (h : Head) :
    Scan Selection := do
  let s ← t.select g mode h
  s.scanRest mode strictLock h

def scan (g : Guards (Scan Selection)) (mode : Mode) (strictLock : Bool) (bytes : List UInt8) :
    Except DecodeError Encoding :=
  Encoding.scanBy mode (t.scanBody g mode strictLock) bytes

end FlatTable

def Selector.branches (p : DecodePath) : Selector → List (Nat × DecodePath)
  | reg => (List.finRange 8).map fun r => (r.val, { p with reg := some r, modrm := true })
  | form =>
    [(0, { p with isRegister := some false, modrm := true }),
      (1, { p with isRegister := some true, modrm := true })]
  | rm => (List.finRange 8).map fun r => (r.val, { p with modrm := true })
  | slot => PrefixSlot.all.map fun s => (s.number, { p with slot := some s })
  | escape =>
    ((List.finRange 8).map fun r =>
      (r.val, { p with reg := some r, isRegister := some false, modrm := true })) ++
    (List.finRange 64).map fun low =>
      (8 + low.val,
        { p with reg := some (Fin.ofNat 8 (low / 8)), isRegister := some true, modrm := true })
  | mode => [(0, { p with long := some false }), (1, { p with long := some true })]
  | vex => [(0, { p with vex := some false }), (1, { p with vex := some true })]
  | vexLength => [(0, p), (1, { p with vex := some true })]

namespace FlatTable

variable (t : FlatTable) (g : Guards (List Leaf))

def walk : Nat → Nat → DecodePath → List Leaf
  | 0, place, _ => if place < t.length then g.tooDeep else g.outside
  | room + 1, place, p =>
    match t[place]? with
    | none => g.outside
    | some .undefined => []
    | some (.leaf e) => [⟨p, e⟩]
    | some (.link selector base) =>
      (selector.branches p).flatMap fun (i, p) => walk room (base + i) p

def leaves (o : Opcode) : List Leaf := t.walk g (g.limit + 1) o.place {}

def record? (o : Opcode) : Option OpcodeRecord :=
  if t.isDefinedAt o.place then
    match t.leaves g o with
    | [] => none
    | first :: rest => some (OpcodeRecord.ofLeaves o first (first :: rest))
  else none

end FlatTable

/-- The guards of the scanner: seven links are too many, and there is no instruction there. -/
def Guards.scanner : Guards (Scan Selection) := ⟨6, .fail .noEncoding, .fail .noEncoding⟩

def Guards.survey : Guards (List Leaf) := ⟨6, [], []⟩

end X86
