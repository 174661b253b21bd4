import X86.Generator.Draw
import X86.ModRM

namespace X86.Generator

/-- What is asked of a ModR/M byte. A given field wins over the allowed forms and extensions. -/
structure ModRMOptions where
  addressSize : Size
  allowRegister : Bool := true
  allowMemory : Bool := true
  mod : Option (Fin 4) := none
  reg : Option (Fin 8) := none
  extensions : List (Fin 8) := List.finRange 8
  deriving DecidableEq, Repr

namespace ModRMOptions

def fixedMod (o : ModRMOptions) : Option (Fin 4) :=
  match o.mod with
  | some m => some m
  | none => if o.allowRegister && !o.allowMemory then some 3 else none

def fixedForm (o : ModRMOptions) : Option Bool :=
  match o.fixedMod with
  | some m => some (m == 3)
  | none => if o.allowRegister then none else some false

def fixedReg (o : ModRMOptions) : Option (Fin 8) :=
  match o.reg, o.extensions with
  | some r, _ => some r
  | none, [r] => some r
  | none, _ => none

def fixedSib (o : ModRMOptions) : Option Bool :=
  if o.addressSize = .word ∨ o.fixedForm = some true then some false else none

def drawMod (o : ModRMOptions) : Draw (Fin 4) :=
  o.fixedMod.elim (if o.allowRegister then Draw.upTo 3 else Fin.castSucc <$> Draw.upTo 2) pure

def drawReg (o : ModRMOptions) : Draw (Fin 8) :=
  o.fixedReg.elim (if o.extensions.isEmpty then Draw.upTo 7 else Draw.pick 0 o.extensions) pure

def draw (o : ModRMOptions) : Draw ModRM := do
  let mod ← o.drawMod
  let reg ← o.drawReg
  return ⟨mod, reg, ← Draw.upTo 7⟩

def hasSib (o : ModRMOptions) (m : ModRM) : Bool := o.addressSize != .word && m.hasSib

def drawSib (o : ModRMOptions) (m : ModRM) : Draw (Option UInt8) :=
  if o.hasSib m then some <$> Draw.byte else pure none

end ModRMOptions

end X86.Generator
