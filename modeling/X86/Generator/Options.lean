import X86.Decimal.Shortest
import X86.Mode
import X86.OpcodeRecord

namespace X86.Generator

structure Bounds where
  low : Nat
  high : Nat
  deriving DecidableEq, Repr, Inhabited

namespace Bounds

def contains (b : Bounds) (n : Nat) : Bool := b.low ≤ n && n ≤ b.high

def toList (b : Bounds) : List Nat := List.range' b.low (b.high + 1 - b.low)

end Bounds

structure Options where
  mode : Mode
  opcodes : Option Bounds := none
  extensions : Option Bounds := none
  allowX87 : Bool := false
  allowSystem : Bool := false
  allowSimd : Bool := false
  allowVex : Bool := false
  prefixRate : Float := 0.1

inductive OptionsError where
  | rate (rate : Float)
  | extensions (bounds : Bounds)

inductive GeneratorError where
  | invalidOptions (e : OptionsError)
  | noCandidates

def OptionsError.message : OptionsError → String
  | rate r => "prefix_rate " ++ Decimal.ofFloat r ++ " is not a probability"
  | extensions b =>
    "extension range " ++ toString b.low ++ "..=" ++ toString b.high ++ " exceeds 0..=7"

def GeneratorError.message : GeneratorError → String
  | invalidOptions e => "invalid fuzzer options: " ++ e.message
  | noCandidates => "no opcode matches the fuzzer options"

namespace Options

def everything (mode : Mode) : Options where
  mode := mode
  allowX87 := true
  allowSystem := true
  allowSimd := true
  allowVex := true

def check (o : Options) : Except OptionsError Unit :=
  if !(0 ≤ o.prefixRate && o.prefixRate ≤ 1) then .error (.rate o.prefixRate)
  else
    match o.extensions with
    | some b => if 7 < b.high then .error (.extensions b) else .ok ()
    | none => .ok ()

def allowsExtension (o : Options) (r : Fin 8) : Bool :=
  match o.extensions with
  | some b => b.toList.any fun n => Fin.ofNat 8 n == r
  | none => true

def allowsClass (o : Options) : MnemonicClass → Bool
  | .general => true
  | .x87 => o.allowX87
  | .system => o.allowSystem
  | .simd => o.allowSimd

def extensionsOf (o : Options) (r : OpcodeRecord) : List (Fin 8) :=
  r.extensions.filter o.allowsExtension

def accepts (o : Options) (r : OpcodeRecord) : Bool :=
  (if o.mode.isLong then r.validIn64 else r.validOutside64) &&
    o.allowsClass r.classOf &&
    (r.legacy || (r.vex && o.allowVex)) &&
    o.opcodes.all (·.contains r.opcode.key) &&
    (!r.hasModRM || !(o.extensionsOf r).isEmpty)

def candidates (o : Options) : List OpcodeRecord := OpcodeRecord.all.filter o.accepts

end Options

end X86.Generator
