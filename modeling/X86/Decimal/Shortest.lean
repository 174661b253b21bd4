/-! The shortest decimal notation of a floating-point number: of all decimals that round to the
number, one with the fewest digits, and of those the nearest. -/

namespace X86.Decimal

/-- The number `mantissa * 2 ^ exponent` between its neighbours. The lower neighbour is nearer at a
power of two. -/
structure Binary where
  mantissa : Nat
  exponent : Int
  narrowBelow : Bool
  deriving DecidableEq, Repr, Inhabited

namespace Binary

def ofBits (bits : UInt64) : Binary :=
  let fraction : Nat := bits.toNat % (1 <<< 52)
  let field : Nat := (bits.toNat >>> 52) % (1 <<< 11)
  if field = 0 then ⟨fraction, -1074, false⟩
  else ⟨(1 <<< 52) + fraction, (field : Int) - 1075, fraction == 0 && decide (1 < field)⟩

def scaled (x : Binary) : Nat × Nat × Nat × Nat :=
  let num := 1 <<< x.exponent.toNat
  let den := 1 <<< (-x.exponent).toNat
  (4 * x.mantissa * num, (4 * x.mantissa - if x.narrowBelow then 1 else 2) * num,
    (4 * x.mantissa + 2) * num, 4 * den)

end Binary

structure Digits where
  digits : Nat
  exponent : Int
  deriving DecidableEq, Repr, Inhabited

def inside (x : Binary) (d : Nat) (e : Int) : Bool :=
  let (_, low, high, den) := x.scaled
  let v := d * Nat.pow 10 e.toNat * den
  let unit := Nat.pow 10 (-e).toNat
  if x.mantissa % 2 = 0 then low * unit ≤ v && v ≤ high * unit
  else low * unit < v && v < high * unit

/-- The multiple of `10 ^ e` that rounds to the number and is nearest to it, upwards on a tie. -/
def nearest? (x : Binary) (e : Int) : Option Nat :=
  let (value, _, _, den) := x.scaled
  let num := value * Nat.pow 10 (-e).toNat
  let den := den * Nat.pow 10 e.toNat
  let below := num / den
  let above := below + 1
  match inside x below e, inside x above e with
  | true, true => some (if 2 * (num % den) < den then below else above)
  | true, false => some below
  | false, true => some above
  | false, false => none

def search (x : Binary) (e : Int) : Nat → Option Digits
  | 0 => none
  | steps + 1 =>
    match nearest? x e with
    | some d => if d = 0 then search x (e - 1) steps else some ⟨d, e⟩
    | none => search x (e - 1) steps

def shortest (x : Binary) : Digits := (search x 309 640).getD ⟨0, 0⟩

def positional (d : Digits) : String :=
  let t := toString d.digits
  let places := (-d.exponent).toNat
  let zeros (n : Nat) := String.ofList (List.replicate n '0')
  if places = 0 then t ++ zeros d.exponent.toNat
  else if places < t.length then
    String.ofList (t.toList.take (t.length - places)) ++ "." ++
      String.ofList (t.toList.drop (t.length - places))
  else "0." ++ zeros (places - t.length) ++ t

def ofFloat (x : Float) : String :=
  if x.isNaN then "NaN"
  else
    let sign := if x.toBits.toNat >>> 63 = 1 then "-" else ""
    if x.isInf then sign ++ "inf"
    else
      let b := Binary.ofBits x.toBits
      if b.mantissa = 0 then sign ++ "0" else sign ++ positional (shortest b)

end X86.Decimal
