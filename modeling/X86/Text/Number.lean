/-! Numbers in text: hexadecimal with a prefix, but single decimal digits as they are. -/

namespace X86.Number

def hexDigits (n : Nat) : String := String.ofList (Nat.toDigits 16 n)

def padded (width : Nat) (t : String) : String :=
  String.ofList (List.replicate (width - t.length) '0') ++ t

/-- A number of one decimal digit as that digit, any other in hexadecimal. -/
def hex (n : Nat) : String :=
  if n < 10 then hexDigits n else "0x" ++ hexDigits n

def offset (n : Int) : String :=
  if n = 0 then "" else if n < 0 then "-" ++ hex n.natAbs else "+" ++ hex n.natAbs

def displacement (n : Int) : String :=
  if n < 0 then "-" ++ hex n.natAbs else hex n.natAbs

def byteDigits (b : UInt8) : String := padded 2 (hexDigits b.toNat)

def bytesDigits (bs : List UInt8) : String := String.join (bs.map byteDigits)

def upperHex (width n : Nat) : String := padded width (hexDigits n).toUpper

def decimal (forceSign : Bool) (n : Int) : String :=
  if forceSign && 0 ≤ n then "+" ++ toString n else toString n

end X86.Number
