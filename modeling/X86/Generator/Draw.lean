/-! Random choices, as a function of the numbers that were drawn. A statement about all lists of
numbers is one about every outcome. -/

namespace X86.Generator

/-- A choice that takes its numbers from the front of a list, zeros when it is empty. -/
abbrev Draw := StateM (List Nat)

namespace Draw

def below (n : Nat) : Draw Nat := fun ns => (ns.headD 0 % n, ns.tail)

def upTo (n : Nat) : Draw (Fin (n + 1)) := do
  let k ← below (n + 1)
  return ⟨k % (n + 1), Nat.mod_lt k n.succ_pos⟩

def byte : Draw UInt8 := do
  return UInt8.ofNat (← below 256)

def bool : Draw Bool := do
  return (← below 2) == 1

def chance (probability : Float) : Draw Bool := do
  let n ← below (1 <<< 64)
  if probability == 0 then return false
  if probability == 1 then return true
  return n < (probability.scaleB 64).toUInt64.toNat

def pick {α : Type} (default : α) (as : List α) : Draw α := do
  return as.getD (← below as.length) default

def times {α : Type} (n : Nat) (d : Draw α) : Draw (List α) :=
  (List.range n).mapM fun _ => d

def numbers (seed : Nat) : Nat → List Nat
  | 0 => []
  | count + 1 =>
    let next := (6364136223846793005 * seed + 1442695040888963407) % (1 <<< 64)
    next >>> 16 :: numbers next count

end Draw

end X86.Generator
