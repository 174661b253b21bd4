/-! Fields of instruction bytes: numbers of two, three or four bits, and the numbers of segment
registers. Numerals of such a type wrap around at its size, which must therefore not be zero. -/

namespace X86.Field

instance twoBits : @NeZero Nat Zero.ofOfNat0 4 := ⟨by decide⟩

instance threeBits : @NeZero Nat Zero.ofOfNat0 8 := ⟨by decide⟩

instance fourBits : @NeZero Nat Zero.ofOfNat0 16 := ⟨by decide⟩

instance segment : @NeZero Nat Zero.ofOfNat0 6 := ⟨by decide⟩

end X86.Field
