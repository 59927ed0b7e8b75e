/-!
Binary64 numbers as integers.

A finite binary64 number is `± m · 2^q` with an integer significand `m` below `2^53`.
`Binary.decode` reads that form off the bits of a float, and `Binary.nearest` rounds a
natural number to the nearest binary64 number, a tie going to the even significand, which is
the rounding of every conversion in this library.
-/

namespace MemBridge

namespace Binary

/-- The parts of a finite binary64 number: sign, significand and binary exponent. -/
structure Parts where
  negative : Bool
  mantissa : Nat
  exponent : Int
  deriving Repr, DecidableEq

/-- The sign, significand and exponent of a float. Subnormal numbers have the exponent
`-1074`; normal ones carry the hidden bit. Infinities and NaN give `none`. -/
def decode (x : Float) : Option Parts :=
  let bits : Nat := x.toBits.toNat
  let negative := bits ≥ Nat.pow 2 63
  let biased : Nat := (bits / Nat.pow 2 52) % Nat.pow 2 11
  let fraction : Nat := bits % Nat.pow 2 52
  if biased = Nat.pow 2 11 - 1 then none
  else if biased = 0 then some ⟨negative, fraction, -1074⟩
  else some ⟨negative, fraction + Nat.pow 2 52, (biased : Int) - 1075⟩

def signBit (x : Float) : Bool := x.toBits.toNat ≥ Nat.pow 2 63

/-- `q + 1` when the discarded part `r` of a division by `half * 2` is more than half, or
exactly half with `q` odd. -/
def roundHalfEven (q r half : Nat) : Nat :=
  if r > half || (r == half && q % 2 == 1) then q + 1 else q

/-- The binary64 number nearest to a natural number, ties to even; infinity past the range. -/
def nearest (n : Nat) : Float :=
  let width := n.log2 + 1
  if width ≤ 53 then (UInt64.ofNat n).toFloat
  else
    let shift := width - 53
    let q := roundHalfEven (n / Nat.pow 2 shift) (n % Nat.pow 2 shift) (Nat.pow 2 (shift - 1))
    Float.scaleB (UInt64.ofNat q).toFloat (shift : Int)

def powTen (k : Nat) : Float := nearest (Nat.pow 10 k)

theorem roundHalfEven_le (q r half : Nat) : roundHalfEven q r half ≤ q + 1 := by
  unfold roundHalfEven
  split <;> omega

end Binary

end MemBridge
