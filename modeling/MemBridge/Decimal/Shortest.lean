import MemBridge.Decimal.Binary

/-!
Shortest decimal forms of binary64 numbers.

A positive binary64 number `v = m · 2^q` is the value of every real in its rounding interval:
the reals nearer to `v` than to its two binary64 neighbours, the ends included exactly when `m`
is even. `Binary.shortest` finds the fewest significant decimal digits that name a point of
that interval, and of two such points the one nearer to `v` (an exact tie goes to the even
digit string). All comparisons are exact comparisons of natural numbers.

The result is a digit string `d` without trailing zeros and an exponent `e`, meaning
`d · 10^e`.
-/

namespace MemBridge

namespace Binary

/-- A positive rational `num / den` as a pair of naturals. -/
structure Ratio where
  num : Nat
  den : Nat

def Ratio.ofPow2 (c : Nat) (e : Int) : Ratio :=
  if e ≥ 0 then ⟨c * Nat.pow 2 e.toNat, 1⟩ else ⟨c, Nat.pow 2 (-e).toNat⟩

def Ratio.ofPow10 (d : Nat) (s : Int) : Ratio :=
  if s ≥ 0 then ⟨d * Nat.pow 10 s.toNat, 1⟩ else ⟨d, Nat.pow 10 (-s).toNat⟩

def Ratio.le (a b : Ratio) : Bool := a.num * b.den ≤ b.num * a.den

def Ratio.lt (a b : Ratio) : Bool := a.num * b.den < b.num * a.den

/-- The distance `|a - b|` compared: whether `|a - v| < |b - v|`, `=`, or `>`, as -1, 0, 1. -/
def Ratio.closer (a b v : Ratio) : Int :=
  let da : Int := (a.num * v.den : Int) - (v.num * a.den : Int)
  let db : Int := (b.num * v.den : Int) - (v.num * b.den : Int)
  -- compare |da| / (a.den * v.den) with |db| / (b.den * v.den)
  let l := da.natAbs * b.den
  let r := db.natAbs * a.den
  if l < r then -1 else if l = r then 0 else 1

def roundingEnds (m : Nat) (lowerCloser : Bool) : Nat × Nat :=
  (if lowerCloser then 4 * m - 1 else 4 * m - 2, 4 * m + 2)

/-- The decimal exponent `k` with `10^k ≤ v < 10^(k+1)`. -/
def decimalExponent (v : Ratio) (guess : Int) : Nat → Int
  | 0 => guess
  | fuel + 1 =>
    if (Ratio.ofPow10 1 (guess + 1)).le v then decimalExponent v (guess + 1) fuel
    else if (Ratio.ofPow10 1 guess).le v then guess
    else decimalExponent v (guess - 1) fuel

def normalize (d : Nat) (e : Int) : Nat → Nat × Int
  | 0 => (d, e)
  | fuel + 1 => if d ≠ 0 ∧ d % 10 = 0 then normalize (d / 10) (e + 1) fuel else (d, e)

/-- The candidate with `digits` significant digits: the grid point of `10^s` nearest to `v`
inside the interval, if there is one. -/
def candidate (v lo hi : Ratio) (inclusive : Bool) (s : Int) : Option Nat :=
  let step := Ratio.ofPow10 1 s
  -- floor and ceiling of v / step
  let num := v.num * step.den
  let den := v.den * step.num
  let below := num / den
  let above := if num % den = 0 then below else below + 1
  let inside := fun d =>
    let p := Ratio.ofPow10 d s
    if inclusive then lo.le p && p.le hi else lo.lt p && p.lt hi
  match inside below, inside above with
  | true, true =>
    if below = above then some below
    else
      let c := Ratio.closer (Ratio.ofPow10 below s) (Ratio.ofPow10 above s) v
      if c < 0 then some below
      else if c > 0 then some above
      else if below % 2 = 0 then some below else some above
  | true, false => some below
  | false, true => some above
  | false, false => none

/-- The shortest digits of `m · 2^q` (with `m > 0`): the digit string and its exponent. -/
def shortest (m : Nat) (q : Int) (lowerCloser : Bool) : Nat × Int :=
  let (loC, hiC) := roundingEnds m lowerCloser
  let v := Ratio.ofPow2 (4 * m) (q - 2)
  let lo := Ratio.ofPow2 loC (q - 2)
  let hi := Ratio.ofPow2 hiC (q - 2)
  let inclusive := m % 2 = 0
  let guess : Int := ((m.log2 : Int) + q) * 30103 / 100000
  let k := decimalExponent v guess 4
  let rec search : Nat → Nat → Nat × Int
    | 0, _ => (m, q)
    | fuel + 1, n =>
      let s := k - (n : Int) + 1
      match candidate v lo hi inclusive s with
      | some d => normalize d s 400
      | none => search fuel (n + 1)
  search 17 1

def shortestOf (p : Parts) : Nat × Int :=
  shortest p.mantissa p.exponent (p.mantissa = Nat.pow 2 52 ∧ p.exponent > -1074)

end Binary

end MemBridge
