import MemBridge.Decimal.Shortest
import MemBridge.Text.Number

/-!
Decimal text of binary64 numbers.

Both forms write the shortest digits of `MemBridge.Decimal.Shortest`.

* `Binary.dataText` is the form of numbers in data: positional with at least one digit after
  the point (`12.5`, `100.0`, `0.001`) while the point stands within the first sixteen
  digits and less than five zeros follow it, scientific otherwise (`1e-7`, `1.5e300`), and
  `0.0` for zero.
* `Binary.plainText` is the form of numbers in messages: always positional, with no point
  for integers (`100`, `0.0000001`).

Non-finite numbers are `NaN`, `inf` and `-inf` in both.
-/

namespace MemBridge

namespace Binary

def zeros (n : Nat) : String := String.ofList (List.replicate n '0')

/-- The digits of a magnitude, written at decimal exponent `e` (value `digits · 10^e`), in
the data form. -/
def dataDigits (digits : String) (e : Int) : String :=
  let length : Int := digits.length
  let point := length + e
  if 0 ≤ e ∧ point ≤ 16 then digits ++ zeros e.toNat ++ ".0"
  else if 0 < point ∧ point ≤ 16 then
    String.ofList (digits.toList.take point.toNat) ++ "." ++
      String.ofList (digits.toList.drop point.toNat)
  else if -5 < point ∧ point ≤ 0 then "0." ++ zeros (-point).toNat ++ digits
  else
    let exp := point - 1
    let expText := if exp < 0 then "-" ++ Text.natText exp.natAbs else Text.natText exp.toNat
    match digits.toList with
    | [d] => String.singleton d ++ "e" ++ expText
    | d :: rest => String.singleton d ++ "." ++ String.ofList rest ++ "e" ++ expText
    | [] => "0e0"

/-- The digits of a magnitude in the plain form. -/
def plainDigits (digits : String) (e : Int) : String :=
  let length : Int := digits.length
  let point := length + e
  if 0 ≤ e then digits ++ zeros e.toNat
  else if 0 < point then
    String.ofList (digits.toList.take point.toNat) ++ "." ++
      String.ofList (digits.toList.drop point.toNat)
  else "0." ++ zeros (-point).toNat ++ digits

/-- Writes a float with a form for its finite nonzero magnitudes and a text for zero. -/
def writeWith (form : String → Int → String) (zero : String) (x : Float) : String :=
  if x.isNaN then "NaN"
  else if x.isInf then (if x > 0 then "inf" else "-inf")
  else
    let sign := if signBit x then "-" else ""
    match decode x with
    | none => "NaN"
    | some p =>
      if p.mantissa = 0 then sign ++ zero
      else
        let (d, e) := shortestOf p
        sign ++ form (Text.natText d) e

def dataText (x : Float) : String := writeWith dataDigits "0.0" x

def plainText (x : Float) : String := writeWith plainDigits "0" x

end Binary

end MemBridge
