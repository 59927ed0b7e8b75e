/-!
Machine words of the modelled platform.

Sizes, offsets and strides are unsigned 64-bit words; native handles are signed 64-bit words.
Arithmetic on sizes is checked: `addChecked` and `mulChecked` return `none` exactly when the
exact result leaves the word, which is where a debug build stops with an overflow.
The main statements are `addChecked_eq_some_iff` and `mulChecked_eq_some_iff`.
-/

namespace MemBridge

namespace Word

def bound : Nat := Nat.pow 2 64

def max : Nat := bound - 1

def signedBound : Int := Int.pow 2 63

def addChecked (a b : Nat) : Option Nat :=
  if a + b < bound then some (a + b) else none

def mulChecked (a b : Nat) : Option Nat :=
  if a * b < bound then some (a * b) else none

def toSigned (n : Nat) : Int :=
  if n < Nat.pow 2 63 then (n : Int) else (n : Int) - (bound : Int)

def isSigned (v : Int) : Bool :=
  decide (-signedBound ≤ v) && decide (v < signedBound)

def isSigned32 (v : Int) : Bool :=
  decide (-Int.pow 2 31 ≤ v) && decide (v < Int.pow 2 31)

def hexDigits (n : Nat) : String :=
  String.ofList (Nat.toDigits 16 n)

/-- The alternate hexadecimal form of a signed word: `0x` and the digits of its
two's complement bits. -/
def hexSigned (v : Int) : String :=
  "0x" ++ hexDigits (Int.toNat (v % (bound : Int)))

theorem addChecked_eq_some_iff {a b c : Nat} :
    addChecked a b = some c ↔ a + b < bound ∧ c = a + b := by
  unfold addChecked
  split
  · simp_all [eq_comm]
  · simp only [reduceCtorEq, false_iff, not_and]
    omega

theorem mulChecked_eq_some_iff {a b c : Nat} :
    mulChecked a b = some c ↔ a * b < bound ∧ c = a * b := by
  unfold mulChecked
  split
  · simp_all [eq_comm]
  · simp only [reduceCtorEq, false_iff, not_and]
    omega

end Word

end MemBridge
