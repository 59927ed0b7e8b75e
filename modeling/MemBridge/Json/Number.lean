import MemBridge.Json.Cursor
import MemBridge.Decimal.Binary

/-!
Numbers in JSON text.

An integer literal is kept exact while its digits fit an unsigned word; past that, and for a
literal with a fraction or an exponent, the value becomes a float. The float is computed from
the digits kept (at most a word's worth) and a decimal exponent: the significand is rounded to
binary64, then multiplied or divided by the binary64 power of ten, in steps of `10^308` while
the exponent is out of the table. A result that overflows is the error "number out of range";
an exponent too large for a 32-bit word is clamped, or flushes the value to zero.

A negative literal is a negative integer when its magnitude is at most `2^63`; `-0` and larger
magnitudes become floats.
-/

namespace MemBridge

namespace Json

/-- A number as read. -/
inductive Number where
  | nat (n : Nat)
  | neg (i : Int)
  | float (x : Float)
  deriving Inhabited

def wordMax : Nat := Nat.pow 2 64 - 1

def int32Max : Int := Int.pow 2 31 - 1

def digitOf (b : UInt8) : Nat := b.toNat - 48

/-- Scales a rounded significand by a power of ten, as `f64` arithmetic does it. -/
def scaleByTen (f : Float) (exponent : Int) : Nat → Except SyntaxCode Float
  | 0 => .ok f
  | fuel + 1 =>
    if exponent.natAbs ≤ 308 then
      if exponent ≥ 0 then
        let g := f * Binary.powTen exponent.natAbs
        if g.isInf then .error .numberOutOfRange else .ok g
      else .ok (f / Binary.powTen exponent.natAbs)
    else if f == 0.0 then .ok f
    else if exponent ≥ 0 then .error .numberOutOfRange
    else scaleByTen (f / Binary.powTen 308) (exponent + 308) fuel

def fromParts (positive : Bool) (significand : Nat) (exponent : Int) : ReadM Float := do
  match scaleByTen (UInt64.ofNat significand).toFloat exponent (exponent.natAbs / 308 + 2) with
  | .ok f => return if positive then f else -f
  | .error code => failHere code

def clamp32 (v : Int) : Int := max (-(Int.pow 2 31)) (min int32Max v)

/-- Skips digits. -/
def skipDigits : Nat → ReadM Unit
  | 0 => pure ()
  | fuel + 1 => do
    if isDigit (← peekOrNull) then
      eat
      skipDigits fuel

def bytesLeft : ReadM Nat := do
  let c ← get
  return c.bytes.size - c.pos + 1

/-- Reads the digits of an exponent after its first digit. -/
def exponentDigits (acc : Int) : Nat → ReadM (Option Int)
  | 0 => pure (some acc)
  | fuel + 1 => do
    let b ← peekOrNull
    if isDigit b then
      eat
      let d := (digitOf b : Int)
      if acc * 10 + d > int32Max then return none
      exponentDigits (acc * 10 + d) fuel
    else return some acc

/-- Reads an exponent part (`e`, a sign, digits) and finishes the float. -/
def readExponent (positive : Bool) (significand : Nat) (start : Int) : ReadM Float := do
  eat
  let b ← peekOrNull
  let positiveExp := b != 45
  if b == 43 || b == 45 then eat
  match ← next with
  | none => failHere .eofValue
  | some first =>
    if !isDigit first then failHere .invalidNumber
    match ← exponentDigits (digitOf first) (← bytesLeft) with
    | some e =>
      let final := clamp32 (if positiveExp then start + e else start - e)
      fromParts positive significand final
    | none =>
      if significand != 0 && positiveExp then failHere .numberOutOfRange
      skipDigits (← bytesLeft)
      return if positive then 0.0 else -0.0

/-- Reads the digits after a decimal point while they fit the significand. -/
def fractionDigits (significand : Nat) (count : Nat) : Nat → ReadM (Nat × Nat × Bool)
  | 0 => pure (significand, count, false)
  | fuel + 1 => do
    let b ← peekOrNull
    if isDigit b then
      if significand * 10 + digitOf b > wordMax then return (significand, count, true)
      eat
      fractionDigits (significand * 10 + digitOf b) (count + 1) fuel
    else return (significand, count, false)

/-- Reads a fraction (`.` and digits) and what follows it. -/
def readFraction (positive : Bool) (significand : Nat) (before : Int) : ReadM Float := do
  eat
  let (sig, count, overflowed) ← fractionDigits significand 0 (← bytesLeft)
  let exponent := before - count
  if overflowed then
    skipDigits (← bytesLeft)
  else if count = 0 then
    match ← peek with
    | some _ => failPeek .invalidNumber
    | none => failPeek .eofValue
  let b ← peekOrNull
  if b == 101 || b == 69 then readExponent positive sig exponent
  else fromParts positive sig exponent

/-- Counts the integer digits past the significand; they scale the value. -/
def countDigits (count : Nat) : Nat → ReadM Nat
  | 0 => pure count
  | fuel + 1 => do
    if isDigit (← peekOrNull) then
      eat
      countDigits (count + 1) fuel
    else pure count

/-- An integer literal too long for a word: the kept digits scaled by the rest. -/
def readLongInteger (positive : Bool) (significand : Nat) : ReadM Float := do
  let extra ← countDigits 0 (← bytesLeft)
  let b ← peekOrNull
  if b == 46 then readFraction positive significand extra
  else if b == 101 || b == 69 then readExponent positive significand extra
  else fromParts positive significand extra

/-- What follows the integer digits of a literal. -/
def finishNumber (positive : Bool) (significand : Nat) : ReadM Number := do
  let b ← peekOrNull
  if b == 46 then return .float (← readFraction positive significand 0)
  else if b == 101 || b == 69 then return .float (← readExponent positive significand 0)
  else if positive then return .nat significand
  else if 1 ≤ significand ∧ significand ≤ Nat.pow 2 63 then return .neg (-(significand : Int))
  else return .float (-(UInt64.ofNat significand).toFloat)

/-- Reads integer digits while they fit a word. -/
def integerDigits (significand : Nat) : Nat → ReadM (Nat × Bool)
  | 0 => pure (significand, false)
  | fuel + 1 => do
    let b ← peekOrNull
    if isDigit b then
      if significand * 10 + digitOf b > wordMax then return (significand, true)
      eat
      integerDigits (significand * 10 + digitOf b) fuel
    else return (significand, false)

/-- Reads a number whose sign, if any, is already read. -/
def readNumber (positive : Bool) : ReadM Number := do
  match ← next with
  | none => failHere .eofValue
  | some b =>
    if b == 48 then
      if isDigit (← peekOrNull) then failPeek .invalidNumber
      finishNumber positive 0
    else if isDigit b then
      let (sig, overflowed) ← integerDigits (digitOf b) (← bytesLeft)
      if overflowed then return .float (← readLongInteger positive sig)
      finishNumber positive sig
    else failHere .invalidNumber

/-- Skips an exponent part without computing it. -/
def skipExponent : ReadM Unit := do
  eat
  let b ← peekOrNull
  if b == 43 || b == 45 then eat
  if !isDigit (← nextOrNull) then failHere .invalidNumber
  skipDigits (← bytesLeft)

/-- Skips a number whose sign, if any, is already read, checking only its syntax. -/
def skipNumber : ReadM Unit := do
  let b ← nextOrNull
  if b == 48 then
    if isDigit (← peekOrNull) then failPeek .invalidNumber
  else if isDigit b then
    skipDigits (← bytesLeft)
  else failHere .invalidNumber
  let b ← peekOrNull
  if b == 46 then
    eat
    let c ← get
    skipDigits (← bytesLeft)
    if (← get).pos == c.pos then failPeek .invalidNumber
    let b ← peekOrNull
    if b == 101 || b == 69 then skipExponent
  else if b == 101 || b == 69 then skipExponent

end Json

end MemBridge
