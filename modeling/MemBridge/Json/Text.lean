import MemBridge.Json.Cursor

/-!
Strings in JSON text.

A string runs to the next unescaped quote. Control characters below `0x20` are refused, as
are escapes other than the eight short ones and `\u` with four hexadecimal digits. A `\u`
escape of a leading surrogate must be followed by one of a trailing surrogate; a lone
surrogate is refused. `skipString` checks the same syntax but accepts every `\u` escape, since
it does not build the text.
-/

namespace MemBridge

namespace Json

/-- The first index at or after `i` that holds a quote, a backslash or a control byte. -/
def plainEnd (bytes : ByteArray) (i : Nat) : Nat :=
  if h : i < bytes.size then
    let b := bytes[i]
    if b == 34 || b == 92 || b < 32 then i else plainEnd bytes (i + 1)
  else i
termination_by bytes.size - i

def hexValue (b : UInt8) : Option Nat :=
  if 48 ≤ b && b ≤ 57 then some (b.toNat - 48)
  else if 97 ≤ b && b ≤ 102 then some (b.toNat - 87)
  else if 65 ≤ b && b ≤ 70 then some (b.toNat - 55)
  else none

/-- Reads the four hexadecimal digits of a `\u` escape. -/
def readHex4 : ReadM Nat := do
  let c ← get
  if c.pos + 4 ≤ c.bytes.size then
    set { c with pos := c.pos + 4 }
    let digits := (List.range 4).map fun k => hexValue (c.bytes.get! (c.pos + k))
    match digits.foldlM (fun acc d => d.map (acc * 16 + ·)) 0 with
    | some v => return v
    | none => failHere .invalidEscape
  else
    set { c with pos := c.bytes.size }
    failHere .eofString

def nextInString : ReadM UInt8 := do
  match ← next with
  | some b => return b
  | none => failHere .eofString

/-- The byte after a leading surrogate, which must be `expected`. -/
def expectInEscape (expected : UInt8) : ReadM Unit := do
  match ← peek with
  | none => failHere .eofString
  | some b =>
    eat
    if b != expected then failHere .unexpectedEndOfHexEscape

/-- Reads a `\u` escape (after the `u`) as a code point. -/
def readUnicodeEscape : ReadM Char := do
  let n ← readHex4
  if 0xDC00 ≤ n ∧ n ≤ 0xDFFF then failHere .loneLeadingSurrogate
  if n < 0xD800 ∨ n > 0xDBFF then return Char.ofNat n
  expectInEscape 92
  expectInEscape 117
  let n2 ← readHex4
  if n2 < 0xDC00 ∨ n2 > 0xDFFF then failHere .loneLeadingSurrogate
  return Char.ofNat ((n - 0xD800) * 0x400 + (n2 - 0xDC00) + 0x10000)

/-- Reads an escape (after the backslash) as a character. -/
def readEscape : ReadM Char := do
  match ← nextInString with
  | 34 => return '"'
  | 92 => return '\\'
  | 47 => return '/'
  | 98 => return '\x08'
  | 102 => return '\x0c'
  | 110 => return '\n'
  | 114 => return '\r'
  | 116 => return '\t'
  | 117 => readUnicodeEscape
  | _ => failHere .invalidEscape

def utf8Of (c : Char) : ByteArray := c.toString.toUTF8

/-- Reads the rest of a string after its opening quote, collecting its bytes. -/
def readStringBytes (acc : ByteArray) : Nat → ReadM ByteArray
  | 0 => failHere .eofString
  | fuel + 1 => do
    let c ← get
    let stop := plainEnd c.bytes c.pos
    let acc := acc ++ c.bytes.extract c.pos stop
    set { c with pos := stop }
    match c.bytes[stop]? with
    | none => failHere .eofString
    | some 34 => eat; return acc
    | some 92 =>
      eat
      let ch ← readEscape
      readStringBytes (acc ++ utf8Of ch) fuel
    | some _ => eat; failHere .controlCharacter

def readString : ReadM String := do
  let c ← get
  let bytes ← readStringBytes ByteArray.empty (c.bytes.size - c.pos + 1)
  return (String.fromUTF8? bytes).getD ""

def skipEscape : ReadM Unit := do
  match ← nextInString with
  | 34 | 92 | 47 | 98 | 102 | 110 | 114 | 116 => pure ()
  | 117 => discard readHex4
  | _ => failHere .invalidEscape

/-- Skips the rest of a string after its opening quote. -/
def skipStringLoop : Nat → ReadM Unit
  | 0 => failHere .eofString
  | fuel + 1 => do
    let c ← get
    let stop := plainEnd c.bytes c.pos
    set { c with pos := stop }
    match c.bytes[stop]? with
    | none => failHere .eofString
    | some 34 => eat
    | some 92 => eat; skipEscape; skipStringLoop fuel
    | some _ => failHere .controlCharacter

def skipString : ReadM Unit := do
  let c ← get
  skipStringLoop (c.bytes.size - c.pos + 1)

end Json

end MemBridge
