/-!
A cursor over JSON text.

The text is read as UTF-8 bytes. A position in an error message is a line and a column: the
line is one more than the number of line feeds before the index, and the column counts the
bytes after the last of them. An error is either positioned at a byte index or still waiting
for one (`ReadError.fix` gives it the cursor's index), which is how errors raised by the
interpretation of a value get the position where the reader stands.

Reads run in `ReadM`, a state monad over the cursor whose failures keep the state at which
they were raised.
-/

namespace MemBridge

namespace Json

/-- The causes of a syntax error. -/
inductive SyntaxCode where
  | eofList
  | eofObject
  | eofString
  | eofValue
  | expectedColon
  | expectedListCommaOrEnd
  | expectedObjectCommaOrEnd
  | expectedIdent
  | expectedValue
  | invalidEscape
  | invalidNumber
  | numberOutOfRange
  | controlCharacter
  | keyMustBeString
  | loneLeadingSurrogate
  | trailingComma
  | trailingCharacters
  | unexpectedEndOfHexEscape
  | recursionLimit
  deriving DecidableEq, Repr

/-- The text of a syntax error. -/
def SyntaxCode.text : SyntaxCode → String
  | .eofList => "EOF while parsing a list"
  | .eofObject => "EOF while parsing an object"
  | .eofString => "EOF while parsing a string"
  | .eofValue => "EOF while parsing a value"
  | .expectedColon => "expected `:`"
  | .expectedListCommaOrEnd => "expected `,` or `]`"
  | .expectedObjectCommaOrEnd => "expected `,` or `\x7d`"
  | .expectedIdent => "expected ident"
  | .expectedValue => "expected value"
  | .invalidEscape => "invalid escape"
  | .invalidNumber => "invalid number"
  | .numberOutOfRange => "number out of range"
  | .controlCharacter => "control character (\\u0000-\\u001F) found while parsing a string"
  | .keyMustBeString => "key must be a string"
  | .loneLeadingSurrogate => "lone leading surrogate in hex escape"
  | .trailingComma => "trailing comma"
  | .trailingCharacters => "trailing characters"
  | .unexpectedEndOfHexEscape => "unexpected end of hex escape"
  | .recursionLimit => "recursion limit exceeded"

/-- A read failure: a text and, once known, the byte index it is reported at. -/
structure ReadError where
  text : String
  index : Option Nat
  deriving Inhabited

/-- The text and the bytes under a reader. -/
structure Cursor where
  bytes : ByteArray
  pos : Nat

abbrev ReadM := EStateM ReadError Cursor

namespace Cursor

def lineColumn (bytes : ByteArray) (index : Nat) : Nat × Nat :=
  (bytes.toList.take index).foldl
    (fun (lc : Nat × Nat) b => if b == 10 then (lc.1 + 1, 0) else (lc.1, lc.2 + 1)) (1, 0)

end Cursor

/-- The full message of an error read from `bytes`. -/
def ReadError.message (e : ReadError) (bytes : ByteArray) : String :=
  match e.index with
  | some i =>
    let (line, column) := Cursor.lineColumn bytes i
    s!"{e.text} at line {line} column {column}"
  | none => e.text

def peek : ReadM (Option UInt8) := do
  let c ← get
  return c.bytes[c.pos]?

def peekOrNull : ReadM UInt8 := do
  return (← peek).getD 0

def eat : ReadM Unit :=
  modify fun c => { c with pos := c.pos + 1 }

def next : ReadM (Option UInt8) := do
  let b ← peek
  if b.isSome then eat
  return b

def nextOrNull : ReadM UInt8 := do
  return (← next).getD 0

def failHere {α : Type} (code : SyntaxCode) : ReadM α := do
  let c ← get
  throw ⟨code.text, some c.pos⟩

def failPeek {α : Type} (code : SyntaxCode) : ReadM α := do
  let c ← get
  throw ⟨code.text, some (min c.bytes.size (c.pos + 1))⟩

def failCustom {α : Type} (text : String) : ReadM α :=
  throw ⟨text, none⟩

def fix {α : Type} (x : ReadM α) : ReadM α :=
  tryCatch x fun e => do
    let c ← get
    throw { e with index := some (e.index.getD c.pos) }

def isBlankByte (b : UInt8) : Bool := b == 32 || b == 10 || b == 9 || b == 13

def blankEnd (bytes : ByteArray) (i : Nat) : Nat :=
  if h : i < bytes.size then
    if isBlankByte bytes[i] then blankEnd bytes (i + 1) else i
  else i
termination_by bytes.size - i

def skipBlank : ReadM (Option UInt8) := do
  let c ← get
  set { c with pos := blankEnd c.bytes c.pos }
  peek

def expectWord (word : List UInt8) : ReadM Unit :=
  word.forM fun expected => do
    match ← next with
    | none => failHere .eofValue
    | some b => if b != expected then failHere .expectedIdent

def isDigit (b : UInt8) : Bool := 48 ≤ b && b ≤ 57

end Json

end MemBridge
