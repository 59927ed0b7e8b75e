import MemBridge.Json.Value
import MemBridge.Json.Number
import MemBridge.Json.Text

/-!
Reading whole JSON values.

`readValue` reads any value, with at most 127 arrays and objects open at once; opening one
more is the error "recursion limit exceeded". `skipValue` checks the syntax of a value without
building it and without a nesting limit. `finish` checks that only blanks follow a value.
Inside arrays and objects, the end of the text, a missing comma, a trailing comma and a key
that is no string each have their own error, reported at the byte after the cursor.
-/

namespace MemBridge

namespace Json

def depthLimit : Nat := 128

def numberValue : Number → Value
  | .nat n => .nat n
  | .neg i => .neg i
  | .float x => .float x

/-- Ends an array after its last item: a closing bracket must follow. -/
def closeList : ReadM Unit := do
  match ← skipBlank with
  | some 93 => eat
  | some 44 =>
    eat
    match ← skipBlank with
    | some 93 => failPeek .trailingComma
    | _ => failPeek .trailingCharacters
  | some _ => failPeek .trailingCharacters
  | none => failPeek .eofList

/-- Ends an object after its last member: a closing brace must follow. -/
def closeObject : ReadM Unit := do
  match ← skipBlank with
  | some 125 => eat
  | some 44 => failPeek .trailingComma
  | some _ => failPeek .trailingCharacters
  | none => failPeek .eofObject

def objectColon : ReadM Unit := do
  match ← skipBlank with
  | some 58 => eat
  | some _ => failPeek .expectedColon
  | none => failPeek .eofObject

/-- Moves to the next item of an array: `none` at its closing bracket, else the first byte of
the item, past a separating comma when `first` is false. -/
def nextItem (first : Bool) : ReadM (Option UInt8) := do
  match ← skipBlank with
  | some 93 => return none
  | none => failPeek .eofList
  | some b =>
    let start ←
      if b == 44 && !first then do eat; skipBlank
      else if first then pure (some b)
      else failPeek .expectedListCommaOrEnd
    match start with
    | some 93 => failPeek .trailingComma
    | none => failPeek .eofValue
    | some b => return some b

/-- Reads the next key of an object: `none` at its closing brace, else the key, past a
separating comma when `first` is false. -/
def nextKey (first : Bool) : ReadM (Option String) := do
  match ← skipBlank with
  | some 125 => return none
  | none => failPeek .eofObject
  | some b =>
    let start ←
      if b == 44 && !first then do eat; skipBlank
      else if first then pure (some b)
      else failPeek .expectedObjectCommaOrEnd
    match start with
    | some 34 => eat; return some (← readString)
    | some 125 => failPeek .trailingComma
    | some _ => failPeek .keyMustBeString
    | none => failPeek .eofValue

def attempt {α : Type} (x : ReadM α) : ReadM (Except ReadError α) :=
  tryCatch (Except.ok <$> x) (fun e => pure (.error e))

/-- The result of a bracketed read and of its closing: the first failure wins, but the
closing is read in any case. -/
def bracketed {α : Type} (body : ReadM α) (close : ReadM Unit) : ReadM α := do
  let r ← attempt body
  let c ← attempt close
  match r, c with
  | .ok v, .ok () => return v
  | .error e, _ => throw e
  | _, .error e => throw e

mutual

/-- Reads a value, with `depth` levels of nesting still allowed. -/
def readValueAt (depth : Nat) : Nat → ReadM Value
  | 0 => failHere .eofValue
  | fuel + 1 => fix do
    match ← skipBlank with
    | none => failPeek .eofValue
    | some 110 => eat; expectWord [117, 108, 108]; return .null
    | some 116 => eat; expectWord [114, 117, 101]; return .bool true
    | some 102 => eat; expectWord [97, 108, 115, 101]; return .bool false
    | some 45 => eat; return numberValue (← readNumber false)
    | some 34 => eat; return .str (← readString)
    | some 91 =>
      if depth ≤ 1 then failPeek .recursionLimit
      eat
      return .arr (← bracketed (readItems (depth - 1) true [] fuel) closeList)
    | some 123 =>
      if depth ≤ 1 then failPeek .recursionLimit
      eat
      return .obj (← bracketed (readMembers (depth - 1) true [] fuel) closeObject)
    | some b =>
      if isDigit b then return numberValue (← readNumber true)
      failPeek .expectedValue

/-- Reads the items of an array up to, not including, its closing bracket. -/
def readItems (depth : Nat) (first : Bool) (acc : List Value) : Nat → ReadM (List Value)
  | 0 => failHere .eofList
  | fuel + 1 => do
    match ← nextItem first with
    | none => return acc.reverse
    | some _ =>
      let v ← readValueAt depth fuel
      readItems depth false (v :: acc) fuel

/-- Reads the members of an object up to, not including, its closing brace. -/
def readMembers (depth : Nat) (first : Bool) (acc : List (String × Value)) :
    Nat → ReadM (List (String × Value))
  | 0 => failHere .eofObject
  | fuel + 1 => do
    let key? ← nextKey first
    match key? with
    | none => return acc.reverse
    | some key =>
      objectColon
      let v ← readValueAt depth fuel
      readMembers depth false ((key, v) :: acc) fuel

end

def readValue : ReadM Value := do
  let c ← get
  readValueAt depthLimit (2 * c.bytes.size + 2)

def finish : ReadM Unit := do
  match ← skipBlank with
  | none => pure ()
  | some _ => failPeek .trailingCharacters

/-- Closes finished arrays and objects after a value: returns the innermost one still open
with its enclosing ones, or `none` when the outermost value is complete. -/
def closeFrames (acceptComma : Bool) (frame : UInt8) (stack : List UInt8) :
    Nat → ReadM (Option (UInt8 × List UInt8))
  | 0 => failHere .eofValue
  | fuel + 1 => do
    match ← skipBlank with
    | some 44 =>
      if acceptComma then eat; return some (frame, stack)
      else return some (frame, stack)
    | some 93 =>
      if frame == 91 then
        eat
        match stack with
        | [] => return none
        | f :: rest => closeFrames true f rest fuel
      else if acceptComma then failPeek .expectedObjectCommaOrEnd
      else return some (frame, stack)
    | some 125 =>
      if frame == 123 then
        eat
        match stack with
        | [] => return none
        | f :: rest => closeFrames true f rest fuel
      else if acceptComma then failPeek .expectedListCommaOrEnd
      else return some (frame, stack)
    | some _ =>
      if acceptComma then
        failPeek (if frame == 91 then .expectedListCommaOrEnd else .expectedObjectCommaOrEnd)
      else return some (frame, stack)
    | none => failPeek (if frame == 91 then .eofList else .eofObject)

/-- Skips values without building them: `enclosing` is the innermost open array or object and
`stack` the ones around it. -/
def skipValueLoop (stack : List UInt8) (enclosing : Option UInt8) : Nat → ReadM Unit
  | 0 => failHere .eofValue
  | fuel + 1 => do
    let b ← match ← skipBlank with
      | some b => pure b
      | none => failPeek .eofValue
    let opened : Option UInt8 ← match b with
      | 110 => do eat; expectWord [117, 108, 108]; pure none
      | 116 => do eat; expectWord [114, 117, 101]; pure none
      | 102 => do eat; expectWord [97, 108, 115, 101]; pure none
      | 45 => do eat; skipNumber; pure none
      | 34 => do eat; skipString; pure none
      | 91 | 123 => do eat; pure (some b)
      | _ => if isDigit b then do skipNumber; pure none else failPeek .expectedValue
    let stack := match opened with
      | some _ => enclosing.toList ++ stack
      | none => stack
    let current : Option (Bool × UInt8 × List UInt8) := match opened with
      | some f => some (false, f, stack)
      | none => match enclosing with
        | some f => some (true, f, stack)
        | none => match stack with
          | f :: rest => some (true, f, rest)
          | [] => none
    match current with
    | none => return ()
    | some (acceptComma, frame, stack) =>
      match ← closeFrames acceptComma frame stack fuel with
      | none => return ()
      | some (frame, stack) =>
        if frame == 123 then
          match ← skipBlank with
          | some 34 => eat
          | some _ => failPeek .keyMustBeString
          | none => failPeek .eofObject
          skipString
          match ← skipBlank with
          | some 58 => eat
          | some _ => failPeek .expectedColon
          | none => failPeek .eofObject
        skipValueLoop stack (some frame) fuel

def skipValue : ReadM Unit := do
  let c ← get
  skipValueLoop [] none (2 * c.bytes.size + 2)

def parse (text : String) : Except String Value :=
  let bytes := text.toUTF8
  match (do let v ← readValue; finish; pure v : ReadM Value).run ⟨bytes, 0⟩ with
  | .ok v _ => .ok v
  | .error e _ => .error (e.message bytes)

end Json

end MemBridge
