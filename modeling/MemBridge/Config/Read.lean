import MemBridge.Json.Parse
import MemBridge.Decimal.Text
import MemBridge.Text.Quoted

/-!
Reading configuration records from JSON text.

A `Schema` lists the fields of a record and the type each holds. A record is read from an
object, whose members may come in any order and may include unknown names (their values are
skipped), or from an array that gives the fields in schema order (missing trailing fields are
absent). A field named twice is an error. Type errors name what the text holds and what the
field expects, and are reported where the reader stands after the offending value; errors of a
whole record are reported after the blanks that follow it.
-/

namespace MemBridge

namespace Config

open Json

/-- The type a configuration field holds. -/
inductive FieldType where
  | bool
  | text
  /-- An unsigned word; `expects` names it in messages (`usize`, `u64`). -/
  | word (expects : String)
  /-- One of fixed names, written as a string. -/
  | choice (names : List String)

/-- A field value as read. -/
inductive FieldValue where
  | bool (b : Bool)
  | text (s : String)
  | word (n : Nat)
  | choice (index : Nat)

/-- The fields of a record, in declaration order, and the record's name. -/
structure Schema where
  name : String
  fields : List (String × FieldType)

def floatMention (x : Float) : String :=
  let t := Binary.plainText x
  if t.contains '.' || x.isNaN || x.isInf then t else t ++ ".0"

def numberMention : Number → String
  | .nat n => s!"integer `{n}`"
  | .neg i => s!"integer `{i}`"
  | .float x => s!"floating point `{floatMention x}`"

def invalidType {α : Type} (found expects : String) : ReadM α :=
  failCustom s!"invalid type: {found}, expected {expects}"

/-- The type error for the value at the cursor, read past that value. -/
def unexpectedHere {α : Type} (expects : String) : ReadM α := fix do
  let b ← peekOrNull
  if b == 110 then eat; expectWord [117, 108, 108]; invalidType "null" expects
  else if b == 116 then eat; expectWord [114, 117, 101]; invalidType "boolean `true`" expects
  else if b == 102 then eat; expectWord [97, 108, 115, 101]; invalidType "boolean `false`" expects
  else if b == 45 then eat; invalidType (numberMention (← readNumber false)) expects
  else if isDigit b then invalidType (numberMention (← readNumber true)) expects
  else if b == 34 then eat; invalidType ("string " ++ Text.quoted (← readString)) expects
  else if b == 91 then invalidType "sequence" expects
  else if b == 123 then invalidType "map" expects
  else failPeek .expectedValue

def valueStart : ReadM UInt8 := do
  match ← skipBlank with
  | some b => return b
  | none => failPeek .eofValue

def readBool : ReadM Bool := fix do
  match ← valueStart with
  | 116 => eat; expectWord [114, 117, 101]; return true
  | 102 => eat; expectWord [97, 108, 115, 101]; return false
  | _ => unexpectedHere "a boolean"

def readText : ReadM String := fix do
  match ← valueStart with
  | 34 => eat; readString
  | _ => unexpectedHere "a string"

/-- Reads an unsigned word. -/
def readWord (expects : String) : ReadM Nat := fix do
  let b ← valueStart
  let n ← if b == 45 then do eat; readNumber false
    else if isDigit b then readNumber true
    else unexpectedHere expects
  match n with
  | .nat n => return n
  | .neg i => failCustom s!"invalid value: integer `{i}`, expected {expects}"
  | .float x => invalidType s!"floating point `{floatMention x}`" expects

/-- The names of a choice as messages list them. -/
def oneOf (names : List String) : String :=
  match names with
  | [] => "nothing"
  | [a] => s!"`{a}`"
  | [a, b] => s!"`{a}` or `{b}`"
  | _ => "one of " ++ ", ".intercalate (names.map fun n => s!"`{n}`")

/-- Reads the name of a choice (a string) and finds it among the names. -/
def readChoiceName (names : List String) : ReadM Nat := fix do
  let name ← match ← valueStart with
    | 34 => do eat; readString
    | _ => unexpectedHere "variant identifier"
  match names.idxOf? name with
  | some i => return i
  | none => failCustom s!"unknown variant `{name}`, expected {oneOf names}"

def readUnit : ReadM Unit := fix do
  match ← valueStart with
  | 110 => eat; expectWord [117, 108, 108]
  | _ => unexpectedHere "unit"

/-- Reads a choice: its name as a string, or an object `{"name": null}`. -/
def readChoice (names : List String) : ReadM Nat := do
  match ← skipBlank with
  | some 34 => readChoiceName names
  | some 123 =>
    eat
    let i ← readChoiceName names
    objectColonAt
    readUnit
    match ← skipBlank with
    | some 125 => eat; return i
    | some _ => failHere .expectedValue
    | none => failHere .eofObject
  | some _ => failPeek .expectedValue
  | none => failPeek .eofValue
where
  /-- The colon after the name of a choice. -/
  objectColonAt : ReadM Unit := do
    match ← skipBlank with
    | some 58 => eat
    | some _ => failPeek .expectedColon
    | none => failPeek .eofObject

def readField : FieldType → ReadM FieldValue
  | .bool => FieldValue.bool <$> readBool
  | .text => FieldValue.text <$> readText
  | .word e => FieldValue.word <$> readWord e
  | .choice names => FieldValue.choice <$> readChoice names

/-- Reads the members of an object into the fields of a schema. -/
def readMembers (schema : Schema) (first : Bool) (found : List (Option FieldValue)) :
    Nat → ReadM (List (Option FieldValue))
  | 0 => failHere .eofObject
  | fuel + 1 => do
    match ← nextKey first with
    | none => return found
    | some key =>
      match schema.fields.findIdx? (·.1 == key) with
      | some i =>
        if (found.getD i none).isSome then failCustom s!"duplicate field `{key}`"
        objectColon
        let v ← readField ((schema.fields.getD i ("", .bool)).2)
        readMembers schema false (found.set i (some v)) fuel
      | none =>
        objectColon
        skipValue
        readMembers schema false found fuel

/-- Reads array items into the fields of a schema, in order. -/
def readItems (first : Bool) : List (String × FieldType) → ReadM (List (Option FieldValue))
  | [] => pure []
  | (_, t) :: rest => do
    match ← nextItem first with
    | none => return none :: (← readItems false rest)
    | some _ =>
      let v ← readField t
      return some v :: (← readItems false rest)

/-- Reads a record of a schema; absent fields are `none`. -/
def readRecord (schema : Schema) : ReadM (List (Option FieldValue)) := fix do
  match ← valueStart with
  | 91 =>
    eat
    bracketed (readItems true schema.fields) closeList
  | 123 =>
    eat
    let c ← get
    bracketed (readMembers schema true (schema.fields.map fun _ => none)
      (c.bytes.size - c.pos + 1)) closeObject
  | _ => unexpectedHere s!"struct {schema.name}"

def parseRecord (schema : Schema) (text : String) : Except String (List (Option FieldValue)) :=
  let bytes := text.toUTF8
  match (do let v ← readRecord schema; finish; pure v : ReadM _).run ⟨bytes, 0⟩ with
  | .ok v _ => .ok v
  | .error e _ => .error (e.message bytes)

end Config

end MemBridge
