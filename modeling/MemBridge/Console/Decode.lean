import MemBridge.Json.Value
import MemBridge.Report.Doc
import MemBridge.Kind.Parse

/-!
Reading requests.

A request is a JSON object. A field that is missing, of the wrong type or out of range makes the
request malformed: it is refused with a `Refusal`, whose document is an error named
`DriverError`, apart from the errors of the library.

Optional fields treat `null` as absent. Float fields take a number or one of the texts `NaN`,
`nan`, `inf`, `Infinity`, `-inf` and `-Infinity`.
-/

namespace MemBridge

namespace Console

/-- Why a request cannot be carried out as written. -/
structure Refusal where
  message : String

abbrev Decode := Except Refusal

def refuse {α : Type} (message : String) : Decode α := .error ⟨message⟩

def Refusal.doc (r : Refusal) : Doc :=
  Doc.record [("error", Doc.str "DriverError"), ("message", Doc.str r.message)]

open Json

def need (v : Value) (key : String) : Decode Value :=
  match v.field? key with
  | some x => .ok x
  | none => refuse s!"missing field '{key}'"

def opt (v : Value) (key : String) : Option Value :=
  match v.field? key with
  | some .null => none
  | other => other

def asString (key : String) : Value → Decode String
  | .str s => .ok s
  | _ => refuse s!"field '{key}' must be a string"

def asBool (key : String) : Value → Decode Bool
  | .bool b => .ok b
  | _ => refuse s!"field '{key}' must be a boolean"

def asWord (key : String) : Value → Decode Nat
  | .nat n => .ok n
  | _ => refuse s!"field '{key}' must be a non-negative integer"

def asInt (key : String) : Value → Decode Int
  | .nat n => if n < Nat.pow 2 63 then .ok n else refuse s!"field '{key}' must be an integer"
  | .neg i => .ok i
  | _ => refuse s!"field '{key}' must be an integer"

/-- A float: a number, or a text naming a non-finite value. -/
def asFloat (key : String) : Value → Decode Float
  | .nat n => .ok (Binary.nearest n)
  | .neg i => .ok (-(Binary.nearest i.natAbs))
  | .float x => .ok x
  | .str "NaN" | .str "nan" => .ok (0.0 / 0.0)
  | .str "inf" | .str "Infinity" => .ok (1.0 / 0.0)
  | .str "-inf" | .str "-Infinity" => .ok (-1.0 / 0.0)
  | _ => refuse s!"field '{key}' must be a number"

def asArray (key : String) : Value → Decode (List Value)
  | .arr xs => .ok xs
  | _ => refuse s!"field '{key}' must be an array"

def asWords (key : String) (v : Value) : Decode (List Nat) := do
  (← asArray key v).mapM (asWord key)

def getString (v : Value) (key : String) : Decode String := do asString key (← need v key)

def getBool (v : Value) (key : String) : Decode Bool := do asBool key (← need v key)

def getWord (v : Value) (key : String) : Decode Nat := do asWord key (← need v key)

def getInt (v : Value) (key : String) : Decode Int := do asInt key (← need v key)

def getFloat (v : Value) (key : String) : Decode Float := do asFloat key (← need v key)

def getArray (v : Value) (key : String) : Decode (List Value) := do asArray key (← need v key)

def getWords (v : Value) (key : String) : Decode (List Nat) := do asWords key (← need v key)

def getOpt {α : Type} (v : Value) (key : String) (f : String → Value → Decode α) :
    Decode (Option α) :=
  match opt v key with
  | some x => some <$> f key x
  | none => .ok none

def memoryKind (s : String) : Except Fault MemoryKind :=
  if s.startsWith "Other:" then .ok (.other (s.drop 6).toString) else MemoryKind.parse s

/-- Reads an access mode; absent means reading and writing. -/
def accessMode (v : Value) : Decode AccessMode := do
  match ← getOpt v "mode" asString with
  | none | some "readwrite" => .ok .readWrite
  | some "read" => .ok .read
  | some "write" => .ok .write
  | some m => refuse s!"bad access mode '{m}'"

/-- Reads a media type. -/
def mediaType (s : String) : Decode MediaType :=
  match s with
  | "any" => .ok .any
  | "tensors" => .ok .tensors
  | "image" => .ok .image
  | "audio" => .ok .audio
  | m => refuse s!"bad media type '{m}'"

end Console

end MemBridge
