import MemBridge.Layout.Text
import MemBridge.Report.Doc

/-!
Metadata dictionaries.

A `Dictionary` is a named list of entries, each a key and a typed `MetaValue`, in the order
the keys were first set: setting a key that exists replaces its value in place. Typed reads
go through a `ValueType`; `Dictionary.get` says why a read fails (no such key, or a value of
another kind), `Dictionary.tryGet` gives `none` in both cases and `Dictionary.getOr` a default.

A tensor value refers to a tensor of the world by its identity and carries the layout of that
tensor, which never changes, so that a dictionary can be written out on its own.
-/

namespace MemBridge

/-- A reference to a tensor: its identity and its layout. -/
structure TensorRef where
  id : Nat
  layout : Layout
  deriving DecidableEq, Repr, Inhabited

/-- A typed metadata value. -/
inductive MetaValue where
  | int (v : Int)
  | float (x : Float)
  | bool (b : Bool)
  | string (s : String)
  | ints (vs : List Int)
  | floats (xs : List Float)
  | sizes (ns : List Nat)
  | strings (ss : List String)
  | bytes (bs : List UInt8)
  | tensor (t : TensorRef)
  deriving Inhabited

namespace MetaValue

/-- The name of the kind of a value, as error messages say it. -/
def kind : MetaValue → String
  | .int _ => "int"
  | .float _ => "float"
  | .bool _ => "bool"
  | .string _ => "string"
  | .ints _ => "int vector"
  | .floats _ => "float vector"
  | .sizes _ => "size vector"
  | .strings _ => "string vector"
  | .bytes _ => "bytes"
  | .tensor _ => "tensor"

def tensors : MetaValue → List TensorRef
  | .tensor t => [t]
  | _ => []

def floatData (x : Float) : Doc :=
  if x.isNaN || x.isInf then .null else .float x

/-- The value as data: byte strings by their length, tensors by their layout text. -/
def toData : MetaValue → Doc
  | .int v => .int v
  | .float x => floatData x
  | .bool b => .bool b
  | .string s => Doc.str s
  | .ints vs => .arr (vs.map Doc.int)
  | .floats xs => .arr (xs.map floatData)
  | .sizes ns => Doc.nats ns
  | .strings ss => .arr (ss.map Doc.str)
  | .bytes bs => Doc.nat bs.length
  | .tensor t => Doc.str t.layout.text

end MetaValue

/-- The types a value can be read as. `i32` reads an integer that fits 32 bits. -/
inductive ValueType where
  | int
  | i32
  | float
  | bool
  | string
  | ints
  | floats
  | sizes
  | strings
  | bytes
  | tensor
  deriving DecidableEq, Repr

/-- Whether a value can be read as a type. -/
def MetaValue.fits : MetaValue → ValueType → Bool
  | .int _, .int => true
  | .int v, .i32 => decide (-Int.pow 2 31 ≤ v ∧ v < Int.pow 2 31)
  | .float _, .float => true
  | .bool _, .bool => true
  | .string _, .string => true
  | .ints _, .ints => true
  | .floats _, .floats => true
  | .sizes _, .sizes => true
  | .strings _, .strings => true
  | .bytes _, .bytes => true
  | .tensor _, .tensor => true
  | _, _ => false

/-- A named, insertion-ordered set of typed entries. -/
structure Dictionary where
  name : String
  entries : List (String × MetaValue) := []
  deriving Inhabited

namespace Dictionary

def empty (name : String) : Dictionary := ⟨name, []⟩

def value? (d : Dictionary) (key : String) : Option MetaValue :=
  (d.entries.find? (·.1 == key)).map (·.2)

def contains (d : Dictionary) (key : String) : Bool := (d.value? key).isSome

def set (d : Dictionary) (key : String) (v : MetaValue) : Dictionary :=
  if d.contains key then
    { d with entries := d.entries.map fun e => if e.1 == key then (key, v) else e }
  else { d with entries := d.entries ++ [(key, v)] }

def remove (d : Dictionary) (key : String) : Option MetaValue × Dictionary :=
  match d.value? key with
  | some v => (some v, { d with entries := d.entries.eraseP (·.1 == key) })
  | none => (none, d)

def keys (d : Dictionary) : List String := d.entries.map (·.1)

def size (d : Dictionary) : Nat := d.entries.length

/-- The value of a key read as a type, or why it cannot be. -/
def get (d : Dictionary) (key : String) (t : ValueType) : Except Fault MetaValue :=
  match d.value? key with
  | none => .error (.invalidArgument s!"metadata '{d.name}' has no field '{key}'")
  | some v =>
    if v.fits t then .ok v
    else .error (.invalidArgument
      s!"metadata '{d.name}' field '{key}' holds a {v.kind} of unexpected type")

def tryGet (d : Dictionary) (key : String) (t : ValueType) : Option MetaValue :=
  (d.value? key).filter (·.fits t)

def getOr (d : Dictionary) (key : String) (t : ValueType) (default : MetaValue) : MetaValue :=
  (d.tryGet key t).getD default

def toData (d : Dictionary) : Doc :=
  Doc.record (d.entries.map fun e => (e.1, e.2.toData))

def tensors (d : Dictionary) : List TensorRef :=
  d.entries.flatMap (·.2.tensors)

theorem keys_set_of_contains {d : Dictionary} {key : String} (v : MetaValue)
    (h : d.contains key = true) : (d.set key v).keys = d.keys := by
  simp only [set, h, if_true, keys, List.map_map]
  congr 1
  funext e
  simp only [Function.comp]
  split <;> simp_all

theorem keys_set_of_not_contains {d : Dictionary} {key : String} (v : MetaValue)
    (h : d.contains key = false) : (d.set key v).keys = d.keys ++ [key] := by
  simp [set, h, keys]

end Dictionary

end MemBridge
