import MemBridge.Console.Decode
import MemBridge.Metadata.Records

/-!
Answers about metadata.

Values travel as objects with exactly one member whose name is the value's type (`int`,
`i32`, `float`, `bool`, `str`, `ints`, `floats`, `sizes`, `strs`, `bytes`, `tensor`); bytes
are lowercase hexadecimal. A tensor value names a tensor through `TensorLookup`, which only
a script can provide.

A list of dictionary operations runs on one dictionary and answers one document per
operation; a malformed operation answers a refusal and the list goes on.
-/

namespace MemBridge

namespace Console

open Json

abbrev TensorLookup := String → Decode TensorRef

def noTensors : TensorLookup := fun name => refuse s!"'{name}' is not a tensor"

/-- Reads hexadecimal text as bytes. -/
def hexBytes (s : String) : Decode (List UInt8) := do
  let cs := s.toList
  if cs.length % 2 = 1 then refuse "hex string of odd length"
  let digit := fun (c : Char) =>
    if '0' ≤ c ∧ c ≤ '9' then some (c.toNat - 48)
    else if 'a' ≤ c ∧ c ≤ 'f' then some (c.toNat - 87)
    else if 'A' ≤ c ∧ c ≤ 'F' then some (c.toNat - 55)
    else none
  let rec pairs : List Char → Decode (List UInt8)
    | a :: b :: rest => do
      match digit a, digit b with
      | some x, some y => return (UInt8.ofNat (x * 16 + y)) :: (← pairs rest)
      | _, _ => refuse "invalid hex digit"
    | _ => pure []
  pairs cs

def hexText (bs : List UInt8) : String :=
  String.ofList (bs.flatMap fun b => [Doc.hexDigit (b.toNat / 16), Doc.hexDigit (b.toNat % 16)])

/-- Reads a value type name. -/
def valueType (s : String) : Decode ValueType :=
  match s with
  | "int" => .ok .int
  | "i32" => .ok .i32
  | "float" => .ok .float
  | "bool" => .ok .bool
  | "str" => .ok .string
  | "ints" => .ok .ints
  | "floats" => .ok .floats
  | "sizes" => .ok .sizes
  | "strs" => .ok .strings
  | "bytes" => .ok .bytes
  | "tensor" => .ok .tensor
  | t => refuse s!"unknown type '{t}'"

def tagged (v : Value) : Decode (String × Value) :=
  match v with
  | .obj [m] => .ok m
  | .obj _ => refuse "value must have exactly one tag"
  | _ => refuse "value must be a tagged object"

/-- A tagged payload read as one shape; a payload of another shape is refused with the tag
alone as the message. -/
def payload {α : Type} (tag : String) (read : String → Value → Decode α) (x : Value) :
    Decode α :=
  match read tag x with
  | .ok a => .ok a
  | .error _ => refuse tag

def payloads {α : Type} (tag : String) (read : String → Value → Decode α) (x : Value) :
    Decode (List α) := do
  (← payload tag asArray x).mapM (payload tag read)

/-- Reads a tagged value. -/
def metaValue (lookup : TensorLookup) (v : Value) : Decode MetaValue := do
  let (tag, x) ← tagged v
  match tag with
  | "int" | "i32" => return .int (← payload tag asInt x)
  | "float" => return .float (← payload tag asFloat x)
  | "bool" => return .bool (← payload tag asBool x)
  | "str" => return .string (← payload tag asString x)
  | "ints" => return .ints (← payloads tag asInt x)
  | "floats" => return .floats (← payloads tag asFloat x)
  | "sizes" => return .sizes (← payloads tag asWord x)
  | "strs" => return .strings (← payloads tag asString x)
  | "bytes" => return .bytes (← hexBytes (← payload tag asString x))
  | "tensor" => return .tensor (← lookup (← payload tag asString x))
  | t => refuse s!"unknown value tag '{t}'"

/-- The tag of a value type in answers. -/
def typeTag : ValueType → String
  | .int => "int"
  | .i32 => "i32"
  | .float => "float"
  | .bool => "bool"
  | .string => "str"
  | .ints => "ints"
  | .floats => "floats"
  | .sizes => "sizes"
  | .strings => "strs"
  | .bytes => "bytes"
  | .tensor => "tensor"

/-- The type a value has. -/
def typeOf : MetaValue → ValueType
  | .int _ => .int
  | .float _ => .float
  | .bool _ => .bool
  | .string _ => .string
  | .ints _ => .ints
  | .floats _ => .floats
  | .sizes _ => .sizes
  | .strings _ => .strings
  | .bytes _ => .bytes
  | .tensor _ => .tensor

/-- The content of a value in answers. -/
def content : MetaValue → Doc
  | .int v => .int v
  | .float x => .float x
  | .bool b => .bool b
  | .string s => Doc.str s
  | .ints vs => .arr (vs.map Doc.int)
  | .floats xs => .arr (xs.map Doc.float)
  | .sizes ns => Doc.nats ns
  | .strings ss => .arr (ss.map Doc.str)
  | .bytes bs => Doc.str (hexText bs)
  | .tensor t => Doc.atom (.tensor t.id)

def taggedDoc (t : ValueType) (v : MetaValue) : Doc :=
  Doc.record [(typeTag t, content v)]

def valueDoc (v : MetaValue) : Doc := taggedDoc (typeOf v) v

def dictDoc (d : Dictionary) : Doc :=
  Doc.record [("name", Doc.str d.name), ("keys", .arr (d.keys.map Doc.str)),
    ("json", d.toData)]

/-- Runs one dictionary operation. -/
def dictOp (lookup : TensorLookup) (d : Dictionary) (op : Value) : Decode (Doc × Dictionary) := do
  match ← getString op "op" with
  | "set" =>
    let key ← getString op "key"
    let v ← metaValue lookup (← need op "value")
    return (.null, d.set key v)
  | "get" =>
    let key ← getString op "key"
    let t ← valueType (← getString op "type")
    return (Doc.ofExcept (taggedDoc t) (d.get key t), d)
  | "try_get" =>
    let key ← getString op "key"
    let t ← valueType (← getString op "type")
    return (Doc.opt (taggedDoc t) (d.tryGet key t), d)
  | "get_or" =>
    let key ← getString op "key"
    let (tag, x) ← tagged (← need op "default")
    let t ← valueType tag
    let fallback ← match t with
      | .i32 => do
        let n ← asInt tag x
        if -Int.pow 2 31 ≤ n ∧ n < Int.pow 2 31 then pure (MetaValue.int n)
        else refuse "i32 default"
      | _ => metaValue lookup (.obj [(tag, x)])
    return (taggedDoc t (d.getOr key t fallback), d)
  | "value" =>
    let key ← getString op "key"
    return (Doc.opt valueDoc (d.value? key), d)
  | "remove" =>
    let key ← getString op "key"
    let (v, d) := d.remove key
    return (Doc.opt valueDoc v, d)
  | "contains" =>
    let key ← getString op "key"
    return (.bool (d.contains key), d)
  | "keys" => return (.arr (d.keys.map Doc.str), d)
  | "len" => return (Doc.nat d.size, d)
  | "is_empty" => return (.bool (d.size == 0), d)
  | "json" => return (d.toData, d)
  | "name" => return (Doc.str d.name, d)
  | "set_name" =>
    let name ← getString op "name"
    return (.null, { d with name })
  | o => refuse s!"unknown dict op '{o}'"

/-- Runs dictionary operations in order; a refused operation answers its refusal. -/
def dictOps (lookup : TensorLookup) (d : Dictionary) : List Value → List Doc × Dictionary
  | [] => ([], d)
  | op :: rest =>
    let (doc, d) := match dictOp lookup d op with
      | .ok r => r
      | .error r => (r.doc, d)
    let (docs, d) := dictOps lookup d rest
    (doc :: docs, d)

/-- A dictionary given as a name and a list of `[key, value]` entries. -/
def dictionaryOf (lookup : TensorLookup) (v : Value) : Decode Dictionary := do
  let name ← getString v "name"
  let entries ← (← getArray v "entries").mapM fun e => do
    match e with
    | .arr [k, x] => return (← asString "entries" k, ← metaValue lookup x)
    | _ => refuse "entries must be [key, value] pairs"
  return Dictionary.ofEntries name entries

/-- A record kind by its request name. -/
def recordKind (s : String) : Decode RecordKind :=
  match s with
  | "timestamp" => .ok .timestamp
  | "detection" => .ok .detection
  | "classification" => .ok .classification
  | "object_id" => .ok .objectId
  | "source_id" => .ok .sourceId
  | "affine" => .ok .affine
  | "inference" => .ok .inference
  | k => refuse s!"unknown record kind '{k}'"

/-- The fields of a record. -/
def recordFields : Record → Doc
  | .timestamp t => Doc.record [("pts", .int t.pts), ("dts", Doc.opt Doc.int t.dts),
      ("duration", Doc.opt Doc.int t.duration)]
  | .detection t => Doc.record [("x_min", .float t.xMin), ("y_min", .float t.yMin),
      ("x_max", .float t.xMax), ("y_max", .float t.yMax),
      ("confidence", Doc.opt Doc.float t.confidence), ("id", .int t.id),
      ("parent_id", .int t.parentId), ("label_id", .int t.labelId), ("label", Doc.str t.label)]
  | .classification c => Doc.record [("label", Doc.str c.label), ("label_id", .int c.labelId),
      ("confidence", .float c.confidence)]
  | .objectId o => Doc.record [("id", .int o.id)]
  | .sourceId s => Doc.record [("batch_index", .int s.batchIndex), ("pts", .int s.pts),
      ("stream_id", .int s.streamId), ("roi_id", .int s.roiId), ("object_id", .int s.objectId)]
  | .affine m => Doc.record [("matrix", .arr (m.entries.map Doc.float))]
  | .inference i => Doc.record [("model_name", Doc.str i.modelName),
      ("layer_name", Doc.str i.layerName), ("format", Doc.str i.format),
      ("dims", Doc.nats i.dims), ("precision", Doc.str i.precision.name),
      ("data", Doc.opt (fun t => Doc.atom (.tensor t.id)) i.data),
      ("info", Doc.ofExcept (fun l => Doc.str l.text) i.info)]

def asI32 (key : String) (v : Value) : Decode Int := do
  let n ← asInt key v
  if -Int.pow 2 31 ≤ n ∧ n < Int.pow 2 31 then return n
  else refuse s!"field '{key}' must be a 32-bit integer"

def getOr {α : Type} (v : Value) (key : String) (f : String → Value → Decode α) (d : α) :
    Decode α := do
  return (← getOpt v key f).getD d

/-- A record given field by field; absent fields take their defaults. -/
def recordOf (lookup : TensorLookup) (kind : RecordKind) (f : Value) :
    Decode (Except Fault Record) := do
  match kind with
  | .timestamp =>
    return .ok (.timestamp ⟨← getOr f "pts" asInt 0, ← getOpt f "dts" asInt,
      ← getOpt f "duration" asInt⟩)
  | .detection =>
    return .ok (.detection ⟨← getOr f "x_min" asFloat 0.0, ← getOr f "y_min" asFloat 0.0,
      ← getOr f "x_max" asFloat 0.0, ← getOr f "y_max" asFloat 0.0,
      ← getOpt f "confidence" asFloat, ← getOr f "id" asI32 (-1),
      ← getOr f "parent_id" asI32 (-1), ← getOr f "label_id" asI32 (-1),
      ← getOr f "label" asString ""⟩)
  | .classification =>
    return .ok (.classification ⟨← getOr f "label" asString "", ← getOr f "label_id" asI32 0,
      ← getOr f "confidence" asFloat 0.0⟩)
  | .objectId => return .ok (.objectId ⟨← getOr f "id" asI32 0⟩)
  | .sourceId =>
    return .ok (.sourceId ⟨← getOr f "batch_index" asI32 0, ← getOr f "pts" asInt 0,
      ← getOr f "stream_id" asInt 0, ← getOr f "roi_id" asI32 0,
      ← getOr f "object_id" asI32 0⟩)
  | .affine =>
    let entries ← getOpt f "matrix" fun k v => do (← asArray k v).mapM (asFloat k)
    match entries with
    | none => return .ok (.affine ⟨1.0, 0.0, 0.0, 0.0, 1.0, 0.0⟩)
    | some es =>
      match AffineMap.ofEntries? es with
      | some m => return .ok (.affine m)
      | none => refuse "matrix must have 6 entries"
  | .inference =>
    let modelName ← getOr f "model_name" asString ""
    let layerName ← getOr f "layer_name" asString ""
    let format ← getOr f "format" asString ""
    let dims ← getOr f "dims" asWords []
    let precision ← getOr f "precision" asString "uint8"
    let data ← getOpt f "data" asString
    let data ← match data with
      | some name => some <$> lookup name
      | none => pure none
    return (ElementType.parse precision).map fun p =>
      .inference ⟨modelName, layerName, format, dims, p, data⟩

def answerRecord (req : Value) : Decode Doc := do
  let kind ← recordKind (← getString req "kind")
  let d ← dictionaryOf noTensors (← need req "dict")
  return Doc.ofExcept (fun r => Doc.record [("fields", recordFields r),
    ("to_dict", dictDoc r.toDict)]) (Record.ofDict kind d)

/-- Writes a record given field by field and reads it back. -/
def answerRecordToDict (req : Value) : Decode Doc := do
  let kind ← recordKind (← getString req "kind")
  let r ← recordOf noTensors kind (← need req "fields")
  return Doc.ofExcept (fun r =>
    let d := r.toDict
    Doc.record [("dict", dictDoc d),
      ("back", Doc.ofExcept recordFields (Record.ofDict kind d))]) r

def answerDict (req : Value) : Decode Doc := do
  let name ← getString req "name"
  let ops ← getArray req "ops"
  return .arr (dictOps noTensors (Dictionary.empty name) ops).1

def answerPixelBox (req : Value) : Decode Doc := do
  let r := pixelBox (← getFloat req "x_min") (← getFloat req "y_min") (← getFloat req "x_max")
    (← getFloat req "y_max") (← getWord req "width") (← getWord req "height")
  return Doc.nats [r.x, r.y, r.w, r.h]

def rectOf (key : String) (v : Value) : Decode Rect := do
  match ← asWords key v with
  | [x, y, w, h] => return ⟨x, y, w, h⟩
  | _ => refuse s!"field '{key}' must be [x, y, w, h]"

def floatPair (key : String) (v : Value) : Decode (Float × Float) := do
  match ← asArray key v with
  | [a, b] => return (← asFloat key a, ← asFloat key b)
  | _ => refuse s!"field '{key}' must be a pair"

/-- The map of a resized crop, applied to points. -/
def answerAffine (req : Value) : Decode Doc := do
  let (srcW, srcH) ← floatPair "src" (← need req "src")
  let (dstW, dstH) ← floatPair "dst" (← need req "dst")
  let src ← rectOf "src_rect" (← need req "src_rect")
  let dst ← rectOf "dst_rect" (← need req "dst_rect")
  let points ← getOr req "points" (fun k v => do (← asArray k v).mapM (floatPair k)) []
  match AffineMap.ofCrop srcW srcH dstW dstH src dst with
  | .error m => return Doc.fault (.invalidArgument m)
  | .ok m =>
    let back := match Record.ofDict .affine (Record.affine m).toDict with
      | .ok (.affine m2) => .bool (m.same m2)
      | .ok _ => .bool false
      | .error e => Doc.fault e
    return Doc.record [("matrix", .arr (m.entries.map Doc.float)),
      ("points", .arr (points.map fun p =>
        let q := m.apply p.1 p.2
        .arr [.float q.1, .float q.2])),
      ("roundtrip", back)]

end Console

end MemBridge
