import MemBridge.Metadata.Dictionary
import MemBridge.Metadata.Geometry
import MemBridge.Kind.Parse

/-!
Well-known metadata records.

Each record kind is stored as a dictionary of a fixed name (`RecordKind.dictName`); reading a
record checks that name first, then reads the fields in the order the record declares them, so
the first missing or mistyped required field is the one reported. Optional fields fall back
to a default when absent or of another type. Writing a record leaves out optional fields that
are absent, negative identifiers and empty labels of detections, and an empty format of
inference results.
-/

namespace MemBridge

/-- The kinds of well-known records. -/
inductive RecordKind where
  | timestamp
  | detection
  | classification
  | objectId
  | sourceId
  | affine
  | inference
  deriving DecidableEq, Repr

/-- The name of the dictionary that stores a record kind. -/
def RecordKind.dictName : RecordKind → String
  | .timestamp => "timestamp"
  | .detection => "detection"
  | .classification => "classification"
  | .objectId => "object_id"
  | .sourceId => "SourceIdentifierMetadata"
  | .affine => "AffineTransformMetadata"
  | .inference => "tensor"

namespace MetaValue

def asInt? : MetaValue → Option Int
  | .int v => some v
  | _ => none

def asFloat? : MetaValue → Option Float
  | .float x => some x
  | _ => none

def asString? : MetaValue → Option String
  | .string s => some s
  | _ => none

def asFloats? : MetaValue → Option (List Float)
  | .floats xs => some xs
  | _ => none

def asSizes? : MetaValue → Option (List Nat)
  | .sizes ns => some ns
  | _ => none

def asTensor? : MetaValue → Option TensorRef
  | .tensor t => some t
  | _ => none

end MetaValue

namespace Dictionary

def need {α : Type} [Inhabited α] (d : Dictionary) (key : String) (t : ValueType)
    (part : MetaValue → Option α) : Except Fault α := do
  return (part (← d.get key t)).getD default

def maybe {α : Type} (d : Dictionary) (key : String) (t : ValueType)
    (part : MetaValue → Option α) : Option α :=
  (d.tryGet key t).bind part

def expectName (d : Dictionary) (name : String) : Except Fault Unit :=
  if d.name == name then .ok ()
  else .error (.invalidArgument s!"expected '{name}' metadata, got '{d.name}'")

def setSome (d : Dictionary) (key : String) : Option MetaValue → Dictionary
  | some v => d.set key v
  | none => d

def ofEntries (name : String) (entries : List (String × MetaValue)) : Dictionary :=
  entries.foldl (fun d e => d.set e.1 e.2) (empty name)

end Dictionary

/-- Presentation and decode timestamps, in nanoseconds. -/
structure Timestamp where
  pts : Int
  dts : Option Int
  duration : Option Int

/-- A detected object with a normalized box. Identifiers are `-1` when absent. -/
structure Detection where
  xMin : Float
  yMin : Float
  xMax : Float
  yMax : Float
  confidence : Option Float := none
  id : Int := -1
  parentId : Int := -1
  labelId : Int := -1
  label : String := ""

/-- A class label. -/
structure Classification where
  label : String
  labelId : Int
  confidence : Float

/-- An object identity. -/
structure ObjectId where
  id : Int

/-- Which stream, batch slot and region a frame came from. -/
structure SourceId where
  batchIndex : Int
  pts : Int
  streamId : Int
  roiId : Int
  objectId : Int

/-- A raw output layer of an inference model. -/
structure InferenceResult where
  modelName : String
  layerName : String
  format : String
  dims : List Nat
  precision : ElementType
  data : Option TensorRef

/-- The layout of an inference result's dimensions; a layout whose size leaves the word stops
the computation. -/
def InferenceResult.info (r : InferenceResult) : Except Fault Layout :=
  match Layout.ofShape r.dims r.precision with
  | .ok l => .ok l
  | .error e => .error e.asHalt

/-- A well-known record. -/
inductive Record where
  | timestamp (r : Timestamp)
  | detection (r : Detection)
  | classification (r : Classification)
  | objectId (r : ObjectId)
  | sourceId (r : SourceId)
  | affine (r : AffineMap)
  | inference (r : InferenceResult)

namespace Record

open Dictionary in
/-- Reads a record of a kind from a dictionary. -/
def ofDict (kind : RecordKind) (d : Dictionary) : Except Fault Record := do
  d.expectName kind.dictName
  match kind with
  | .timestamp =>
    let pts ← d.need "pts" .int MetaValue.asInt?
    return .timestamp ⟨pts, d.maybe "dts" .int MetaValue.asInt?,
      d.maybe "duration" .int MetaValue.asInt?⟩
  | .detection =>
    let xMin ← d.need "x_min" .float MetaValue.asFloat?
    let yMin ← d.need "y_min" .float MetaValue.asFloat?
    let xMax ← d.need "x_max" .float MetaValue.asFloat?
    let yMax ← d.need "y_max" .float MetaValue.asFloat?
    let confidence := d.maybe "confidence" .float MetaValue.asFloat?
    let id := (d.maybe "id" .i32 MetaValue.asInt?).getD (-1)
    let parentId := (d.maybe "parent_id" .i32 MetaValue.asInt?).getD (-1)
    let labelId := (d.maybe "label_id" .i32 MetaValue.asInt?).getD (-1)
    let label := (d.maybe "label" .string MetaValue.asString?).getD ""
    return .detection ⟨xMin, yMin, xMax, yMax, confidence, id, parentId, labelId, label⟩
  | .classification =>
    let label ← d.need "label" .string MetaValue.asString?
    let labelId ← d.need "label_id" .i32 MetaValue.asInt?
    let confidence ← d.need "confidence" .float MetaValue.asFloat?
    return .classification ⟨label, labelId, confidence⟩
  | .objectId =>
    return .objectId ⟨← d.need "id" .i32 MetaValue.asInt?⟩
  | .sourceId =>
    let batchIndex ← d.need "batch_index" .i32 MetaValue.asInt?
    let pts ← d.need "pts" .int MetaValue.asInt?
    let streamId ← d.need "stream_id" .int MetaValue.asInt?
    return .sourceId ⟨batchIndex, pts, streamId,
      (d.maybe "roi_id" .i32 MetaValue.asInt?).getD 0,
      (d.maybe "object_id" .i32 MetaValue.asInt?).getD 0⟩
  | .affine =>
    let values ← d.need "matrix" .floats MetaValue.asFloats?
    match AffineMap.ofEntries? values with
    | some m => return .affine m
    | none => throw (.invalidArgument s!"affine matrix has {values.length} values, expected 6")
  | .inference =>
    let precision ← d.need "precision" .string MetaValue.asString?
    let modelName := (d.maybe "model_name" .string MetaValue.asString?).getD ""
    let layerName ← d.need "layer_name" .string MetaValue.asString?
    let format := (d.maybe "format" .string MetaValue.asString?).getD ""
    let dims ← d.need "dims" .sizes MetaValue.asSizes?
    let precision ← ElementType.parse precision
    return .inference ⟨modelName, layerName, format, dims, precision,
      d.maybe "data" .tensor MetaValue.asTensor?⟩

/-- The kind of a record. -/
def kind : Record → RecordKind
  | .timestamp _ => .timestamp
  | .detection _ => .detection
  | .classification _ => .classification
  | .objectId _ => .objectId
  | .sourceId _ => .sourceId
  | .affine _ => .affine
  | .inference _ => .inference

open Dictionary in
/-- Writes a record as its dictionary. -/
def toDict (r : Record) : Dictionary :=
  let d := empty r.kind.dictName
  match r with
  | .timestamp t =>
    ((d.set "pts" (.int t.pts)).setSome "dts" (t.dts.map .int)).setSome "duration"
      (t.duration.map .int)
  | .detection t =>
    let d := (((d.set "x_min" (.float t.xMin)).set "y_min" (.float t.yMin)).set "x_max"
      (.float t.xMax)).set "y_max" (.float t.yMax)
    let d := d.setSome "confidence" (t.confidence.map .float)
    let d := d.setSome "id" (if t.id ≥ 0 then some (.int t.id) else none)
    let d := d.setSome "parent_id" (if t.parentId ≥ 0 then some (.int t.parentId) else none)
    let d := d.setSome "label_id" (if t.labelId ≥ 0 then some (.int t.labelId) else none)
    d.setSome "label" (if t.label.isEmpty then none else some (.string t.label))
  | .classification c =>
    ((d.set "label" (.string c.label)).set "label_id" (.int c.labelId)).set "confidence"
      (.float c.confidence)
  | .objectId o => d.set "id" (.int o.id)
  | .sourceId s =>
    ((((d.set "batch_index" (.int s.batchIndex)).set "pts" (.int s.pts)).set "stream_id"
      (.int s.streamId)).set "roi_id" (.int s.roiId)).set "object_id" (.int s.objectId)
  | .affine m => d.set "matrix" (.floats m.entries)
  | .inference i =>
    let d := (((d.set "model_name" (.string i.modelName)).set "layer_name"
      (.string i.layerName)).set "dims" (.sizes i.dims)).set "precision"
      (.string i.precision.name)
    let d := d.setSome "format" (if i.format.isEmpty then none else some (.string i.format))
    d.setSome "data" (i.data.map .tensor)

end Record

end MemBridge
