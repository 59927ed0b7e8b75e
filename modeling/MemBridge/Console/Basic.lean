import MemBridge.Console.Decode
import MemBridge.Layout.Text
import MemBridge.Layout.Runs
import MemBridge.Image.Layout
import MemBridge.Frame.Description

/-!
Answers about kinds, layouts and frame descriptions.

Each answer reads its request, calls the library and writes what the library returned as a
document; a fault of the library is the answer's document in place of the result.
-/

namespace MemBridge

namespace Console

open Json

def library {α : Type} (f : α → Doc) (r : Except Fault α) : Decode Doc :=
  .ok (Doc.ofExcept f r)

def answerElementType (req : Value) : Decode Doc := do
  let name ← getString req "name"
  library (fun e => Doc.record [("name", Doc.str e.name), ("display", Doc.str e.name),
    ("size", Doc.nat e.size)]) (ElementType.parse name)

def answerMemoryKind (req : Value) : Decode Doc := do
  let name ← getString req "name"
  library (fun k => Doc.record [("name", Doc.str k.name),
    ("host_addressable", .bool k.hostAddressable)]) (memoryKind name)

def answerAccessMode (req : Value) : Decode Doc := do
  let m ← accessMode req
  return Doc.record [("is_read", .bool m.isRead), ("is_write", .bool m.isWrite)]

def formatCode (v : Value) : Decode Nat := do
  let n ← asWord "code" v
  if n < Nat.pow 2 32 then .ok n else refuse "format code must be a u32"

/-- Pixel format by name or code, with plane shapes on request. -/
def answerImageFormat (req : Value) : Decode Doc := do
  let format? ← match opt req "name" with
    | some v => do
      match ImageFormat.parse (← asString "name" v) with
      | .ok f => pure (Except.ok (some f))
      | .error e => pure (.error e)
    | none => do
      let code ← formatCode (← need req "code")
      pure (.ok (ImageFormat.ofCode? code))
  let width ← getOpt req "width" asWord
  let height ← getOpt req "height" asWord
  let indices ← getOpt req "indices" asWords
  match format? with
  | .error e => return Doc.fault e
  | .ok none => return Doc.record [("format", .null)]
  | .ok (some f) =>
    let base := [("format", Doc.str f.name), ("display", Doc.str f.name),
      ("code", Doc.nat f.code), ("planes", Doc.nat f.planes)]
    if width.isSome || height.isSome || indices.isSome then
      let shapes := (indices.getD [0, 1, 2, 3]).map fun i =>
        Doc.opt Doc.nats (f.planeShape i (width.getD 0) (height.getD 0))
      return Doc.record (("plane_shapes", .arr shapes) :: base)
    else return Doc.record base

def imageDoc (v : ImageView) : Doc :=
  Doc.record [("layout", Doc.str v.order.name), ("width", Doc.nat v.width),
    ("height", Doc.nat v.height), ("channels", Doc.nat v.channels), ("batch", Doc.nat v.batch),
    ("row_stride", Doc.nat v.rowStride), ("pixel_stride", Doc.nat v.pixelStride),
    ("channel_stride", Doc.opt Doc.nat v.channelStride)]

/-- Everything a layout tells about itself. -/
def layoutDoc (l : Layout) : Doc :=
  let text := l.text
  let roundtrip := match Layout.parse text with
    | .ok back => .bool (back == l)
    | .error e => Doc.fault e
  Doc.record [("display", Doc.str text), ("dtype", Doc.str l.elem.name),
    ("shape", Doc.nats l.shape), ("stride", Doc.nats l.stride), ("rank", Doc.nat l.rank),
    ("size", Doc.ofExcept Doc.nat l.size), ("nbytes", Doc.nat l.nbytes),
    ("span", Doc.nat l.span), ("contiguous", .bool l.isContiguous),
    ("layout", Doc.str (AxisOrder.ofShape l.shape).name),
    ("image", Doc.ofExcept imageDoc (ImageView.ofLayout l)), ("roundtrip", roundtrip)]

/-- A layout from its text, or from a shape, an element type and optional strides. -/
def answerLayoutInfo (req : Value) : Decode Doc := do
  match opt req "text" with
  | some t => library layoutDoc (Layout.parse (← asString "text" t))
  | none =>
    let shape ← getWords req "shape"
    let dtype ← getString req "dtype"
    let stride ← getOpt req "stride" asWords
    library layoutDoc do
      let elem ← ElementType.parse dtype
      match stride with
      | some s => Layout.withStride shape s elem
      | none => Layout.ofShape shape elem

def answerContiguousStride (req : Value) : Decode Doc := do
  let shape ← getWords req "shape"
  let dtype ← getString req "dtype"
  library Doc.nats (do Layout.contiguousStride shape (← ElementType.parse dtype))

/-- The axis order of a shape and the position of each axis. -/
def answerAxisOrder (req : Value) : Decode Doc := do
  let shape ← getWords req "shape"
  let o := AxisOrder.ofShape shape
  return Doc.record [("layout", Doc.str o.name), ("display", Doc.str o.name),
    ("h", Doc.opt Doc.nat o.rows), ("w", Doc.opt Doc.nat o.cols),
    ("c", Doc.opt Doc.nat o.channels), ("n", Doc.opt Doc.nat o.batch)]

def frameSpecDoc (f : FrameSpec) : Except Fault Doc := do
  let nbytes ← f.nbytes
  return Doc.record [("display", Doc.str f.text), ("nbytes", Doc.nat nbytes),
    ("tensors", .arr (f.tensors.map (Doc.str ·.text)))]

def docOf (r : Except Fault Doc) : Doc :=
  match r with
  | .ok d => d
  | .error e => Doc.fault e

/-- The description of an image of a pixel format. -/
def answerImageFrame (req : Value) : Decode Doc := do
  let memory ← getString req "memory_type"
  let format ← getString req "format"
  let width ← getWord req "width"
  let height ← getWord req "height"
  return docOf do
    let memory ← memoryKind memory
    let format ← ImageFormat.parse format
    frameSpecDoc (← FrameSpec.image memory format width height)

def formatField (req : Value) : Decode (Except Fault Nat) := do
  match opt req "format" with
  | none => return .ok 0
  | some (.str s) => return (ImageFormat.parse s).map ImageFormat.code
  | some v => return .ok (← formatCode v)

/-- A frame description given part by part. -/
def answerFrameText (req : Value) : Decode Doc := do
  let media ← mediaType (← getString req "media")
  let memory ← getOpt req "memory_type" asString
  let format ← formatField req
  let tensors ← (← getArray req "tensors").mapM (asString "tensors")
  return docOf do
    let memory ← match memory with
      | some m => some <$> memoryKind m
      | none => pure none
    let format ← format
    let tensors ← tensors.mapM Layout.parse
    frameSpecDoc ⟨media, memory, format, tensors⟩

end Console

end MemBridge
