import MemBridge.Tensor.Build
import MemBridge.Layout.Runs
import MemBridge.Image.Layout

/-!
Views of tensors and their bytes.

`Tensor.slice` cuts a range out of each leading dimension: the view keeps the strides, starts
`Σ start · stride` bytes further on, holds its source as parent and shares its context. A view
of host memory moves its address and its primary handle by that many bytes; a view of other
memory records its offset under the key `offset`. `Tensor.sliceRegion` cuts rows and columns
of an image tensor.

A tensor's parent chain never loops: setting a parent that has the tensor among its
ancestors is refused.

Bytes are read and written in element order through `Layout.runs`, from the tensor's host
address; a write must bring exactly `size · element size` bytes.
-/

namespace MemBridge

namespace Tensor

open Act

/-- A view of a tensor over one range per leading dimension. -/
def slice (r : Ref) (ranges : List (Nat × Nat)) : Act Ref := do
  let t ← tensor r
  let shape := t.layout.shape
  if ranges.length > shape.length then
    throw (.invalidArgument s!"{ranges.length} slice ranges for a rank-{shape.length} tensor")
  let mut newShape := shape
  let mut delta := 0
  for (range, dim) in ranges.zipIdx do
    let (start, stop) := range
    let n := shape.getD dim 0
    if start ≥ stop || stop > n then
      throw (.invalidArgument
        s!"slice {start}..{stop} out of bounds for dimension {dim} of size {n}")
    newShape := newShape.set dim (stop - start)
    match Word.mulChecked start (t.layout.stride.getD dim 0) with
    | some step =>
      match Word.addChecked delta step with
      | some d => delta := d
      | none => throw (.invalidArgument "slice offset overflows usize")
    | none => throw (.invalidArgument "slice offset overflows usize")
  let offset ← match Word.addChecked t.offset delta with
    | some o => pure o
    | none => throw (.invalidArgument "slice offset overflows usize")
  let (handles, host) ← match t.host with
    | some a =>
      match t.handles.lookup t.primary with
      | some h =>
        pure (setHandle t.handles t.primary (← lift (h.advance delta)), some (a.advance delta))
      | none => pure (t.handles, some (a.advance delta))
    | none => pure (setHandle t.handles Key.offset (Handle.ofWord offset), none)
  match t.context with
  | .strong c => retain c
  | _ => pure ()
  retain r
  let view : Tensor :=
    { t with layout := t.layout.reshape newShape, parent := some r, handles := handles,
             host := host, offset := offset, holding := none }
  create (.tensor view)

def sliceRegion (r : Ref) (y x : Nat × Nat) : Act Ref := do
  let t ← tensor r
  let image ← lift (ImageView.ofLayout t.layout)
  let ranges := (t.layout.shape.map fun d => (0, d)).set image.rowAxis y |>.set image.colAxis x
  slice r ranges

/-- Whether `r` is `candidate` or one of its ancestors, following at most `fuel` links. -/
def inLineage (r : Ref) (candidate : Ref) : Nat → Act Bool
  | 0 => pure false
  | fuel + 1 => do
    if candidate = r then return true
    match (← tensor candidate).parent with
    | some p => inLineage r p fuel
    | none => return false

/-- Sets the parent of a tensor, which takes over the given reference; the old parent is
released. -/
def setParent (r : Ref) (parent : Option Ref) : Act Unit := do
  if let some p := parent then
    if ← inLineage r p ((← get).nodes.size + 1) then
      release p
      throw (.invalidArgument "tensor parent link would form a cycle")
  let old := (← tensor r).parent
  modifyTensor r fun t => { t with parent }
  if let some o := old then release o

def clearParent (r : Ref) : Act Unit := setParent r none

def elementBytes (t : Tensor) : Act Nat := do
  let size ← lift t.layout.size
  lift (checkedMul size t.layout.elem.size)

/-- The bytes of a tensor's elements, in element order. -/
def readBytes (r : Ref) : Act ByteArray := do
  let t ← tensor r
  let base ← lift t.data
  let total ← elementBytes t
  if total ≥ Nat.pow 2 63 then throw (.halt "capacity overflow")
  let mut out := ByteArray.empty
  for (off, len) in t.layout.runs do
    out := out ++ (← readHost (base.advance off) len)
  return out

/-- Writes elements laid out as `layout` from `base`, from bytes in element order; exactly
`size · element size` bytes must come. -/
def writeAt (base : Except Fault Addr) (layout : Layout) (bytes : ByteArray) : Act Unit := do
  let expected ← lift (checkedMul (← lift layout.size) layout.elem.size)
  if bytes.size != expected then
    throw (.invalidArgument s!"write of {bytes.size} bytes into a tensor of {expected} bytes")
  let base ← lift base
  let mut cursor := 0
  for (off, len) in layout.runs do
    writeHost (base.advance off) (bytes.extract cursor (cursor + len))
    cursor := cursor + len

def writeBytes (r : Ref) (bytes : ByteArray) : Act Unit := do
  let t ← tensor r
  writeAt t.data t.layout bytes

end Tensor

end MemBridge
