import MemBridge.Frame.Build
import MemBridge.Tensor.View
import MemBridge.Metadata.Geometry

/-!
Parents and regions of frames.

A frame may hold the frame it derives from; the chain of parents never loops. A frame refers
to the regions cut from it without holding them, so a region is listed only while something
else holds it.

`Frame.region` cuts a rectangle out of an image frame. The rectangle is given in pixels of
tensor 0 and must be non-empty and inside it; each tensor is cut at the same place scaled to
its own width and height, rounding the start down and the end up. The region holds its frame
as parent and is listed among its regions.
-/

namespace MemBridge

namespace Frame

open Act

/-- Whether `r` is `candidate` or one of its ancestors, following at most `fuel` links. -/
def inLineage (r : Ref) (candidate : Ref) : Nat → Act Bool
  | 0 => pure false
  | fuel + 1 => do
    if candidate = r then return true
    match (← frame candidate).parent with
    | some p => inLineage r p fuel
    | none => return false

/-- Sets the parent of a frame, which takes over the given reference; the old parent is
released. -/
def setParent (r : Ref) (parent : Option Ref) : Act Unit := do
  if let some p := parent then
    if ← inLineage r p ((← get).nodes.size + 1) then
      release p
      throw (.invalidArgument "frame parent link would form a cycle")
  let old := (← frame r).parent
  modifyFrame r fun f => { f with parent }
  if let some o := old then release o

def clearParent (r : Ref) : Act Unit := setParent r none

/-- Forgets the regions that are gone. -/
def pruneRegions (r : Ref) : Act (List Ref) := do
  let mut live := []
  for g in (← frame r).regions do
    if ← alive g then live := live ++ [g]
  modifyFrame r fun f => { f with regions := live }
  return live

def regionsOf (r : Ref) : Act (List Ref) := pruneRegions r

def addRegion (r region : Ref) : Act Unit := do
  retain r
  setParent region (some r)
  let live ← pruneRegions r
  modifyFrame r fun f => { f with regions := live ++ [region] }

def clearRegions (r : Ref) : Act Unit :=
  modifyFrame r fun f => { f with regions := [] }

/-- The cut of each tensor, as rows and columns. -/
def scaled (rect : Rect) (baseW baseH w h : Nat) : Except Fault ((Nat × Nat) × (Nat × Nat)) := do
  let x0 := (← checkedMul rect.x w) / baseW
  let y0 := (← checkedMul rect.y h) / baseH
  let x1 := ((← checkedMul (rect.x + rect.w) w) + baseW - 1) / baseW
  let y1 := ((← checkedMul (rect.y + rect.h) h) + baseH - 1) / baseH
  return ((y0, y1), (x0, x1))

/-- Cuts a region out of an image frame; the caller owns the new reference. -/
def region (r : Ref) (rect : Rect) : Act Ref := do
  if rect.w = 0 || rect.h = 0 then
    throw (.invalidArgument s!"empty region {rect.debugText}")
  let f ← frame r
  let first ← lift (f.select (.nth 0))
  let base ← lift (ImageView.ofLayout (← tensor first).layout)
  let (baseW, baseH) := (base.width, base.height)
  if (← lift (checkedAdd rect.x rect.w)) > baseW then
    throw (.invalidArgument s!"region {rect.debugText} exceeds {baseW}x{baseH} frame")
  if (← lift (checkedAdd rect.y rect.h)) > baseH then
    throw (.invalidArgument s!"region {rect.debugText} exceeds {baseW}x{baseH} frame")
  let mut cuts := []
  for t in f.tensors do
    let step : Act Ref := do
      let image ← lift (ImageView.ofLayout (← tensor t).layout)
      let (y, x) ← lift (scaled rect baseW baseH image.width image.height)
      Tensor.sliceRegion t y x
    let tried : Act (Except Fault Ref) := tryCatch (Except.ok <$> step) (fun e => pure (.error e))
    match ← tried with
    | .ok c => cuts := cuts ++ [c]
    | .error e =>
      releaseAll cuts
      throw e
  let g ← make f.media f.format cuts
  addRegion r g
  return g

end Frame

end MemBridge
