import MemBridge.Layout.Basic

/-!
Byte runs of a layout.

`Layout.runs` lists, in row-major element order, the maximal pieces of memory that a copy of the
elements can move at once, as `(offset, length)` pairs relative to the first element. A
contiguous layout is one run of `nbytes`; a layout whose innermost stride is the element size
is one run per row; any other layout is one run per element. A layout with an empty dimension
has no runs unless it is contiguous.
-/

namespace MemBridge

namespace Layout

def indices : List Nat → List (List Nat)
  | [] => [[]]
  | d :: ds => (List.range d).flatMap (fun i => (indices ds).map (i :: ·))

def offsetOf (index stride : List Nat) : Nat :=
  ((index.zip stride).map (fun p => p.1 * p.2)).foldr (· + ·) 0

/-- The `(offset, length)` runs of bytes that hold the elements, in element order. -/
def runs (l : Layout) : List (Nat × Nat) :=
  if l.isContiguous || l.shape.isEmpty then [(0, l.nbytes)]
  else if l.shape.contains 0 then []
  else
    let last := l.rank - 1
    let size := l.elem.size
    let (outer, run) :=
      if l.stride.getD last 0 = size then (last, l.shape.getD last 0 * size) else (l.rank, size)
    (indices (l.shape.take outer)).map (fun index => (offsetOf index l.stride, run))

theorem length_indices (shape : List Nat) :
    (indices shape).length = shape.foldr (· * ·) 1 := by
  induction shape with
  | nil => rfl
  | cons d ds ih =>
    simp [indices, List.length_flatMap, ih, List.map_const']

end Layout

end MemBridge
