import MemBridge.Fault
import MemBridge.Text.Number

/-!
Strided layouts of tensors.

A `Layout` is a shape, one byte stride per dimension and an element type. A layout is only
built through `Layout.withStride`, which rejects strides of the wrong rank and layouts whose
extent does not fit in a word, so `nbytes` and `span` are plain arithmetic on valid layouts.
`contiguousStride` gives the row-major strides of a shape; the product of all dimensions and
the element size must fit in a word for them to exist.

* `nbytes` counts the bytes a layout covers including the padding after the last row;
* `span` counts the bytes from the first element to the end of the last one;
* `size` counts the elements, and stops when that count leaves the word.
-/

namespace MemBridge

/-- Shape, byte strides and element type of a tensor. -/
structure Layout where
  shape : List Nat
  stride : List Nat
  elem : ElementType
  deriving DecidableEq, Repr, Inhabited

namespace Layout

/-- The structural description used in messages:
`TensorInfo { shape: [..], stride: [..], dtype: UInt8 }`. -/
def debugText (l : Layout) : String :=
  s!"TensorInfo \x7b shape: {Text.listText l.shape}, stride: {Text.listText l.stride}, " ++
    s!"dtype: {l.elem.structName} \x7d"

/-- Row-major strides of `shape`, innermost first multiplied; the running product over every
dimension, the outermost included, must fit in a word. -/
def contiguousStride (shape : List Nat) (elem : ElementType) : Except Fault (List Nat) :=
  match go shape.reverse elem.size [] with
  | some s => .ok s
  | none => .error (.invalidArgument s!"shape {Text.listText shape} of {elem.name} overflows usize")
where
  /-- Walks the dimensions from the innermost, prepending the stride of each. -/
  go : List Nat → Nat → List Nat → Option (List Nat)
    | [], _, out => some out
    | d :: ds, acc, out =>
      match Word.mulChecked acc d with
      | some next => go ds next (acc :: out)
      | none => none

/-- Whether every extent `dim * stride` and the total extent
`elem.size + Σ (dim - 1) * stride` fit in a word. -/
def fits (shape stride : List Nat) (elem : ElementType) : Bool :=
  let pairs := shape.zip stride
  pairs.all (fun p => p.1 * p.2 < Word.bound) &&
    decide (elem.size + (pairs.map (fun p => (p.1 - 1) * p.2)).foldr (· + ·) 0 < Word.bound)

/-- A layout with explicit byte strides, one per dimension. -/
def withStride (shape stride : List Nat) (elem : ElementType) : Except Fault Layout :=
  if stride.length ≠ shape.length then
    .error (.invalidArgument
      s!"stride rank {stride.length} does not match shape rank {shape.length}")
  else
    let l : Layout := ⟨shape, stride, elem⟩
    if fits shape stride elem then .ok l
    else .error (.invalidArgument s!"tensor {l.debugText} overflows usize")

def ofShape (shape : List Nat) (elem : ElementType) : Except Fault Layout := do
  let stride ← contiguousStride shape elem
  withStride shape stride elem

def rank (l : Layout) : Nat := l.shape.length

/-- The number of elements; the running product from the outermost dimension must stay in a
word. -/
def size (l : Layout) : Except Fault Nat := checkedProduct l.shape

/-- Bytes covered by the layout, padding included: one element for rank zero, nothing when a
dimension is empty, else the largest `dim * stride`. -/
def nbytes (l : Layout) : Nat :=
  if l.shape.isEmpty then l.elem.size
  else if l.shape.contains 0 then 0
  else ((l.shape.zip l.stride).map (fun p => p.1 * p.2)).foldl Nat.max 0

def span (l : Layout) : Nat :=
  if l.shape.contains 0 then 0
  else ((l.shape.zip l.stride).map (fun p => (p.1 - 1) * p.2)).foldr (· + ·) 0 + l.elem.size

def isContiguous (l : Layout) : Bool :=
  match contiguousStride l.shape l.elem with
  | .ok s => s == l.stride
  | .error _ => false

def reshape (l : Layout) (shape : List Nat) : Layout :=
  { l with shape }

theorem contiguousStride_go_length (ds : List Nat) (acc : Nat) (out : List Nat) {s : List Nat}
    (h : contiguousStride.go ds acc out = some s) : s.length = ds.length + out.length := by
  induction ds generalizing acc out with
  | nil => simp [contiguousStride.go] at h; simp [h]
  | cons d ds ih =>
    simp only [contiguousStride.go] at h
    split at h
    · have := ih _ _ h
      simp [this]
      omega
    · simp at h

theorem contiguousStride_length {shape : List Nat} {elem : ElementType} {s : List Nat}
    (h : contiguousStride shape elem = .ok s) : s.length = shape.length := by
  unfold contiguousStride at h
  split at h
  · cases h
    rename_i hgo
    simpa using contiguousStride_go_length _ _ _ hgo
  · cases h

theorem withStride_shape {shape stride : List Nat} {elem : ElementType} {l : Layout}
    (h : withStride shape stride elem = .ok l) :
    l.shape = shape ∧ l.stride = stride ∧ l.elem = elem := by
  unfold withStride at h
  split at h
  · cases h
  · split at h
    · cases h; exact ⟨rfl, rfl, rfl⟩
    · cases h

end Layout

end MemBridge
