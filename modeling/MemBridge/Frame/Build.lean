import MemBridge.Frame.Basic
import MemBridge.Tensor.Build

/-!
Making frames and reading their tensors and metadata.

`Frame.make` takes over a list of tensors: it refuses an empty list, tensors of different
memory kinds (naming the first kind and the first other one) and a tensor given twice,
releasing the tensors when it refuses. A tensor of a frame is chosen by index, or as the only
one.

Metadata is a list of dictionaries in the order they were added: adding a name keeps an
existing dictionary of that name, setting one replaces the first of its name in place, and
changing one in place puts back whatever dictionary the change leaves, under any name. A
dictionary holds the tensors its values name; replacing or removing it releases them.
-/

namespace MemBridge

/-- Which tensor of a frame. -/
inductive TensorIndex where
  | sole
  | nth (i : Nat)
  deriving DecidableEq, Repr, Inhabited

namespace Frame

open Act

/-- Makes a frame over tensors it takes over; the caller owns the new reference. -/
def make (media : MediaType) (format : Nat) (tensors : List Ref) : Act Ref := do
  let first ← match tensors with
    | t :: _ => pure t
    | [] => throw (.invalidArgument "frame needs at least one tensor")
  let kind := (← tensor first).kind
  for (t, i) in tensors.zipIdx do
    let k := (← tensor t).kind
    if k != kind then
      releaseAll tensors
      throw (.typeMismatch kind k)
    if (tensors.take i).contains t then
      releaseAll tensors
      throw (.invalidArgument s!"tensor {i} appears more than once in the frame")
  create (.frame { media, format, kind, tensors })

/-- The chosen tensor of a frame, borrowed. -/
def select (f : Frame) (index : TensorIndex) : Except Fault Ref :=
  match index with
  | .sole =>
    match f.tensors with
    | [t] => .ok t
    | ts => .error (.invalidArgument
        s!"frame has {ts.length} tensors; an explicit index is required")
  | .nth i =>
    match f.tensors[i]? with
    | some t => .ok t
    | none => .error (.invalidArgument
        s!"tensor index {i} out of range for {f.tensors.length} tensors")

def tensorAt (r : Ref) (i : Nat) : Act Ref := do
  lift ((← frame r).select (.nth i))

def dropDictionary (d : Dictionary) : Act Unit :=
  releaseAll (d.tensors.map (·.id))

def keepDictionary (d : Dictionary) : Act Unit := do
  for t in d.tensors do retain t.id

def addMetadata (r : Ref) (name : String) : Act Unit := do
  let f ← frame r
  unless f.metadata.any (·.name == name) do
    modifyFrame r fun f => { f with metadata := f.metadata ++ [Dictionary.empty name] }

/-- Sets a dictionary, which the frame takes over, replacing one of the same name. -/
def setMetadata (r : Ref) (d : Dictionary) : Act Unit := do
  let f ← frame r
  match f.metadata.find? (·.name == d.name) with
  | some old =>
    let (before, after) := f.metadata.span (·.name != d.name)
    modifyFrame r fun f => { f with metadata := before ++ d :: after.drop 1 }
    dropDictionary old
  | none => modifyFrame r fun f => { f with metadata := f.metadata ++ [d] }

/-- Attaches a record given as its dictionary: the frame takes a reference to each tensor the
dictionary holds and sets the dictionary, replacing the one of the same name. -/
def attach (r : Ref) (d : Dictionary) : Act Unit := do
  keepDictionary d
  setMetadata r d

def findMetadata (r : Ref) (name : String) : Act (Option Dictionary) := do
  return (← frame r).metadata.find? (·.name == name)

/-- Replaces the dictionary of a name by another, which the frame takes over; the old one's
tensors are released. -/
def updateMetadata (r : Ref) (name : String) (d : Dictionary) : Act Unit := do
  let f ← frame r
  let (before, after) := f.metadata.span (·.name != name)
  match after with
  | old :: rest =>
    modifyFrame r fun f => { f with metadata := before ++ d :: rest }
    dropDictionary old
  | [] => pure ()

/-- Runs `f` on the dictionary of a name and puts back the dictionary it leaves, whatever its
name: the frame takes a reference to each tensor the new dictionary holds and releases those of
the old one. `none` when no dictionary has the name. -/
def withMetadata {α : Type} (r : Ref) (name : String) (f : Dictionary → α × Dictionary) :
    Act (Option α) := do
  match ← findMetadata r name with
  | some d =>
    let (a, d') := f d
    keepDictionary d'
    updateMetadata r name d'
    return some a
  | none => return none

/-- Removes the dictionary of a name and hands it to the caller. -/
def removeMetadata (r : Ref) (name : String) : Act (Option Dictionary) := do
  let f ← frame r
  let (before, after) := f.metadata.span (·.name != name)
  match after with
  | d :: rest =>
    modifyFrame r fun f => { f with metadata := before ++ rest }
    return some d
  | [] => return none

def clearMetadata (r : Ref) : Act Unit := do
  let f ← frame r
  modifyFrame r fun f => { f with metadata := [] }
  for d in f.metadata do dropDictionary d

def metadataNames (r : Ref) : Act (List String) := do
  return (← frame r).metadata.map (·.name)

/-- Sets copies of every dictionary of another frame; a frame copied onto itself is left as
it is. -/
def copyMetadata (r src : Ref) : Act Unit := do
  if r = src then return
  let ds := (← frame src).metadata
  for d in ds do keepDictionary d
  for d in ds do setMetadata r d

end Frame

end MemBridge
