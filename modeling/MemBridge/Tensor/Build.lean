import MemBridge.Store.Release

/-!
Building tensors.

A `TensorSpec` collects what a new tensor will be: layout, memory kind, handles in the order
they are given, an explicit primary key, a host address, a byte offset, the context, the
resource it owns and the tensor it derives from. The spec owns the references it carries.

`TensorSpec.build` refuses the kind `Any`; otherwise the primary key is the explicit one, else
the first key given, else `data` set to the host address, and a tensor with none of these
has no native handle and is refused, as is one whose primary key names no handle. A refused
spec releases what it owned, the parent first.
-/

namespace MemBridge

/-- What a new tensor is made of. -/
structure TensorSpec where
  layout : Layout
  kind : MemoryKind
  context : ContextLink := .none
  handles : List (String × Handle) := []
  firstKey : Option String := none
  primary : Option String := none
  host : Option Addr := none
  offset : Nat := 0
  holding : Option Holding := none
  parent : Option Ref := none
  deriving Inhabited

namespace TensorSpec

def withHandle (s : TensorSpec) (key : String) (v : Handle) : TensorSpec :=
  { s with handles := Tensor.setHandle s.handles key v,
           firstKey := s.firstKey.orElse fun _ => some key }

open Act

def discard (s : TensorSpec) : Act Unit := do
  runTasks ((s.parent.toList.map Task.release) ++ Body.holdingTasks s.holding ++
    Body.linkTasks s.context)

/-- Makes the tensor; the caller owns the new reference. -/
def build (s : TensorSpec) : Act Ref := do
  if s.kind = .any then
    s.discard
    throw (.invalidArgument "tensor memory type must be concrete")
  let (handles, primary) ← match s.primary, s.firstKey, s.host with
    | some k, _, _ => pure (s.handles, k)
    | none, some k, _ => pure (s.handles, k)
    | none, none, some a => pure (Tensor.setHandle s.handles Key.data (.addr a), Key.data)
    | none, none, none => do
      s.discard
      throw (.invalidArgument s!"{s.kind.name} tensor needs at least one native handle")
  unless handles.any (·.1 == primary) do
    s.discard
    throw (.handleNotFound primary)
  let t : Tensor :=
    { kind := s.kind, layout := s.layout, context := s.context, parent := s.parent,
      handles := handles, primary := primary, host := s.host, offset := s.offset,
      holding := s.holding }
  create (.tensor t)

end TensorSpec

namespace Tensor

open Act

def contextOf (r : Ref) : Act (Option Ref) := do
  match (← tensor r).context with
  | .none => return none
  | .strong c => return some c
  | .weak c => return if ← alive c then some c else none

def handleOf (r : Ref) (key : String) : Act Handle := do
  lift ((← tensor r).handle key)

end Tensor

end MemBridge
