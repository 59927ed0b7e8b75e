import MemBridge.Device.Basic
import MemBridge.Layout.Basic

/-!
The state of a tensor.

A tensor is one region of memory of some kind with its layout, its native handles by key and
the key of its primary handle, an optional host address of its first element, a byte offset
into the memory it views, the context it belongs to (held or only referred to), the tensor it
was derived from, and the resource it owns: a host buffer, a device allocation or another
shared object of the store.
-/

namespace MemBridge

/-- How a tensor refers to its context. -/
inductive ContextLink where
  | none
  | strong (r : Ref)
  | weak (r : Ref)
  deriving DecidableEq, Repr, Inhabited

/-- What a tensor owns. -/
inductive Holding where
  /-- Host memory from an allocator. -/
  | buffer (b : Buffer)
  /-- A device allocation, known as one. -/
  | allocation (r : Ref)
  /-- Any other object of the store. -/
  | shared (r : Ref)
  deriving DecidableEq, Repr, Inhabited

/-- The state of a tensor. -/
structure Tensor where
  kind : MemoryKind
  layout : Layout
  context : ContextLink := .none
  parent : Option Ref := none
  handles : List (String × Handle) := []
  primary : String
  host : Option Addr := none
  offset : Nat := 0
  holding : Option Holding := none
  deriving Inhabited

namespace Tensor

/-- Sets a handle, keeping the keys in order. -/
def setHandle (hs : List (String × Handle)) (key : String) (v : Handle) :
    List (String × Handle) :=
  if hs.any (·.1 == key) then hs.map fun e => if e.1 == key then (key, v) else e
  else
    let before := hs.filter (fun e => decide (e.1 < key))
    let after := hs.filter (fun e => !decide (e.1 < key))
    before ++ [(key, v)] ++ after

def handle (t : Tensor) (key : String) : Except Fault Handle :=
  let key := if key.isEmpty then t.primary else key
  match t.handles.lookup key with
  | some v => .ok v
  | none => .error (.handleNotFound key)

def handleOr (t : Tensor) (key : String) (default : Handle) : Handle :=
  (t.handle key).toOption.getD default

def data (t : Tensor) : Except Fault Addr :=
  match t.host with
  | some a => .ok a
  | none => .error (.notHostAddressable t.kind)

def keys (t : Tensor) : List String := t.handles.map (·.1)

end Tensor

end MemBridge
