import MemBridge.Frame.Basic
import MemBridge.Context.Basic
import MemBridge.Mapper.Basic

/-!
The store of shared objects.

Every shared object of a session (device, context, mapper, tensor, frame, device allocation,
surface, descriptor, compute buffer, frame pool) is a node of the `World`, numbered in the
order it was made; a number is never given twice. A node carries the count of strong
references to it: an object is alive while that count is positive, and a weak reference is
only a number whose object may be gone. The world also holds the recycling host allocators
(an allocator is `none` once its owner is gone), the host memory itself, and the counters
that number devices, contexts and inference-runtime tensors.

Operations on the world run in `Act`, which keeps the world when an operation fails: what was
done before the failure stays done.
-/

namespace MemBridge

/-- The object a node holds. -/
inductive Body where
  | device (d : Device)
  | context (c : Context)
  | mapper (m : Mapper)
  | tensor (t : Tensor)
  | frame (f : Frame)
  | allocation (a : Allocation)
  | surface (s : Surface)
  | descriptor (d : Descriptor)
  | clBuffer (b : ClBuffer)
  | framePool (p : FramePool)
  deriving Inhabited

/-- A node of the store: its strong count and its object. -/
structure Node where
  strong : Nat
  body : Body
  deriving Inhabited

/-- Every object of a session. -/
structure World where
  nodes : Array Node := #[]
  allocators : Array (Option HostPool) := #[]
  heap : Heap := {}
  devices : Nat := 0
  contexts : Nat := 0
  runtimeTensors : Int := 0
  deriving Inhabited

abbrev Act := EStateM Fault World

namespace Act

def broken {α : Type} (what : String) : Act α :=
  throw (.halt s!"store: {what}")

def lift {α : Type} (r : Except Fault α) : Act α :=
  match r with
  | .ok a => pure a
  | .error e => throw e

def node (r : Ref) : Act Node := do
  match (← get).nodes[r]? with
  | some n => pure n
  | none => broken s!"no object {r}"

def body (r : Ref) : Act Body := return (← node r).body

def setBody (r : Ref) (b : Body) : Act Unit :=
  modify fun w => { w with nodes := w.nodes.modify r fun n => { n with body := b } }

def alive (r : Ref) : Act Bool := return (← node r).strong > 0

def strongCount (r : Ref) : Act Nat := return (← node r).strong

def create (b : Body) : Act Ref := do
  let w ← get
  set { w with nodes := w.nodes.push ⟨1, b⟩ }
  return w.nodes.size

def retain (r : Ref) : Act Unit := do
  let n ← node r
  modify fun w => { w with nodes := w.nodes.set! r { n with strong := n.strong + 1 } }

def device (r : Ref) : Act Device := do
  match ← body r with
  | .device d => pure d
  | _ => broken s!"{r} is no device"

def context (r : Ref) : Act Context := do
  match ← body r with
  | .context c => pure c
  | _ => broken s!"{r} is no context"

def mapper (r : Ref) : Act Mapper := do
  match ← body r with
  | .mapper m => pure m
  | _ => broken s!"{r} is no mapper"

def tensor (r : Ref) : Act Tensor := do
  match ← body r with
  | .tensor t => pure t
  | _ => broken s!"{r} is no tensor"

def frame (r : Ref) : Act Frame := do
  match ← body r with
  | .frame f => pure f
  | _ => broken s!"{r} is no frame"

def allocation (r : Ref) : Act Allocation := do
  match ← body r with
  | .allocation a => pure a
  | _ => broken s!"{r} is no allocation"

def surface (r : Ref) : Act Surface := do
  match ← body r with
  | .surface s => pure s
  | _ => broken s!"{r} is no surface"

def descriptor (r : Ref) : Act Descriptor := do
  match ← body r with
  | .descriptor d => pure d
  | _ => broken s!"{r} is no descriptor"

def clBuffer (r : Ref) : Act ClBuffer := do
  match ← body r with
  | .clBuffer b => pure b
  | _ => broken s!"{r} is no compute buffer"

def framePool (r : Ref) : Act FramePool := do
  match ← body r with
  | .framePool p => pure p
  | _ => broken s!"{r} is no frame pool"

def modifyDevice (r : Ref) (f : Device → Device) : Act Unit := do
  setBody r (.device (f (← device r)))

def modifyContext (r : Ref) (f : Context → Context) : Act Unit := do
  setBody r (.context (f (← context r)))

def modifyTensor (r : Ref) (f : Tensor → Tensor) : Act Unit := do
  setBody r (.tensor (f (← tensor r)))

def modifyFrame (r : Ref) (f : Frame → Frame) : Act Unit := do
  setBody r (.frame (f (← frame r)))

def modifyAllocation (r : Ref) (f : Allocation → Allocation) : Act Unit := do
  setBody r (.allocation (f (← allocation r)))

def newAllocator : Act Nat := do
  let w ← get
  set { w with allocators := w.allocators.push (some {}) }
  return w.allocators.size

def allocator (a : Nat) : Act HostPool := do
  match (← get).allocators[a]? with
  | some (some p) => pure p
  | _ => broken s!"allocator {a} is gone"

/-- Serves `size` bytes from a host allocator. -/
def hostAlloc (a : Nat) (size : Nat) : Act Buffer := do
  let p ← allocator a
  let w ← get
  let (r, p, heap) := p.alloc w.heap size
  set { w with heap, allocators := w.allocators.set! a (some p) }
  match r with
  | .ok block => return ⟨a, block, size⟩
  | .error e => throw e

def readHost (start : Addr) (len : Nat) : Act ByteArray :=
  return (← get).heap.read start.block start.offset len

def writeHost (start : Addr) (bytes : ByteArray) : Act Unit :=
  modify fun w => { w with heap := w.heap.write start.block start.offset bytes }

end Act

end MemBridge
