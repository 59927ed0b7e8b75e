import MemBridge.Handle
import MemBridge.Host.Pool
import MemBridge.Image.Format
import MemBridge.Sync.Fence
import MemBridge.Audit.Ledger
import MemBridge.Config.Options

/-!
The state of a software device and of the resources it hands out.

A device serves page-aligned allocations from its own recycling host allocator, describes
image surfaces over them, exports allocations as numbered descriptors and wraps memory in
compute buffers. Objects of the store are named by a `Ref`, their number in the store; a
device keeps live counts of its allocations, surfaces and compute buffers, the descriptors it
has open (each holding its allocation), the surfaces acquired for sharing, the copies made
through host memory, a queue fence, the faults it was told to inject, and the counter from
which it numbers native handles.
-/

namespace MemBridge

abbrev Ref := Nat

/-- Host memory handed out by an allocator: the allocator, the block and the length asked
for. -/
structure Buffer where
  home : Nat
  block : HostBlock
  len : Nat
  deriving DecidableEq, Repr, Inhabited

namespace Buffer

def base (b : Buffer) : Addr := ⟨b.block.id, 0⟩

def capacity (b : Buffer) : Nat := b.block.size

end Buffer

/-- One device allocation: its host buffer, the fence of work pending on it, and the device
whose counts it is part of. -/
structure Allocation where
  buffer : Buffer
  fence : Fence
  device : Ref
  deriving Inhabited

/-- The placement of one image plane in a surface: byte offset, row pitch and
`[rows, columns, channels]`. -/
structure Plane where
  offset : Nat
  pitch : Nat
  shape : List Nat
  deriving DecidableEq, Repr, Inhabited

def Plane.nbytes (p : Plane) : Except Fault Nat :=
  checkedMul (p.shape.getD 0 0) p.pitch

/-- An image surface over an allocation; a surface without format holds plain tensor data. -/
structure Surface where
  id : Int
  format : Option ImageFormat
  width : Nat
  height : Nat
  planes : List Plane
  memory : Ref
  device : Ref
  deriving Inhabited

/-- An open descriptor exporting an allocation; it holds the allocation and the device. -/
structure Descriptor where
  fd : Int
  memory : Ref
  device : Ref
  deriving Inhabited

/-- A compute buffer over memory held by `owner`, possibly acquiring a surface for sharing. -/
structure ClBuffer where
  id : Int
  ptr : Addr
  len : Nat
  owner : Ref
  acquired : Option Int
  device : Ref
  deriving Inhabited

/-- The state of a device. -/
structure Device where
  serial : Nat
  config : DeviceConfig
  allocator : Nat
  allocations : Nat := 0
  bytes : Nat := 0
  surfaces : Nat := 0
  clBuffers : Nat := 0
  faults : List (String × Int) := []
  surfaceTable : List (Int × Ref) := []
  descriptors : List (Int × Ref) := []
  clBufferTable : List (Int × Ref) := []
  acquired : List (Int × Nat) := []
  copies : Ledger := {}
  queue : Fence := ⟨"zeCommandQueueSynchronize", true⟩
  nextHandle : Int := 16
  deriving Inhabited

namespace Device

def inject (d : Device) (call : String) (status : Int) : Device :=
  { d with faults := (call, status) :: d.faults.filter (·.1 != call) }

def acquire (d : Device) (surface : Int) : Device :=
  match d.acquired.lookup surface with
  | some n =>
    { d with acquired := d.acquired.map fun e => if e.1 == surface then (e.1, n + 1) else e }
  | none => { d with acquired := d.acquired ++ [(surface, 1)] }

/-- Counts one acquisition of a surface less, forgetting it at zero. -/
def releaseSurface (d : Device) (surface : Int) : Device :=
  match d.acquired.lookup surface with
  | some n =>
    if n ≤ 1 then { d with acquired := d.acquired.filter (·.1 != surface) }
    else { d with acquired := d.acquired.map fun e => if e.1 == surface then (e.1, n - 1) else e }
  | none => d

end Device

end MemBridge
