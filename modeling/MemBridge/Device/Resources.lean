import MemBridge.Store.Release

/-!
What a device hands out.

Each operation takes the device by its reference. A simulated native call (`Device.call`)
fails once with the status injected for its name. Allocations respect the device's memory
limit, counting the bytes of live allocations by their bucket size; surfaces lay their planes
out at the configured pitch alignment, one after the other; descriptors and compute buffers
take their numbers from the device's handle counter, as surfaces do. A view of an allocation
must lie inside the bytes asked for when it was made.

Every operation that returns a reference returns a strong one, owned by the caller.
-/

namespace MemBridge

namespace Device

open Act

def nextHandleOf (dv : Ref) : Act Int := do
  let d ← device dv
  modifyDevice dv fun d => { d with nextHandle := d.nextHandle + 1 }
  return d.nextHandle

/-- Enters a simulated native call: an injected fault for the call fires once. -/
def call (dv : Ref) (backend : MemoryKind) (name : String) : Act Unit := do
  let d ← device dv
  match d.faults.lookup name with
  | some status =>
    modifyDevice dv fun d => { d with faults := d.faults.filter (·.1 != name) }
    throw (.backendFailure backend name status)
  | none => pure ()

/-- A new allocation of `size` bytes, within the device's memory limit. -/
def allocate (dv : Ref) (backend : MemoryKind) (size : Nat) : Act Ref := do
  let d ← device dv
  let limit := d.config.memoryLimit
  if limit > 0 && decide (Nat.min (d.bytes + size) Word.max > limit) then
    throw (.backendFailure backend "allocate" (-12))
  let buffer ← hostAlloc d.allocator size
  modifyDevice dv fun d =>
    { d with allocations := d.allocations + 1,
             bytes := (d.bytes + buffer.capacity) % Word.bound }
  create (.allocation ⟨buffer, ⟨"device work", true⟩, dv⟩)

/-- The address `offset` bytes into an allocation, for a view of `len` bytes. -/
def pointerAt (mr : Ref) (offset len : Nat) : Act Addr := do
  let m ← allocation mr
  match Word.addChecked offset len with
  | some stop =>
    if stop ≤ m.buffer.len then return m.buffer.base.advance offset
    else outside m
  | none => outside m
where
  outside {α : Type} (m : Allocation) : Act α :=
    throw (.invalidArgument
      s!"view of {len} bytes at offset {offset} exceeds device allocation of {m.buffer.len} bytes")

/-- Records a new surface over an allocation that the surface takes over. -/
def registerSurface (dv : Ref) (format : Option ImageFormat) (width height : Nat)
    (planes : List Plane) (memory : Ref) : Act Ref := do
  let id ← nextHandleOf dv
  let s ← create (.surface ⟨id, format, width, height, planes, memory, dv⟩)
  let d ← device dv
  let mut table := []
  for e in d.surfaceTable do
    if ← alive e.2 then table := table ++ [e]
  modifyDevice dv fun d =>
    { d with surfaces := d.surfaces + 1, surfaceTable := table ++ [(id, s)] }
  return s

/-- Lays plane `index` of a `width × height` surface after the planes laid so far, at the offset
where they end, its rows padded to the pitch alignment; returns the planes and their new end. -/
def placePlane (format : ImageFormat) (width height align : Nat) (acc : List Plane × Nat)
    (index : Nat) : Except Fault (List Plane × Nat) := do
  let shape ← match format.planeShape index width height with
    | some s => pure s
    | none => throw (.invalidArgument s!"{format.name} plane {index}")
  let row ← checkedMul (shape.getD 1 0) (shape.getD 2 0)
  let padded ← checkedAdd row align
  let pitch := Nat.land (padded - 1) (Word.max - (align - 1))
  let plane : Plane := ⟨acc.2, pitch, shape⟩
  let offset ← checkedAdd acc.2 (← plane.nbytes)
  return (acc.1 ++ [plane], offset)

/-- The planes of a `width × height` surface of a format, at a pitch alignment, in index order,
and the bytes they take. -/
def planesOf (format : ImageFormat) (width height align : Nat) :
    Except Fault (List Plane × Nat) :=
  (List.range format.planes).foldlM (placePlane format width height align) ([], 0)

/-- A new surface of an image format. Width and height must be positive, and even for formats
with subsampled chroma. -/
def createSurface (dv : Ref) (format : ImageFormat) (width height : Nat) : Act Ref := do
  call dv .vaapi "vaCreateSurfaces"
  if width = 0 || height = 0 ||
      (format.subsampled && (width % 2 != 0 || height % 2 != 0)) then
    throw (.backendFailure .vaapi "vaCreateSurfaces" 18)
  let d ← device dv
  let (planes, size) ← lift (planesOf format width height d.config.pitchAlignment)
  let memory ← allocate dv .vaapi size
  registerSurface dv (some format) width height planes memory

def createLinearSurface (dv : Ref) (len : Nat) : Act Ref := do
  call dv .vaapi "vaCreateSurfaces"
  let memory ← allocate dv .vaapi len
  registerSurface dv none len 1 [⟨0, len, [1, len, 1]⟩] memory

/-- A surface over an existing allocation, which the surface takes over. -/
def importSurface (dv : Ref) (memory : Ref) (format : Option ImageFormat) (width height : Nat)
    (planes : List Plane) : Act Ref :=
  owning memory do
    call dv .vaapi "vaCreateSurfaces"
    for plane in planes do
      let _ ← pointerAt memory plane.offset (← lift plane.nbytes)
    registerSurface dv format width height planes memory

/-- The live surface with an id. -/
def surfaceOf (dv : Ref) (id : Int) : Act Ref := do
  let d ← device dv
  match d.surfaceTable.lookup id with
  | some s =>
    if ← alive s then
      retain s
      return s
    else throw (.backendFailure .vaapi "vaQuerySurfaceStatus" 6)
  | none => throw (.backendFailure .vaapi "vaQuerySurfaceStatus" 6)

/-- Opens a descriptor exporting an allocation. -/
def exportFd (dv : Ref) (memory : Ref) : Act Ref := do
  let fd ← nextHandleOf dv
  retain memory
  modifyDevice dv fun d => { d with descriptors := d.descriptors ++ [(fd, memory)] }
  retain memory
  retain dv
  create (.descriptor ⟨fd, memory, dv⟩)

/-- The allocation an open descriptor exports. -/
def importFd (dv : Ref) (backend : MemoryKind) (fd : Int) : Act Ref := do
  let d ← device dv
  match d.descriptors.lookup fd with
  | some m =>
    retain m
    return m
  | none => throw (.backendFailure backend "import_fd" (-9))

/-- Records a new compute buffer over memory that `owner` keeps alive; the buffer takes
`owner` over. -/
def registerClBuffer (dv : Ref) (ptr : Addr) (len : Nat) (owner : Ref)
    (acquired : Option Int) : Act Ref := do
  let id ← nextHandleOf dv
  retain dv
  let b ← create (.clBuffer ⟨id, ptr, len, owner, acquired, dv⟩)
  let d ← device dv
  let mut table := []
  for e in d.clBufferTable do
    if ← alive e.2 then table := table ++ [e]
  modifyDevice dv fun d =>
    { d with clBuffers := d.clBuffers + 1, clBufferTable := table ++ [(id, b)] }
  return b

/-- A compute buffer of `len` bytes of an allocation from `offset`; the buffer takes the
allocation over. -/
def clBufferOnAllocation (dv : Ref) (memory : Ref) (offset len : Nat) : Act Ref :=
  owning memory do
    call dv .openCl "clCreateBuffer"
    let ptr ← pointerAt memory offset len
    registerClBuffer dv ptr len memory none

/-- A compute buffer of `len` bytes of host memory at `ptr`, kept alive by `owner`, which the
buffer takes over. -/
def clBufferOnHost (dv : Ref) (ptr : Addr) (owner : Ref) (len : Nat) : Act Ref :=
  owning owner do
    call dv .openCl "clCreateBuffer"
    registerClBuffer dv ptr len owner none

/-- A compute buffer sharing a surface's memory, acquired until the buffer goes. -/
def shareSurface (dv : Ref) (sr : Ref) (offset len : Nat) : Act Ref := do
  call dv .openCl "clCreateFromVA_APIMediaSurfaceINTEL"
  let s ← surface sr
  let ptr ← pointerAt s.memory offset len
  call dv .openCl "clEnqueueAcquireVA_APIMediaSurfacesINTEL"
  modifyDevice dv fun d => d.acquire s.id
  retain s.memory
  registerClBuffer dv ptr len s.memory (some s.id)

/-- The live compute buffer with an id. -/
def clBufferOf (dv : Ref) (id : Int) : Act Ref := do
  let d ← device dv
  match d.clBufferTable.lookup id with
  | some b =>
    if ← alive b then
      retain b
      return b
    else throw (.backendFailure .openCl "clGetMemObjectInfo" (-38))
  | none => throw (.backendFailure .openCl "clGetMemObjectInfo" (-38))

def synchronize (dv : Ref) : Act Unit := do
  let d ← device dv
  lift (d.queue.wait d.config.syncTimeoutMs)

/-- Counts a copy through host memory. -/
def recordCopy (dv : Ref) (mapper : String) (input output : MemoryKind) (bytes : Nat) :
    Act Unit := do
  let d ← device dv
  let (r, counted) := d.copies.record ⟨mapper, input, output⟩ bytes
  match r with
  | .ok l => modifyDevice dv fun d => { d with copies := l }
  | .error e =>
    modifyDevice dv fun d => { d with copies := counted }
    throw e

end Device

end MemBridge
