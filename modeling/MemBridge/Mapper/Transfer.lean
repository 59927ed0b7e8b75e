import MemBridge.Mapper.Direct
import MemBridge.Frame.Lineage

/-!
What each direct route does.

Every mapped tensor keeps the layout of its source, holds the output context and has its
source as parent. It also holds what keeps its memory valid on its own — the imported
allocation, the surface, the descriptor, the compute buffer — so that it stays usable when a
cache cuts the parent link. A host view that only borrows memory holds the allocation found
on its source or the source's ancestors (`memoryOwner`), else the source itself.

* Descriptors map into host memory, surfaces, compute buffers and unified shared memory by
  importing the allocation the descriptor exports.
* Surfaces map into host memory once their memory's fence is signalled, are exported as
  descriptors, are shared with compute contexts on their display, and become remote runtime
  tensors.
* Host memory is uploaded into new surfaces (the one route that copies, and is counted in the
  device's ledger), wrapped as compute buffers, and wrapped as runtime tensors, each of which
  takes the next runtime tensor number.
* Compute buffers and runtime tensors map back into host memory.

Frames map tensor by tensor into a frame of the same media type and format, except where a
route gives a frame another shape: an image uploaded into one surface of its format, the
planes of one surface exported through one descriptor, planes of one descriptor imported as
one surface, an image wrapped as a single runtime tensor over its first plane, and surfaces
that go to the runtime only as two-plane NV12 images.
-/

namespace MemBridge

namespace Mapper

open Act

def objectId : Handle → Int
  | .num v => v
  | .addr _ => -1

/-- What keeps the memory behind a host view alive: the allocation held by the tensor or its
nearest ancestor holding one, else the tensor itself. The caller owns the reference. -/
def memoryOwner (src : Ref) : Act Ref := do
  go src ((← get).nodes.size + 1)
where
  /-- Walks up the parents from `cursor`. -/
  go (cursor : Ref) : Nat → Act Ref
    | 0 => do retain src; return src
    | fuel + 1 => do
      let t ← tensor cursor
      match t.holding, t.parent with
      | some (.allocation m), _ => do retain m; return m
      | _, some p => go p fuel
      | _, none => do retain src; return src

def mapped (src : Ref) (kind : MemoryKind) (output : Ref) (layout : Layout) : Act TensorSpec := do
  retain output
  retain src
  return { layout, kind, context := .strong output, parent := some src }

def runtimeSpec (src output : Ref) (layout : Layout) : Act TensorSpec := do
  modify fun w => { w with runtimeTensors := w.runtimeTensors + 1 }
  let n := (← get).runtimeTensors
  let spec ← mapped src .openVino output layout
  return spec.withHandle Key.runtimeTensor (.num n)

def waitMemory (dv memory : Ref) : Act Unit := do
  let m ← allocation memory
  lift (m.fence.wait (← device dv).config.syncTimeoutMs)

def planeLayout (p : Plane) : Except Fault Layout :=
  Layout.withStride p.shape [p.pitch, p.shape.getD 2 0, 1] .uint8

def surfaceOfTensor (dv src : Ref) : Act Ref := do
  Device.surfaceOf dv (objectId (← Tensor.handleOf src Key.surface))

def importOfTensor (dv : Ref) (backend : MemoryKind) (src : Ref) : Act Ref := do
  Device.importFd dv backend (objectId (← Tensor.handleOf src Key.dmaFd))

def withParent (g src : Ref) : Act Ref := do
  retain src
  owning g (Frame.setParent g (some src))
  return g

/-- The frame of a surface: one tensor per plane, each holding the surface, which the caller
hands over. -/
def surfaceFrame (output s : Ref) : Act Ref := do
  let sf ← surface s
  keeping s do
    let made ← collect sf.planes.zipIdx fun (plane, index) => do
      let layout ← lift (planeLayout plane)
      retain s
      retain output
      let spec : TensorSpec :=
        { layout, kind := .vaapi, context := .strong output, offset := plane.offset,
          holding := some (.shared s) }
      let spec := spec.withHandle Key.surface (.num sf.id)
        |>.withHandle Key.planeIndex (.num index)
        |>.withHandle Key.offset (Handle.ofWord plane.offset)
      spec.build
    let (media, format) := match sf.format with
      | some f => (MediaType.image, f.code)
      | none => (MediaType.tensors, 0)
    Frame.make media format made

/-- Maps a frame tensor by tensor into a frame of the same media type and format. -/
def perTensor (inputKind : MemoryKind) (mapOne : Ref → Act Ref) (src : Ref) : Act Ref := do
  let f ← frame src
  expectKind inputKind f.kind
  let made ← collect f.tensors mapOne
  let g ← Frame.make f.media f.format made
  withParent g src

/-- Host view of an exported descriptor. -/
def dmaToCpu (dv output src : Ref) : Act Ref := do
  let t ← tensor src
  let memory ← importOfTensor dv .dma src
  let ptr ← owning memory do
    Device.call dv .dma "mmap"
    Device.pointerAt memory t.offset t.layout.span
  let spec ← mapped src .cpu output t.layout
  { spec with host := some ptr, holding := some (.allocation memory) }.build

/-- Host view of a surface, once its work is done. -/
def vaapiToCpu (dv output src : Ref) : Act Ref := do
  let t ← tensor src
  let s ← surfaceOfTensor dv src
  keeping s do
    let memory := (← surface s).memory
    waitMemory dv memory
    Device.call dv .vaapi "vaDeriveImage"
    Device.call dv .vaapi "vaMapBuffer"
    let ptr ← Device.pointerAt memory t.offset t.layout.span
    retain memory
    let spec ← mapped src .cpu output t.layout
    { spec with host := some ptr, holding := some (.allocation memory) }.build

/-- Uploads a host tensor into a new linear surface. -/
def cpuToVaapi (dv output src : Ref) : Act Ref := do
  let t ← tensor src
  let bytes ← Tensor.readBytes src
  let s ← Device.createLinearSurface dv bytes.size
  let layout ← owning s do
    let layout ← lift (Layout.ofShape t.layout.shape t.layout.elem)
    let memory ← allocation (← surface s).memory
    Tensor.writeAt (.ok memory.buffer.base) layout bytes
    Device.recordCopy dv "cpu_to_vaapi" .cpu .vaapi bytes.size
    return layout
  let id := (← surface s).id
  let spec ← mapped src .vaapi output layout
  { spec.withHandle Key.surface (.num id) with holding := some (.shared s) }.build

/-- Uploads an image frame whose tensors are the planes of its format into one surface. -/
def cpuToVaapiFrame (dv output src : Ref) (fmt : ImageFormat) : Act Ref := do
  let f ← frame src
  let t0 ← Frame.tensorAt src 0
  let luma ← lift (ImageView.ofLayout (← tensor t0).layout)
  let (width, height) := (luma.width, luma.height)
  let s ← Device.createSurface dv fmt width height
  owning s do
    let sf ← surface s
    let mut uploaded := 0
    for (t, plane) in f.tensors.zip sf.planes do
      let bytes ← Tensor.readBytes t
      let layout ← lift (planeLayout plane)
      if bytes.size != (← lift layout.size) then
        throw (.invalidArgument
          s!"{fmt.name} plane of {bytes.size} bytes does not fit a {width}x{height} surface")
      let ptr ← Device.pointerAt sf.memory plane.offset (← lift plane.nbytes)
      Tensor.writeAt (.ok ptr) layout bytes
      uploaded := uploaded + bytes.size
    Device.recordCopy dv "cpu_to_vaapi" .cpu .vaapi uploaded
  let g ← surfaceFrame output s
  withParent g src

def exportSurface (dv s : Ref) : Act Ref := do
  let sf ← surface s
  waitMemory dv sf.memory
  Device.call dv .vaapi "vaExportSurfaceHandle"
  Device.exportFd dv sf.memory

/-- The descriptor tensor of `src` over an exported descriptor, which the caller hands over. -/
def dmaTensor (output src buf : Ref) (plane : Handle) : Act Ref := do
  let t ← tensor src
  let fd := (← descriptor buf).fd
  let spec ← mapped src .dma output t.layout
  let spec := spec.withHandle Key.dmaFd (.num fd)
    |>.withHandle Key.drmModifier (.num 0)
    |>.withHandle Key.planeIndex plane
    |>.withHandle Key.offset (Handle.ofWord t.offset)
  { spec with offset := t.offset, holding := some (.shared buf) }.build

/-- Exports the surface of a tensor. -/
def vaapiToDma (dv output src : Ref) : Act Ref := do
  let t ← tensor src
  let s ← surfaceOfTensor dv src
  keeping s do
    let buf ← exportSurface dv s
    dmaTensor output src buf (t.handleOr Key.planeIndex (.num 0))

/-- The one surface all tensors of a frame name, if they name one. -/
def singleSurface (dv src : Ref) : Act (Option Ref) := do
  let f ← frame src
  let id ← Tensor.handleOf (← Frame.tensorAt src 0) Key.surface
  for t in f.tensors do
    if (← Tensor.handleOf t Key.surface) ≠ id then return none
  some <$> Device.surfaceOf dv (objectId id)

/-- Exports the surface behind a frame through one descriptor shared by all its planes. -/
def vaapiToDmaFrame (dv output src : Ref) (s : Ref) : Act Ref := do
  let f ← frame src
  keeping s do
    let buf ← exportSurface dv s
    let made ← keeping buf <| collect f.tensors.zipIdx fun (t, index) => do
      let plane := (← tensor t).handleOr Key.planeIndex (.num index)
      retain buf
      dmaTensor output t buf plane
    let g ← Frame.make f.media f.format made
    withParent g src

/-- Imports a descriptor as a linear surface. -/
def dmaToVaapi (dv output src : Ref) : Act Ref := do
  let t ← tensor src
  let memory ← importOfTensor dv .vaapi src
  let len := t.layout.span
  let s ← Device.importSurface dv memory none len 1 [⟨t.offset, len, [1, len, 1]⟩]
  let id := (← surface s).id
  let spec ← mapped src .vaapi output t.layout
  let spec :=
    spec.withHandle Key.surface (.num id) |>.withHandle Key.offset (Handle.ofWord t.offset)
  { spec with offset := t.offset, holding := some (.shared s) }.build

/-- Imports the planes of an image frame sharing one descriptor as one surface, or maps tensor
by tensor. -/
def dmaToVaapiFrame (dv output src : Ref) (mapOne : Ref → Act Ref) : Act Ref := do
  let f ← frame src
  let format := ImageFormat.ofCode? f.format
  let t0 ← Frame.tensorAt src 0
  let fd ← Tensor.handleOf t0 Key.dmaFd
  let mut shared := f.media == .image && format.isSome
  for t in f.tensors do
    let h ← Tensor.handleOf t Key.dmaFd
    shared := shared && (h == fd && (← tensor t).layout.rank == 3)
  if !shared then return ← perTensor .dma mapOne src
  let mut planes := []
  for t in f.tensors do
    let x ← tensor t
    planes := planes ++ [⟨x.offset, x.layout.stride.getD 0 0, x.layout.shape.take 3⟩]
  let luma ← lift (ImageView.ofLayout (← tensor t0).layout)
  let memory ← Device.importFd dv .vaapi (objectId fd)
  let s ← Device.importSurface dv memory format luma.width luma.height planes
  let g ← surfaceFrame output s
  withParent g src

def clTensor (output src buffer : Ref) : Act Ref := do
  let t ← tensor src
  let id := (← clBuffer buffer).id
  let spec ← mapped src .openCl output t.layout
  { spec.withHandle Key.clMem (.num id) with holding := some (.shared buffer) }.build

/-- Imports a descriptor as a compute buffer. -/
def dmaToOpenCl (dv output src : Ref) : Act Ref := do
  let t ← tensor src
  let memory ← importOfTensor dv .openCl src
  owning memory (Device.call dv .openCl "clImportMemoryARM")
  let buffer ← Device.clBufferOnAllocation dv memory t.offset t.layout.span
  clTensor output src buffer

/-- Shares a surface with a compute context on its display. -/
def vaapiToOpenCl (dv output src : Ref) : Act Ref := do
  let t ← tensor src
  let s ← surfaceOfTensor dv src
  keeping s do
    let buffer ← Device.shareSurface dv s t.offset t.layout.span
    clTensor output src buffer

/-- The address of a view inside a compute buffer, which must hold all of it. -/
def bufferPointer (b : ClBuffer) (t : Tensor) : Act Addr := do
  let span := t.layout.span
  let inside := match Word.addChecked t.offset span with
    | some stop => decide (stop ≤ b.len)
    | none => false
  if inside then return b.ptr.advance t.offset
  throw (.invalidArgument
    s!"view of {span} bytes at offset {t.offset} exceeds OpenCL buffer of {b.len} bytes")

/-- Host view of a compute buffer. -/
def openClToCpu (dv output src : Ref) : Act Ref := do
  let t ← tensor src
  let buffer ← Device.clBufferOf dv (objectId (← Tensor.handleOf src Key.clMem))
  let ptr ← owning buffer do
    Device.call dv .openCl "clEnqueueMapBuffer"
    bufferPointer (← clBuffer buffer) t
  let spec ← mapped src .cpu output t.layout
  { spec with host := some ptr, holding := some (.shared buffer) }.build

/-- Wraps host memory as a compute buffer. -/
def cpuToOpenCl (dv output src : Ref) : Act Ref := do
  let t ← tensor src
  let ptr ← lift t.data
  let owner ← memoryOwner src
  let buffer ← Device.clBufferOnHost dv ptr owner t.layout.span
  clTensor output src buffer

/-- Imports a descriptor as unified shared memory. -/
def dmaToUsm (dv output src : Ref) : Act Ref := do
  let t ← tensor src
  let memory ← importOfTensor dv .levelZero src
  let ptr ← owning memory do
    Device.call dv .levelZero "zeMemAllocDevice"
    Device.pointerAt memory t.offset t.layout.span
  let spec ← mapped src .levelZero output t.layout
  { spec.withHandle Key.usmPtr (.addr ptr) with
    host := some ptr, holding := some (.allocation memory) }.build

/-- Host view of unified shared memory, once the device queue is idle. -/
def usmToCpu (dv output src : Ref) : Act Ref := do
  Device.synchronize dv
  let t ← tensor src
  let ptr ← lift t.data
  let owner ← memoryOwner src
  let spec ← mapped src .cpu output t.layout
  { spec with host := some ptr, holding := some (.shared owner) }.build

/-- Wraps host memory as a runtime tensor. -/
def cpuToOpenVino (output src : Ref) : Act Ref := do
  let t ← tensor src
  let ptr ← lift t.data
  let spec ← runtimeSpec src output t.layout
  let owner ← memoryOwner src
  { spec with host := some ptr, holding := some (.shared owner) }.build

/-- Wraps an image frame as one runtime tensor over its first plane. -/
def cpuToOpenVinoImage (output src : Ref) : Act Ref := do
  let f ← frame src
  if f.format = ImageFormat.i420.code then
    throw (.invalidArgument s!"Unsupported color format {f.format}")
  let plane ← Frame.tensorAt src 0
  let p ← tensor plane
  let layout ← lift (Layout.withStride p.layout.shape p.layout.stride .uint8)
  let ptr ← lift p.data
  let spec ← runtimeSpec plane output layout
  let owner ← memoryOwner plane
  let t ← { spec with host := some ptr, holding := some (.shared owner) }.build
  let g ← Frame.make .tensors 0 [t]
  withParent g src

/-- The host address of a remote runtime tensor and what keeps it alive, through its compute
buffer or else its surface. -/
def remotePointer (device : Option Ref) (src : Ref) : Act (Addr × Ref) := do
  let some dv := device | throw (.notHostAddressable .openVino)
  let t ← tensor src
  match t.handle Key.clMem with
  | .ok h =>
    let buffer ← Device.clBufferOf dv (objectId h)
    owning buffer do
      Device.call dv .openCl "clEnqueueMapBuffer"
      let ptr ← bufferPointer (← clBuffer buffer) t
      return (ptr, buffer)
  | .error _ =>
    let s ← surfaceOfTensor dv src
    keeping s do
      let memory := (← surface s).memory
      waitMemory dv memory
      Device.call dv .vaapi "vaMapBuffer"
      let ptr ← Device.pointerAt memory t.offset t.layout.span
      retain memory
      return (ptr, memory)

/-- Host view of a runtime tensor. -/
def openVinoToCpu (device : Option Ref) (output src : Ref) : Act Ref := do
  let t ← tensor src
  let (ptr, owner) ← match t.data with
    | .ok p => do pure (p, ← memoryOwner src)
    | .error _ => remotePointer device src
  let spec ← mapped src .cpu output t.layout
  { spec with host := some ptr, holding := some (.shared owner) }.build

/-- A remote runtime tensor over a compute buffer. -/
def openClToOpenVino (dv output src : Ref) : Act Ref := do
  let t ← tensor src
  let h ← Tensor.handleOf src Key.clMem
  let buffer ← Device.clBufferOf dv (objectId h)
  let spec ← runtimeSpec src output t.layout
  { spec.withHandle Key.clMem h with offset := t.offset, holding := some (.shared buffer) }.build

/-- A remote runtime tensor over a surface plane. -/
def vaapiToOpenVino (dv output src : Ref) : Act Ref := do
  let t ← tensor src
  let h ← Tensor.handleOf src Key.surface
  let s ← Device.surfaceOf dv (objectId h)
  let spec ← runtimeSpec src output t.layout
  let spec := spec.withHandle Key.surface h
    |>.withHandle Key.planeIndex (t.handleOr Key.planeIndex (.num 0))
  { spec with offset := t.offset, holding := some (.shared s) }.build

/-- Maps a tensor along a route, after checking it has the route's input kind. -/
def routeTensor (route : Route) (input output : Ref) (device : Option Ref) (src : Ref) :
    Act Ref := do
  expectKind (← Context.kindOf input) (← tensor src).kind
  let onDevice (f : Ref → Act Ref) : Act Ref :=
    match device with
    | some dv => f dv
    | none => broken s!"{route.name} has no device"
  match route with
  | .dmaToCpu => onDevice fun dv => dmaToCpu dv output src
  | .vaapiToCpu => onDevice fun dv => vaapiToCpu dv output src
  | .cpuToVaapi => onDevice fun dv => cpuToVaapi dv output src
  | .vaapiToDma => onDevice fun dv => vaapiToDma dv output src
  | .dmaToVaapi => onDevice fun dv => dmaToVaapi dv output src
  | .dmaToOpenCl => onDevice fun dv => dmaToOpenCl dv output src
  | .vaapiToOpenCl => onDevice fun dv => vaapiToOpenCl dv output src
  | .openClToCpu => onDevice fun dv => openClToCpu dv output src
  | .cpuToOpenCl => onDevice fun dv => cpuToOpenCl dv output src
  | .dmaToUsm => onDevice fun dv => dmaToUsm dv output src
  | .usmToCpu => onDevice fun dv => usmToCpu dv output src
  | .cpuToOpenVino => cpuToOpenVino output src
  | .openVinoToCpu => openVinoToCpu device output src
  | .openClToOpenVino => onDevice fun dv => openClToOpenVino dv output src
  | .vaapiToOpenVino => onDevice fun dv => vaapiToOpenVino dv output src

/-- Maps a frame along a route. -/
def routeFrame (route : Route) (input output : Ref) (device : Option Ref) (src : Ref) :
    Act Ref := do
  let inputKind ← Context.kindOf input
  let mapOne := routeTensor route input output device
  let onDevice (f : Ref → Act Ref) : Act Ref :=
    match device with
    | some dv => f dv
    | none => broken s!"{route.name} has no device"
  match route with
  | .cpuToVaapi => onDevice fun dv => do
    let f ← frame src
    expectKind inputKind f.kind
    match f.media, ImageFormat.ofCode? f.format with
    | .image, some fmt =>
      if fmt.planes = f.tensors.length then cpuToVaapiFrame dv output src fmt
      else perTensor inputKind mapOne src
    | _, _ => perTensor inputKind mapOne src
  | .vaapiToDma => onDevice fun dv => do
    expectKind inputKind (← frame src).kind
    match ← singleSurface dv src with
    | some s => vaapiToDmaFrame dv output src s
    | none => perTensor inputKind mapOne src
  | .dmaToVaapi => onDevice fun dv => do
    expectKind inputKind (← frame src).kind
    dmaToVaapiFrame dv output src mapOne
  | .cpuToOpenVino => do
    let f ← frame src
    expectKind inputKind f.kind
    match f.media with
    | .tensors => perTensor inputKind mapOne src
    | .image => cpuToOpenVinoImage output src
    | other => throw (.invalidArgument s!"Unsupported media type {other.name}")
  | .vaapiToOpenVino => do
    let f ← frame src
    expectKind inputKind f.kind
    if f.media ≠ .image || f.format ≠ ImageFormat.nv12.code || f.tensors.length ≠ 2 then
      throw (.invalidArgument
        (s!"VA surfaces map to remote tensors only as NV12 images, got {f.media.name} " ++
          s!"format {f.format}"))
    perTensor inputKind mapOne src
  | _ => perTensor inputKind mapOne src

end Mapper

end MemBridge
