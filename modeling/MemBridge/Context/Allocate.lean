import MemBridge.Mapper.Transfer

/-!
Allocating tensors and frames in a context.

Host tensors come from the recycling allocator of a host context, sized by the layout's
`nbytes`; an image frame in host memory has one tensor per plane of its format. A frame of
surfaces is one surface of the format on the context's device, one tensor per plane. Unified
shared memory is a device allocation whose address is also the tensor's `usm_ptr` handle.

A frame pool allocates all its frames up front, with a frame allocator (surfaces of the
context's device, for the pools of a context), in the first format the allocator accepts: a
format refused with a recoverable failure gives way to the next one, and the last format is
tried as it is. A frame is free when nothing outside the pool holds it; acquiring hands out
the first free frame from a cursor that moves on by one on each call, with its metadata,
regions and parent cleared.
-/

namespace MemBridge

namespace Context

open Act

def allocatorOf (ctx : Ref) : Act Nat := do
  match (← context ctx).backend with
  | .cpu _ a => return a
  | b => throw (.invalidContext b.kind "not a CPU context created by this crate")

/-- A host tensor of a layout from the context's allocator; the caller owns it. -/
def allocateHost (ctx : Ref) (layout : Layout) : Act Ref := do
  let buffer ← hostAlloc (← allocatorOf ctx) layout.nbytes
  retain ctx
  let spec : TensorSpec :=
    { layout, kind := .cpu, host := some buffer.base, holding := some (.buffer buffer),
      context := .strong ctx }
  spec.build

/-- An image frame in host memory, one contiguous tensor per plane. -/
def allocateImage (ctx : Ref) (fmt : ImageFormat) (width height : Nat) : Act Ref := do
  let made ← collect (List.range fmt.planes) fun index => do
    let shape ← match fmt.planeShape index width height with
      | some s => pure s
      | none => throw (.invalidArgument s!"{fmt.name} plane {index}")
    let layout ← lift ((Layout.ofShape shape .uint8).mapError Fault.asHalt)
    allocateHost ctx layout
  Frame.make .image fmt.code made

def allocateSurfaceFrame (ctx : Ref) (fmt : ImageFormat) (width height : Nat) : Act Ref := do
  let dv ← deviceOf ctx
  let s ← Device.createSurface dv fmt width height
  Mapper.surfaceFrame ctx s

/-- A tensor of unified shared memory on the context's device. -/
def allocateShared (ctx : Ref) (layout : Layout) : Act Ref := do
  let dv ← deviceOf ctx
  Device.call dv .levelZero "zeMemAllocShared"
  let memory ← Device.allocate dv .levelZero layout.nbytes
  let ptr := (← allocation memory).buffer.base
  retain ctx
  let spec : TensorSpec :=
    { layout, kind := .levelZero, host := some ptr, context := .strong ctx,
      holding := some (.allocation memory) }
  (spec.withHandle Key.usmPtr (.addr ptr)).build

end Context

/-- What a frame pool allocates its frames with: the memory kind of the frames, and the
allocation of one frame in a format, which the caller owns. -/
structure FrameAllocator where
  kind : MemoryKind
  allocate : ImageFormat → Act Ref

def FrameAllocator.surfaces (ctx : Ref) (width height : Nat) : FrameAllocator where
  kind := .vaapi
  allocate fmt := Context.allocateSurfaceFrame ctx fmt width height

namespace FramePool

open Act

/-- The first format whose frame the allocator makes, and that frame; a recoverable failure
moves on to the next format, and the last format is tried as it is. -/
def firstFrame (a : FrameAllocator) : List ImageFormat → Act (ImageFormat × Ref)
  | [] => throw (.invalidArgument "frame pool needs at least one format")
  | [last] => do return (last, ← a.allocate last)
  | fmt :: rest => do
    match ← attempt (a.allocate fmt) with
    | .ok f => return (fmt, f)
    | .error e =>
      if e.recoverable then firstFrame a rest else throw e

/-- Allocates `n` more frames of a format after those made so far; when one fails, the frames
made so far are let go before the failure goes on. -/
def fillFrames (a : FrameAllocator) (format : ImageFormat) : Nat → List Ref → Act (List Ref)
  | 0, frames => pure frames
  | n + 1, frames => do
    let f ← tryCatch (a.allocate format) fun e => do
      releaseAll frames
      throw e
    fillFrames a format n (frames ++ [f])

def new (a : FrameAllocator) (formats : List ImageFormat) (capacity : Nat) : Act Ref := do
  if capacity = 0 then throw (.invalidArgument "frame pool capacity must be non-zero")
  let (format, first) ← firstFrame a formats
  let frames ← fillFrames a format (capacity - 1) [first]
  create (.framePool { frames, format, kind := a.kind })

def make (ctx : Ref) (width height : Nat) (formats : List ImageFormat) (capacity : Nat) :
    Act Ref :=
  new (.surfaces ctx width height) formats capacity

def isFree (f : Ref) : Act Bool := return (← strongCount f) == 1

/-- The frames of a pool in the order a hand-out looks at them: from the one at `start`,
around. -/
def scan (pool : FramePool) (start : Nat) : List Ref :=
  (List.range pool.frames.length).map fun step =>
    pool.frames.getD ((start + step) % pool.frames.length) 0

def firstFree : List Ref → Act (Option Ref)
  | [] => pure none
  | f :: rest => do if ← isFree f then return some f else firstFree rest

/-- Hands out the next free frame, reset; the caller owns it. -/
def acquire (p : Ref) : Act Ref := do
  let pool ← framePool p
  setBody p (.framePool { pool with cursor := pool.cursor + 1 })
  match ← firstFree (pool.scan pool.cursor) with
  | some f =>
    Frame.clearMetadata f
    Frame.clearRegions f
    Frame.clearParent f
    retain f
    return f
  | none => throw (.poolExhausted pool.frames.length)

def available (p : Ref) : Act Nat := do
  let mut n := 0
  for f in (← framePool p).frames do
    if ← isFree f then n := n + 1
  return n

end FramePool

end MemBridge
