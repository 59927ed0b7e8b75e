import MemBridge.Mapper.Transfer

/-!
Running a mapper.

The identity hands back its source. A chain runs its links in order, each on the previous
link's result, and lets go of each intermediate result once the next link is done with it.

A cache looks up the slot of the source's primary handle (for a frame, that of tensor 0) and
the access mode, making the slot on first use. A filled slot hands out its destination again:
a destination still held outside the cache is refused under the strict policy, and a
destination handed out again loses its parent (a frame also its metadata and regions). An
empty slot is filled by the mapper the cache fronts; the new destination, and for a frame each
of its tensors, loses its parent link so that it does not keep its source alive. Evicting a
handle drops its slots in every mode; clearing drops every slot.

Mappers only nest mappers made before them, so the number of objects bounds the nesting.
-/

namespace MemBridge

namespace Mapper

open Act

def setCache (m : Ref) (c : Cache) : Act Unit := setBody m (.mapper (.cache c))

def cacheOf (m : Ref) : Act Cache := do
  match ← mapper m with
  | .cache c => return c
  | _ => broken s!"{m} is no cache"

/-- The slot of a handle and a mode, and the slots with it made when it was missing. -/
def slotFor (slots : List Slot) (h : Handle) (mode : AccessMode) : Slot × List Slot :=
  match slots.find? (fun s => s.handle == h && s.mode == mode) with
  | some s => (s, slots)
  | none =>
    let s : Slot := ⟨h, mode, none⟩
    (s, slots ++ [s])

def fillSlot (slots : List Slot) (h : Handle) (mode : AccessMode) (v : Ref) : List Slot :=
  slots.map fun s => if s.handle == h && s.mode == mode then { s with value := some v } else s

def checkReissue (c : Cache) (v : Ref) (h : Handle) : Act Unit := do
  let outstanding := (← strongCount v) - 1
  if outstanding ≠ 0 && c.policy = .strict then
    let kind ← Context.kindOf (← output c.inner)
    throw (.poolContract kind h.hexPieces outstanding)

/-- Hands a cached tensor out again, without its parent. -/
def reissueTensor (m : Ref) (c : Cache) (v : Ref) (h : Handle) : Act Ref := do
  checkReissue c v h
  Tensor.clearParent v
  let c ← cacheOf m
  setCache m { c with hits := c.hits + 1 }
  retain v
  return v

/-- Hands a cached frame out again, without its metadata, its regions and its parent. -/
def reissueFrame (m : Ref) (c : Cache) (v : Ref) (h : Handle) : Act Ref := do
  checkReissue c v h
  Frame.clearMetadata v
  Frame.clearRegions v
  Frame.clearParent v
  let c ← cacheOf m
  setCache m { c with hits := c.hits + 1 }
  retain v
  return v

mutual

/-- Maps a tensor, within a nesting bound. -/
def tensorWith (fuel : Nat) (m src : Ref) (mode : AccessMode) : Act Ref :=
  match fuel with
  | 0 => broken "mapper nesting too deep"
  | fuel + 1 => do
    match ← mapper m with
    | .identity _ =>
      retain src
      return src
    | .direct route i o d => routeTensor route i o d src
    | .chain links _ =>
      retain src
      chainTensor fuel links src mode
    | .cache c => do
      let h ← Tensor.handleOf src ""
      let (slot, slots) := slotFor c.tensors h mode
      setCache m { c with tensors := slots }
      match slot.value with
      | some v => reissueTensor m c v h
      | none =>
        let dst ← tensorWith fuel c.inner src mode
        Tensor.clearParent dst
        retain dst
        let c ← cacheOf m
        setCache m { c with tensors := fillSlot c.tensors h mode dst, misses := c.misses + 1 }
        return dst

/-- Runs the links of a chain on a tensor the caller hands over. -/
def chainTensor (fuel : Nat) (links : List Ref) (cur : Ref) (mode : AccessMode) : Act Ref :=
  match links with
  | [] => return cur
  | l :: rest => do
    let next ← keeping cur (tensorWith fuel l cur mode)
    chainTensor fuel rest next mode

end

mutual

/-- Maps a frame, within a nesting bound. -/
def frameWith (fuel : Nat) (m src : Ref) (mode : AccessMode) : Act Ref :=
  match fuel with
  | 0 => broken "mapper nesting too deep"
  | fuel + 1 => do
    match ← mapper m with
    | .identity _ =>
      retain src
      return src
    | .direct route i o d => routeFrame route i o d src
    | .chain links _ =>
      retain src
      chainFrame fuel links src mode
    | .cache c => do
      let h ← Tensor.handleOf (← Frame.tensorAt src 0) ""
      let (slot, slots) := slotFor c.frames h mode
      setCache m { c with frames := slots }
      match slot.value with
      | some v => reissueFrame m c v h
      | none =>
        let dst ← frameWith fuel c.inner src mode
        Frame.clearParent dst
        for t in (← frame dst).tensors do
          Tensor.clearParent t
        retain dst
        let c ← cacheOf m
        setCache m { c with frames := fillSlot c.frames h mode dst, misses := c.misses + 1 }
        return dst

/-- Runs the links of a chain on a frame the caller hands over. -/
def chainFrame (fuel : Nat) (links : List Ref) (cur : Ref) (mode : AccessMode) : Act Ref :=
  match links with
  | [] => return cur
  | l :: rest => do
    let next ← keeping cur (frameWith fuel l cur mode)
    chainFrame fuel rest next mode

end

def mapTensor (m src : Ref) (mode : AccessMode) : Act Ref := do
  tensorWith (← depth) m src mode

def mapFrame (m src : Ref) (mode : AccessMode) : Act Ref := do
  frameWith (← depth) m src mode

/-- Drops the slots of a handle from a cache, whatever their mode, and releases what they
held; whether there were any. -/
def evict (m : Ref) (h : Handle) : Act Bool := do
  let c ← cacheOf m
  let (goneTensors, keptTensors) := c.tensors.partition (·.handle == h)
  let (goneFrames, keptFrames) := c.frames.partition (·.handle == h)
  setCache m { c with tensors := keptTensors, frames := keptFrames }
  releaseAll (goneTensors.filterMap (·.value))
  releaseAll (goneFrames.filterMap (·.value))
  return !goneTensors.isEmpty || !goneFrames.isEmpty

/-- Empties a cache, releasing what its slots held. -/
def clear (m : Ref) : Act Unit := do
  let c ← cacheOf m
  setCache m { c with tensors := [] }
  releaseAll (c.tensors.filterMap (·.value))
  let c ← cacheOf m
  setCache m { c with frames := [] }
  releaseAll (c.frames.filterMap (·.value))

end Mapper

end MemBridge
