import MemBridge.Store.Basic

/-!
Releasing shared objects.

Releasing a strong reference lowers the object's count; at zero the object is dropped: first
what its own drop does (a device allocation leaves its device's counts, a surface too, a
descriptor closes and gives back the allocation its device kept open for it, a compute buffer
leaves its device's counts and releases the surface it acquired), then its fields in the
order they are declared, each released in turn and completely before the next. A host buffer
goes back to its allocator while that lives, and to the system otherwise; a dropped allocator
gives its pooled blocks back to the system.

The cascade is a stack of `Task`s processed one at a time, with as much fuel as there are
tasks the store can ever produce from its live objects.
-/

namespace MemBridge

/-- One step of a release. -/
inductive Task where
  /-- Release one strong reference. -/
  | release (r : Ref)
  /-- Give a host buffer back. -/
  | free (b : Buffer)
  /-- An allocator goes away. -/
  | close (allocator : Nat)
  deriving Inhabited

namespace Body

def linkTasks : ContextLink → List Task
  | .strong r => [.release r]
  | _ => []

def holdingTasks : Option Holding → List Task
  | some (.buffer b) => [.free b]
  | some (.allocation r) | some (.shared r) => [.release r]
  | none => []

def backendTasks : Backend → List Task
  | .cpu d a => (d.toList.map .release) ++ [.close a]
  | .dma d | .vaapi d _ | .openCl d _ _ | .levelZero d _ => [.release d]
  | .openVino d _ => d.toList.map .release
  | .plain _ => []

def slotTasks (slots : List Slot) : List Task :=
  slots.filterMap fun s => s.value.map .release

/-- What dropping the fields of an object does, in declaration order. -/
def tasks : Body → List Task
  | .device d => [.close d.allocator] ++ d.descriptors.map (fun e => .release e.2)
  | .context c => (c.parent.toList.map .release) ++ backendTasks c.backend
  | .mapper (.identity c) => [.release c]
  | .mapper (.direct _ i o d) => [.release i, .release o] ++ d.toList.map .release
  | .mapper (.chain links _) => links.map .release
  | .mapper (.cache c) => .release c.inner :: slotTasks c.tensors ++ slotTasks c.frames
  | .tensor t => linkTasks t.context ++ (t.parent.toList.map .release) ++ holdingTasks t.holding
  | .frame f =>
    f.tensors.map .release ++
      (f.metadata.flatMap fun d => d.tensors.map fun t => .release t.id) ++
      f.parent.toList.map .release
  | .allocation a => [.free a.buffer]
  | .surface s => [.release s.memory]
  | .descriptor d => [.release d.memory, .release d.device]
  | .clBuffer b => [.release b.owner, .release b.device]
  | .framePool p => p.frames.map .release

end Body

namespace Act

/-- Gives a host buffer back to its allocator, or to the system when the allocator is gone.
A block that finds its bucket full goes to the system too. -/
def freeBuffer (b : Buffer) : Act Unit := do
  match (← get).allocators[b.home]? with
  | some (some p) =>
    let (p, _) := p.recycle b.block
    modify fun w => { w with allocators := w.allocators.set! b.home (some p) }
  | _ => pure ()

def closeAllocator (a : Nat) : Act Unit :=
  modify fun w => { w with allocators := w.allocators.set! a none }

/-- What an object's own drop does before its fields go, and the tasks it adds. -/
def dropSelf (b : Body) : Act (List Task) := do
  match b with
  | .allocation a =>
    modifyDevice a.device fun d =>
      { d with allocations := d.allocations - 1,
               bytes := (d.bytes + Word.bound - a.buffer.capacity) % Word.bound }
    return []
  | .surface s =>
    modifyDevice s.device fun d => { d with surfaces := d.surfaces - 1 }
    return []
  | .descriptor x =>
    let d ← device x.device
    match d.descriptors.lookup x.fd with
    | some m =>
      modifyDevice x.device fun d => { d with descriptors := d.descriptors.filter (·.1 != x.fd) }
      return [.release m]
    | none => return []
  | .clBuffer c =>
    modifyDevice c.device fun d =>
      let d := { d with clBuffers := d.clBuffers - 1 }
      match c.acquired with
      | some s => d.releaseSurface s
      | none => d
    return []
  | _ => return []

/-- Runs release tasks, depth first. -/
def drain : List Task → Nat → Act Unit
  | [], _ => pure ()
  | _, 0 => pure ()
  | .free b :: rest, fuel + 1 => do freeBuffer b; drain rest fuel
  | .close a :: rest, fuel + 1 => do closeAllocator a; drain rest fuel
  | .release r :: rest, fuel + 1 => do
    let n ← node r
    if n.strong > 1 then
      modify fun w => { w with nodes := w.nodes.set! r { n with strong := n.strong - 1 } }
      drain rest fuel
    else if n.strong = 0 then drain rest fuel
    else
      modify fun w => { w with nodes := w.nodes.set! r { n with strong := 0 } }
      let first ← dropSelf n.body
      drain (first ++ n.body.tasks ++ rest) fuel

def taskBound (w : World) : Nat :=
  w.nodes.foldl (fun acc n => acc + n.body.tasks.length + 2) 1

def runTasks (ts : List Task) : Act Unit := do
  drain ts (taskBound (← get) + ts.length)

def release (r : Ref) : Act Unit := runTasks [.release r]

def releaseAll (rs : List Ref) : Act Unit := runTasks (rs.map .release)

def owning {α : Type} (r : Ref) (x : Act α) : Act α :=
  tryCatch x fun e => do release r; throw e

/-- Runs an operation while holding a temporary reference `r`, released afterwards whatever the
operation does. -/
def keeping {α : Type} (r : Ref) (x : Act α) : Act α := do
  let v ← owning r x
  release r
  return v

def attempt {α : Type} (x : Act α) : Act (Except Fault α) :=
  tryCatch (Except.ok <$> x) fun e => pure (.error e)

/-- Makes one object per item, in order; when one fails, those made so far are released
before the failure goes on. -/
def collect {α : Type} (items : List α) (step : α → Act Ref) : Act (List Ref) := do
  let mut made := []
  for x in items do
    let r ← tryCatch (step x) fun e => do releaseAll made; throw e
    made := made ++ [r]
  return made

end Act

end MemBridge
