import Mathlib
import MemBridge.Store.Release

/-!
Views of the store.

`World.bodyAt` reads the object at a reference and `World.strongAt` its strong count.
`Body.variant` says which sort of object a body is and `Body.refs` lists every reference a body
names, held or not. `Mapper.skeleton` forgets what a cache has learnt, leaving what it fronts.

The node array changes in three ways only: a node is pushed, a body is replaced, a count is
replaced. Each gets its lemmas through the views here, so later proofs never look at arrays.
-/

namespace MemBridge

/-- The sorts of objects of the store. -/
inductive Body.Variant where
  | device
  | context
  | mapper
  | tensor
  | frame
  | allocation
  | surface
  | descriptor
  | clBuffer
  | framePool
  deriving DecidableEq, Repr

namespace Body

/-- The sort of object a body holds. -/
def variant : Body → Body.Variant
  | .device _ => .device
  | .context _ => .context
  | .mapper _ => .mapper
  | .tensor _ => .tensor
  | .frame _ => .frame
  | .allocation _ => .allocation
  | .surface _ => .surface
  | .descriptor _ => .descriptor
  | .clBuffer _ => .clBuffer
  | .framePool _ => .framePool

@[simp, grind =] theorem variant_mapper (m : Mapper) : (Body.mapper m).variant = .mapper := rfl
@[simp, grind =] theorem variant_tensor (t : Tensor) : (Body.tensor t).variant = .tensor := rfl
@[simp, grind =] theorem variant_frame (f : Frame) : (Body.frame f).variant = .frame := rfl
@[simp, grind =] theorem variant_device (d : Device) : (Body.device d).variant = .device := rfl

theorem variant_eq_mapper {b : Body} : b.variant = .mapper ↔ ∃ m, b = .mapper m := by
  cases b <;> simp [variant]

def linkRefs : ContextLink → List Ref
  | .strong r | .weak r => [r]
  | .none => []

def holdingRefs : Option Holding → List Ref
  | some (.allocation r) | some (.shared r) => [r]
  | _ => []

def backendRefs : Backend → List Ref
  | .cpu d _ | .openVino d _ => d.toList
  | .dma d | .vaapi d _ | .openCl d _ _ | .levelZero d _ => [d]
  | .plain _ => []

/-- Every reference a body names, held or not. -/
def refs : Body → List Ref
  | .device d =>
    d.descriptors.map (·.2) ++ d.surfaceTable.map (·.2) ++ d.clBufferTable.map (·.2)
  | .context c => c.parent.toList ++ backendRefs c.backend ++ c.registry.map (·.2)
  | .mapper (.identity c) => [c]
  | .mapper (.direct _ i o d) => [i, o] ++ d.toList
  | .mapper (.chain links _) => links
  | .mapper (.cache c) =>
    c.inner :: (c.tensors.filterMap (·.value) ++ c.frames.filterMap (·.value))
  | .tensor t => linkRefs t.context ++ t.parent.toList ++ holdingRefs t.holding
  | .frame f =>
    f.tensors ++ (f.metadata.flatMap fun d => d.tensors.map (·.id)) ++ f.parent.toList ++
      f.regions
  | .allocation a => [a.device]
  | .surface s => [s.memory, s.device]
  | .descriptor d => [d.memory, d.device]
  | .clBuffer b => [b.owner, b.device]
  | .framePool p => p.frames

/-- The device a device resource counts in. -/
def home? : Body → Option Ref
  | .allocation a => some a.device
  | .surface s => some s.device
  | .descriptor d => some d.device
  | .clBuffer b => some b.device
  | _ => none

end Body

namespace Mapper

def skeleton : Mapper → Mapper
  | .cache c => .cache { c with tensors := [], frames := [], hits := 0, misses := 0 }
  | m => m

def children : Mapper → List Ref
  | .chain links _ => links
  | .cache c => [c.inner]
  | _ => []

@[simp] theorem children_skeleton (m : Mapper) : m.skeleton.children = m.children := by
  cases m <;> rfl

end Mapper

namespace World

def bodyAt (w : World) (r : Ref) : Option Body := w.nodes[r]?.map (·.body)

def strongAt (w : World) (r : Ref) : Nat := (w.nodes[r]?.map (·.strong)).getD 0

def setBody (w : World) (r : Ref) (b : Body) : World :=
  { w with nodes := w.nodes.modify r fun n => { n with body := b } }

def setStrong (w : World) (r : Ref) (n : Node) (k : Nat) : World :=
  { w with nodes := w.nodes.set! r { n with strong := k } }

def push (w : World) (n : Node) : World :=
  { w with nodes := w.nodes.push n }

/-- A failure keeps the world as it is when it is caught: the world is not rolled back. -/
@[simp, grind =] theorem restore_save (w w' : World) :
    (EStateM.Backtrackable.restore w (EStateM.Backtrackable.save w' : PUnit) : World) = w := rfl

theorem bodyAt_isSome {w : World} {r : Nat} : (w.bodyAt r).isSome ↔ r < w.nodes.size := by
  simp [bodyAt]

theorem lt_size_of_bodyAt {w : World} {r : Nat} {b : Body} (h : w.bodyAt r = some b) :
    r < w.nodes.size :=
  bodyAt_isSome.1 (by simp [h])

theorem bodyAt_of_getElem? {w : World} {r : Nat} {n : Node} (h : w.nodes[r]? = some n) :
    w.bodyAt r = some n.body := by
  simp [bodyAt, h]

@[simp] theorem setBody_size (w : World) (r : Nat) (b : Body) :
    (w.setBody r b).nodes.size = w.nodes.size := by
  simp [setBody]

theorem bodyAt_setBody (w : World) (r r' : Nat) (b : Body) :
    (w.setBody r b).bodyAt r' = if r' = r ∧ r < w.nodes.size then some b else w.bodyAt r' := by
  simp only [setBody, bodyAt, Array.getElem?_modify]
  by_cases h : r' = r
  · subst h
    by_cases hr : r' < w.nodes.size <;> simp [hr]
  · simp [Ne.symm h, h]

theorem bodyAt_setBody_of_lt {w : World} {r : Nat} (b : Body) (h : r < w.nodes.size) :
    (w.setBody r b).bodyAt r = some b := by
  simp [bodyAt_setBody, h]

theorem bodyAt_setBody_of_ne {w : World} {r r' : Nat} (b : Body) (h : r' ≠ r) :
    (w.setBody r b).bodyAt r' = w.bodyAt r' := by
  simp [bodyAt_setBody, h]

theorem strongAt_setBody (w : World) (r r' : Nat) (b : Body) :
    (w.setBody r b).strongAt r' = w.strongAt r' := by
  simp only [setBody, strongAt, Array.getElem?_modify]
  by_cases h : r = r' <;> simp [h]
  cases w.nodes[r']? <;> rfl

@[simp] theorem setStrong_size (w : World) (r : Nat) (n : Node) (k : Nat) :
    (w.setStrong r n k).nodes.size = w.nodes.size := by
  simp [setStrong]

theorem bodyAt_setStrong {w : World} {r : Nat} {n : Node} (h : w.nodes[r]? = some n)
    (k : Nat) (r' : Nat) : (w.setStrong r n k).bodyAt r' = w.bodyAt r' := by
  simp only [setStrong, bodyAt, Array.set!_eq_setIfInBounds, Array.getElem?_setIfInBounds]
  by_cases h' : r = r'
  · subst h'
    have : r < w.nodes.size := by
      by_contra hc
      simp [Array.getElem?_eq_none (Nat.le_of_not_lt hc)] at h
    rw [Array.getElem?_eq_getElem this] at h
    simp [this, ← Option.some.inj h]
  · simp [h']

theorem strongAt_setStrong {w : World} {r : Nat} {n : Node} (h : w.nodes[r]? = some n)
    (k : Nat) (r' : Nat) :
    (w.setStrong r n k).strongAt r' = if r' = r then k else w.strongAt r' := by
  simp only [setStrong, strongAt, Array.set!_eq_setIfInBounds, Array.getElem?_setIfInBounds]
  by_cases h' : r = r'
  · subst h'
    have : r < w.nodes.size := by
      by_contra hc
      simp [Array.getElem?_eq_none (Nat.le_of_not_lt hc)] at h
    simp [this]
  · simp [h', Ne.symm h']

@[simp] theorem push_size (w : World) (n : Node) : (w.push n).nodes.size = w.nodes.size + 1 := by
  simp [push]

theorem bodyAt_push (w : World) (n : Node) (r : Nat) :
    (w.push n).bodyAt r = if r = w.nodes.size then some n.body else w.bodyAt r := by
  simp only [push, bodyAt, Array.getElem?_push]
  split <;> simp_all

@[simp, grind =] theorem bodyAt_push_size (w : World) (n : Node) :
    (w.push n).bodyAt w.nodes.size = some n.body := by
  simp [bodyAt_push]

theorem strongAt_push (w : World) (n : Node) (r : Nat) :
    (w.push n).strongAt r = if r = w.nodes.size then n.strong else w.strongAt r := by
  simp only [push, strongAt, Array.getElem?_push]
  split <;> simp_all

theorem exists_node_of_bodyAt {w : World} {r : Nat} {x : Body} (h : w.bodyAt r = some x) :
    ∃ n, w.nodes[r]? = some n ∧ n.body = x := by
  simpa [bodyAt] using h

theorem getElem?_setBody_of_ne {w : World} {r r' : Nat} (b : Body) (h : r' ≠ r) :
    (w.setBody r b).nodes[r']? = w.nodes[r']? := by
  simp [setBody, Array.getElem?_modify, Ne.symm h]

theorem lt_size_of_strongAt_pos {w : World} {r : Nat} (h : 0 < w.strongAt r) :
    r < w.nodes.size := by
  by_contra hr
  simp [strongAt, Array.getElem?_eq_none (Nat.le_of_not_lt hr)] at h

theorem setBody_self {w : World} {r : Nat} {b : Body} (h : w.bodyAt r = some b) :
    w.setBody r b = w := by
  obtain ⟨n, hn, rfl⟩ : ∃ n, w.nodes[r]? = some n ∧ n.body = b := by simpa [bodyAt] using h
  suffices e : w.nodes.modify r (fun n' => { n' with body := n.body }) = w.nodes by
    simp [setBody, e]
  apply Array.ext_getElem?
  intro j
  rw [Array.getElem?_modify]
  split
  · next e => subst e; simp [hn]
  · rfl

end World

/-! ## Runs of the store's operations

Reading the store leaves the world as it is, and a write changes one body or one count. Each
operation gets its run on a world holding what it reads, so that the run of a larger operation
is computed one step at a time. -/

namespace Act

variable {w : World} {r : Ref}

@[simp] theorem run_throw {α : Type} (e : Fault) (w : World) :
    (throw e : Act α).run w = .error e w := rfl

@[simp] theorem run_broken {α : Type} (what : String) (w : World) :
    (broken what : Act α).run w = .error (.halt s!"store: {what}") w := rfl

theorem bind_ok {α β : Type} {x : Act α} {f : α → Act β} {b : β} {w' : World}
    (h : (x >>= f).run w = .ok b w') : ∃ a w₁, x.run w = .ok a w₁ ∧ (f a).run w₁ = .ok b w' := by
  rw [EStateM.run_bind] at h
  split at h
  · next a w₁ hx => exact ⟨a, w₁, hx, h⟩
  · cases h

theorem run_node {n : Node} (h : w.nodes[r]? = some n) : (node r).run w = .ok n w := by
  simp [node, h]

theorem run_body {x : Body} (h : w.bodyAt r = some x) : (body r).run w = .ok x w := by
  obtain ⟨n, hn, rfl⟩ : ∃ n, w.nodes[r]? = some n ∧ n.body = x := by simpa [World.bodyAt] using h
  simp [body, run_node hn]

theorem run_mapper {m : Mapper} (h : w.bodyAt r = some (.mapper m)) :
    (mapper r).run w = .ok m w := by
  simp [mapper, run_body h]

theorem run_tensor {t : Tensor} (h : w.bodyAt r = some (.tensor t)) :
    (tensor r).run w = .ok t w := by
  simp [tensor, run_body h]

theorem run_frame {f : Frame} (h : w.bodyAt r = some (.frame f)) :
    (frame r).run w = .ok f w := by
  simp [frame, run_body h]

theorem run_context {c : Context} (h : w.bodyAt r = some (.context c)) :
    (context r).run w = .ok c w := by
  simp [context, run_body h]

theorem run_strongCount (h : r < w.nodes.size) :
    (strongCount r).run w = .ok (w.strongAt r) w := by
  simp [strongCount, run_node (Array.getElem?_eq_getElem h), World.strongAt, h]

theorem run_setBody (b : Body) : (setBody r b).run w = .ok () (w.setBody r b) := rfl

theorem run_retain {n : Node} (h : w.nodes[r]? = some n) :
    (retain r).run w = .ok () (w.setStrong r n (n.strong + 1)) := by
  simp [retain, run_node h, World.setStrong]

theorem retain_run_ok {w' : World} (hrun : (retain r).run w = .ok () w') :
    ∃ n, w.nodes[r]? = some n ∧ w' = w.setStrong r n (n.strong + 1) := by
  cases hn : w.nodes[r]? with
  | none => simp [retain, node, hn] at hrun
  | some n =>
    rw [run_retain hn] at hrun
    cases hrun
    exact ⟨n, rfl, rfl⟩

theorem run_modifyTensor {t : Tensor} (h : w.bodyAt r = some (.tensor t)) (f : Tensor → Tensor) :
    (modifyTensor r f).run w = .ok () (w.setBody r (.tensor (f t))) := by
  simp [modifyTensor, run_tensor h, run_setBody]

theorem run_modifyFrame {x : Frame} (h : w.bodyAt r = some (.frame x)) (f : Frame → Frame) :
    (modifyFrame r f).run w = .ok () (w.setBody r (.frame (f x))) := by
  simp [modifyFrame, run_frame h, run_setBody]

end Act

end MemBridge
