import MemBridge.Proofs.Context.Registry

/-!
Worlds that only add objects.

`World.Adds w w'` says that `w'` keeps every object of `w` that is no device as it was, keeps
every object's sort, and links each object it adds, if at all, to an older object of the same
sort. A direct route is such a step: it reads its source, asks the device (whose counts and
tables change) for what it maps into, and builds new tensors and frames linked to what it read.

The specifications here fix the world a step starts in (`w = w₁`) and say what the step
leaves relative to it, so that a fact read at one step carries to the next through
`Adds.tensor_at` and its like.
-/

namespace MemBridge

open Std.Do

set_option mvcgen.warning false

-- A lemma of this module reaches `mvcgen` through a `have` (`specN`): named in the list, it would
-- make the proof wait until that lemma's own proof is checked. Where `grind` or `simp_all`
-- follows, the binding is cleared first, so that they do not take it up as a hypothesis.

namespace Body

def parent : Body → Option Ref
  | .tensor t => t.parent
  | .frame f => f.parent
  | _ => none

@[simp, grind =] theorem parent_tensor (t : Tensor) : (Body.tensor t).parent = t.parent := rfl
@[simp, grind =] theorem parent_frame (f : Frame) : (Body.frame f).parent = f.parent := rfl
@[simp, grind =] theorem parent_allocation (a : Allocation) : (Body.allocation a).parent = none :=
  rfl
@[simp, grind =] theorem parent_surface (s : Surface) : (Body.surface s).parent = none := rfl
@[simp, grind =] theorem parent_descriptor (d : Descriptor) : (Body.descriptor d).parent = none :=
  rfl
@[simp, grind =] theorem parent_clBuffer (b : ClBuffer) : (Body.clBuffer b).parent = none := rfl

end Body

namespace World

def parentAt (w : World) (r : Ref) : Option Ref := (w.bodyAt r).bind Body.parent

def sortAt (w : World) (r : Ref) : Option Body.Variant := (w.bodyAt r).map Body.variant

@[simp, grind =] theorem sortAt_eq (w : World) (r : Ref) :
    w.sortAt r = (w.bodyAt r).map Body.variant := rfl

@[grind →] theorem sortAt_of_bodyAt {w : World} {r : Ref} {x : Body} (h : w.bodyAt r = some x) :
    w.sortAt r = some x.variant := by
  simp [h]

/-- `w'` keeps every object of `w` that is no device, keeps every sort, and links what it adds
only to older objects of the same sort. -/
structure Adds (w w' : World) : Prop where
  size_le : w.nodes.size ≤ w'.nodes.size
  sorts : ∀ r x, w.bodyAt r = some x → w'.sortAt r = some x.variant
  keeps : w.KeepsObjects w'
  fresh : ∀ r p, w.nodes.size ≤ r → w'.parentAt r = some p → p < r ∧ w'.sortAt p = w'.sortAt r

namespace Adds

variable {w w' w'' : World}

attribute [grind →] size_le

@[grind ←] theorem refl (w : World) : w.Adds w where
  size_le := Nat.le_refl _
  sorts _ _ h := by simp [sortAt, h]
  keeps := KeepsObjects.refl w
  fresh r p hr h := by
    simp [parentAt, bodyAt, Array.getElem?_eq_none hr] at h

theorem body_at (h : w.Adds w') {r : Ref} {x : Body} (hx : w.bodyAt r = some x)
    (hv : x.variant ≠ .device) : w'.bodyAt r = some x :=
  h.keeps r x hx hv

@[grind →] theorem tensor_at (h : w.Adds w') {r : Ref} {t : Tensor}
    (ht : w.bodyAt r = some (.tensor t)) : w'.bodyAt r = some (.tensor t) :=
  h.body_at ht (by simp)

@[grind →] theorem frame_at (h : w.Adds w') {r : Ref} {f : Frame}
    (hf : w.bodyAt r = some (.frame f)) : w'.bodyAt r = some (.frame f) :=
  h.body_at hf (by simp)

@[grind →] theorem mapper_at (h : w.Adds w') {r : Ref} {m : Mapper}
    (hm : w.bodyAt r = some (.mapper m)) : w'.bodyAt r = some (.mapper m) :=
  h.body_at hm (by simp)

theorem sort_at (h : w.Adds w') {r : Ref} {v : Body.Variant} (hv : w.sortAt r = some v) :
    w'.sortAt r = some v := by
  obtain ⟨x, hx, rfl⟩ := Option.map_eq_some_iff.1 hv
  exact h.sorts r x hx

@[grind →] theorem trans (h₁ : w.Adds w') (h₂ : w'.Adds w'') : w.Adds w'' where
  size_le := h₁.size_le.trans h₂.size_le
  sorts r x hx := h₂.sort_at (h₁.sorts r x hx)
  keeps := h₁.keeps.trans h₂.keeps
  fresh r p hr hp := by
    by_cases hr' : w'.nodes.size ≤ r
    · exact h₂.fresh r p hr' hp
    -- `r` was added by the first step: it is no device, so the second step kept it, and its
    -- parent, older and of the same sort, with it
    obtain ⟨y, hy⟩ : ∃ y, w'.bodyAt r = some y :=
      Option.isSome_iff_exists.1 (bodyAt_isSome.2 (by omega))
    have hdev : y.variant ≠ .device := by
      intro hv
      obtain ⟨z, hz, hzv⟩ : ∃ z, w''.bodyAt r = some z ∧ z.variant = .device := by
        simpa [sortAt, hv] using h₂.sorts r y hy
      -- a device links to nothing
      cases z <;> simp_all [parentAt, Body.variant, Body.parent]
    have hy₂ := h₂.body_at hy hdev
    have hp₁ : w'.parentAt r = some p := by simpa [parentAt, hy, hy₂] using hp
    obtain ⟨hlt, hsort⟩ := h₁.fresh r p hr hp₁
    obtain ⟨z, hz, hzy⟩ : ∃ z, w'.bodyAt p = some z ∧ z.variant = y.variant := by
      simpa [sortAt, hy] using hsort
    have hz₂ := h₂.body_at hz (hzy ▸ hdev)
    exact ⟨hlt, by simp [sortAt, hz₂, hy₂, hzy]⟩

theorem of_sameObjects (h : w.SameObjects w') : w.Adds w' where
  size_le := h.1.ge
  sorts r x hx := by
    by_cases hv : x.variant = .device
    · obtain ⟨y, hy⟩ : ∃ y, w'.bodyAt r = some y :=
        Option.isSome_iff_exists.1 (bodyAt_isSome.2 (h.1 ▸ lt_size_of_bodyAt hx))
      by_cases hy' : y.variant = .device
      · simp [sortAt, hy, hy', hv]
      · have := (h.2 r y hy').1 hy
        simp_all
    · simp [sortAt, (h.2 r x hv).2 hx]
  keeps r x hx hv := (h.2 r x hv).2 hx
  fresh r p hr hp := by
    simp [parentAt, bodyAt, Array.getElem?_eq_none (h.1 ▸ hr : w'.nodes.size ≤ r)] at hp

theorem setStrong {r : Ref} {n : Node} (hn : w.nodes[r]? = some n) (k : Nat) :
    w.Adds (w.setStrong r n k) :=
  of_sameObjects (SameObjects.setStrong hn k)

theorem of_nodes_eq (h : w'.nodes = w.nodes) : w.Adds w' :=
  of_sameObjects ⟨by simp [h], fun r x _ => by simp [bodyAt, h]⟩

theorem setDevice {r : Ref} {d d' : Device} (hd : w.bodyAt r = some (.device d)) :
    w.Adds (w.setBody r (.device d')) := by
  refine of_sameObjects ⟨by simp, fun r' x hx => ?_⟩
  rw [bodyAt_setBody]
  split
  · next e =>
    obtain ⟨rfl, -⟩ := e
    rw [hd]
    constructor <;> (intro e; cases e; simp_all)
  · exact Iff.rfl

theorem push {n : Node} (hp : ∀ p, n.body.parent = some p → w.sortAt p = some n.body.variant) :
    w.Adds (w.push n) where
  size_le := by simp
  sorts r x hx := by
    rw [sortAt, bodyAt_push, if_neg (Nat.ne_of_lt (lt_size_of_bodyAt hx)), hx]
    rfl
  keeps r x hx _ := by rw [bodyAt_push, if_neg (Nat.ne_of_lt (lt_size_of_bodyAt hx)), hx]
  fresh r p hr h := by
    have hr' : r = w.nodes.size := by
      by_contra hne
      have hnone : (w.push n).bodyAt r = none := by
        rw [bodyAt_push, if_neg hne]
        simp [bodyAt, Array.getElem?_eq_none hr]
      simp [parentAt, hnone] at h
    subst hr'
    have hp' : n.body.parent = some p := by simpa [parentAt] using h
    obtain ⟨y, hy, hyv⟩ := Option.map_eq_some_iff.1 (hp p hp')
    have hlt := lt_size_of_bodyAt hy
    refine ⟨hlt, ?_⟩
    simp [sortAt, bodyAt_push, Nat.ne_of_lt hlt, hy, hyv]

theorem setFrameParent (h : w.Adds w') {g p : Ref} {f : Frame}
    (hg : w.nodes.size ≤ g) (hf : w'.bodyAt g = some (.frame f))
    (hp : w'.sortAt p = some .frame) (hlt : p < g) :
    w.Adds (w'.setBody g (.frame { f with parent := some p })) := by
  have hgs := lt_size_of_bodyAt hf
  have hat : ∀ r, r ≠ g → (w'.setBody g (.frame { f with parent := some p })).bodyAt r =
      w'.bodyAt r := fun r hr => by simp [bodyAt_setBody, hr]
  refine ⟨by simpa using h.size_le, fun r x hx => ?_, fun r x hx hv => ?_, fun r q hr hq => ?_⟩
  · have hne : r ≠ g := Nat.ne_of_lt (Nat.lt_of_lt_of_le (lt_size_of_bodyAt hx) hg)
    simpa [sortAt, hat r hne] using h.sorts r x hx
  · have hne : r ≠ g := Nat.ne_of_lt (Nat.lt_of_lt_of_le (lt_size_of_bodyAt hx) hg)
    rw [hat r hne]
    exact h.keeps r x hx hv
  · have hsort : ∀ r, (w'.setBody g (.frame { f with parent := some p })).sortAt r =
        w'.sortAt r := fun r => by
      by_cases hr : r = g
      · subst hr; simp [sortAt, bodyAt_setBody, hgs, hf]
      · simp [sortAt, hat r hr]
    rw [hsort, hsort]
    by_cases hrg : r = g
    · subst hrg
      have : q = p := by simpa [parentAt, bodyAt_setBody, hgs] using hq.symm
      subst this
      exact ⟨hlt, by rw [hp]; simp [hf]⟩
    · exact h.fresh r q hr (by simpa [parentAt, hat r hrg] using hq)

/-! Each way the node array changes, after a world that only adds. -/

theorem trans_setFrameParent {w₀ : World} {g p : Ref} {n : Node} {f : Frame}
    (h : w₀.Adds w) (hg : w₀.nodes.size ≤ g) (hf : w.bodyAt g = some (.frame f))
    (hp : w.sortAt p = some .frame) (hlt : p < g) (hn : w.nodes[p]? = some n) :
    w₀.Adds ((w.setStrong p n (n.strong + 1)).setBody g (.frame { f with parent := some p })) :=
  (h.trans (setStrong hn _)).setFrameParent hg (by rwa [bodyAt_setStrong hn])
    (by simpa [bodyAt_setStrong hn] using hp) hlt

@[grind ←] theorem trans_setStrong {w₀ : World} {r : Nat} {n : Node} {k : Nat} (h : w₀.Adds w)
    (hn : w.nodes[r]? = some n) : w₀.Adds (w.setStrong r n k) :=
  h.trans (setStrong hn k)

@[grind ←] theorem trans_setDevice {w₀ : World} {r : Nat} {d' : Device} (h : w₀.Adds w)
    (hd : (w.bodyAt r).map Body.variant = some .device) :
    w₀.Adds (w.setBody r (.device d')) := by
  obtain ⟨x, hx, hv⟩ := Option.map_eq_some_iff.1 hd
  cases x <;> simp [Body.variant] at hv
  exact h.trans (setDevice hx)

@[grind ←] theorem trans_push {w₀ : World} {n : Node} (h : w₀.Adds w)
    (hp : ∀ p, n.body.parent = some p → w.sortAt p = some n.body.variant) :
    w₀.Adds (w.push n) :=
  h.trans (push hp)

@[grind ←] theorem mk_nodes {w₀ : World} {a : Array (Option HostPool)} {hp : Heap} {d c : Nat}
    {t : Int} (h : w₀.Adds w) : w₀.Adds ⟨w.nodes, a, hp, d, c, t⟩ :=
  h.trans (of_nodes_eq rfl)

@[grind →] theorem of_mk {w₁ : World} {a : Array (Option HostPool)} {hp : Heap} {d c : Nat}
    {t : Int} (h : (⟨w.nodes, a, hp, d, c, t⟩ : World).Adds w₁) : w.Adds w₁ :=
  (of_nodes_eq rfl : w.Adds ⟨w.nodes, a, hp, d, c, t⟩).trans h

@[grind →] theorem trans_same {w₀ : World} (h : w₀.Adds w) (hs : w.SameObjects w') :
    w₀.Adds w' :=
  h.trans (of_sameObjects hs)

end Adds

end World

abbrev World.Added {α : Type} (w₀ : World) : PostCond α (.except Fault (.arg World .pure)) :=
  post⟨fun _ w => ⌜w₀.Adds w⌝, fun _ w => ⌜w₀.Adds w⌝⟩

/-! ## The store's own operations

As with `World.Extends`, each specification holds from any world that only adds to `w₀`;
`mvcgen` takes `w₀` to be the world the call starts in, and `Adds.trans` chains the calls. -/

namespace Act

open World

variable {w₀ : World}

theorem broken_adds {α : Type} (what : String) :
    ⦃fun w => ⌜w₀.Adds w⌝⦄ (broken what : Act α)
    ⦃post⟨fun _ _ => ⌜False⌝, fun _ w => ⌜w₀.Adds w⌝⟩⦄ := by
  mvcgen [broken, -Act.broken_spec]

theorem lift_adds {α : Type} (x : Except Fault α) :
    ⦃fun w => ⌜w₀.Adds w⌝⦄ lift x
    ⦃post⟨fun a w => ⌜w₀.Adds w ∧ x = .ok a⌝, fun _ w => ⌜w₀.Adds w⌝⟩⦄ := by
  mvcgen [lift, -Act.lift_spec]

theorem node_adds (r : Ref) :
    ⦃fun w => ⌜w₀.Adds w⌝⦄ node r
    ⦃post⟨fun n w => ⌜w₀.Adds w ∧ w.nodes[r]? = some n⌝, fun _ w => ⌜w₀.Adds w⌝⟩⦄ := by
  unfold node broken
  mvcgen [-Act.node_spec]

theorem body_adds (r : Ref) :
    ⦃fun w => ⌜w₀.Adds w⌝⦄ body r
    ⦃post⟨fun x w => ⌜w₀.Adds w ∧ w.bodyAt r = some x⌝, fun _ w => ⌜w₀.Adds w⌝⟩⦄ := by
  -- closed by hand: the nine reads of one sort below wait on this proof
  have spec1 := @node_adds
  mvcgen [body, -Act.body_spec, -Act.node_spec, spec1] <;> clear spec1
  · exact .refl _
  · next _ h₀ _ _ h => exact ⟨h₀.trans h.1, bodyAt_of_getElem? h.2⟩
  · next _ h₀ _ _ => exact h₀.trans

theorem alive_adds (r : Ref) :
    ⦃fun w => ⌜w₀.Adds w⌝⦄ alive r ⦃World.Added w₀⦄ := by
  have spec1 := @node_adds
  mvcgen [alive, -Act.alive_spec, -Act.node_spec, spec1] <;> clear spec1 <;> grind

theorem strongCount_adds (r : Ref) :
    ⦃fun w => ⌜w₀.Adds w⌝⦄ strongCount r ⦃World.Added w₀⦄ := by
  have spec1 := @node_adds
  mvcgen [strongCount, -Act.strongCount_spec, -Act.node_spec, spec1] <;> clear spec1 <;> grind

theorem retain_adds (r : Ref) :
    ⦃fun w => ⌜w₀.Adds w⌝⦄ retain r ⦃World.Added w₀⦄ := by
  have spec1 := @node_adds
  mvcgen [retain_eq, -Act.retain_spec, -Act.node_spec, spec1] <;> clear spec1 <;> grind

theorem release_adds (r : Ref) :
    ⦃fun w => ⌜w₀.Adds w⌝⦄ release r ⦃World.Added w₀⦄ := by
  mvcgen [-Act.release_spec, release_drops] <;> grind

theorem releaseAll_adds (rs : List Ref) :
    ⦃fun w => ⌜w₀.Adds w⌝⦄ releaseAll rs ⦃World.Added w₀⦄ := by
  mvcgen [-Act.releaseAll_spec, releaseAll_drops] <;> grind

theorem create_adds (x : Body) :
    ⦃fun w => ⌜w₀.Adds w ∧ ∀ p, x.parent = some p → w.sortAt p = some x.variant⌝⦄ create x
    ⦃post⟨fun r w => ⌜w₀.Adds w ∧ w.bodyAt r = some x ∧ w₀.nodes.size ≤ r⌝, fun _ _ => ⌜False⌝⟩⦄ := by
  mvcgen [create_eq, -Act.create_spec]
  grind

theorem device_adds (r : Ref) :
    ⦃fun w => ⌜w₀.Adds w⌝⦄ device r
    ⦃post⟨fun d w => ⌜w₀.Adds w ∧ w.bodyAt r = some (.device d)⌝, fun _ w => ⌜w₀.Adds w⌝⟩⦄ := by
  have spec1 := @body_adds
  have spec2 := @broken_adds
  mvcgen [device, -Act.device_spec, -Act.body_spec, spec1, -Act.broken_spec, spec2] <;>
    clear spec1 spec2 <;> grind

theorem context_adds (r : Ref) :
    ⦃fun w => ⌜w₀.Adds w⌝⦄ context r
    ⦃post⟨fun c w => ⌜w₀.Adds w ∧ w.bodyAt r = some (.context c)⌝,
      fun _ w => ⌜w₀.Adds w⌝⟩⦄ := by
  have spec1 := @body_adds
  have spec2 := @broken_adds
  mvcgen [context, -Act.context_spec, -Act.body_spec, spec1, -Act.broken_spec, spec2] <;>
    clear spec1 spec2 <;> grind

theorem mapper_adds (r : Ref) :
    ⦃fun w => ⌜w₀.Adds w⌝⦄ mapper r
    ⦃post⟨fun m w => ⌜w₀.Adds w ∧ w.bodyAt r = some (.mapper m)⌝,
      fun _ w => ⌜w₀.Adds w⌝⟩⦄ := by
  have spec1 := @body_adds
  have spec2 := @broken_adds
  mvcgen [mapper, -Act.mapper_spec, -Act.body_spec, spec1, -Act.broken_spec, spec2] <;>
    clear spec1 spec2 <;> grind

theorem tensor_adds (r : Ref) :
    ⦃fun w => ⌜w₀.Adds w⌝⦄ tensor r
    ⦃post⟨fun t w => ⌜w₀.Adds w ∧ w.bodyAt r = some (.tensor t)⌝,
      fun _ w => ⌜w₀.Adds w⌝⟩⦄ := by
  have spec1 := @body_adds
  have spec2 := @broken_adds
  mvcgen [tensor, -Act.tensor_spec, -Act.body_spec, spec1, -Act.broken_spec, spec2] <;>
    clear spec1 spec2 <;> grind

theorem frame_adds (r : Ref) :
    ⦃fun w => ⌜w₀.Adds w⌝⦄ frame r
    ⦃post⟨fun f w => ⌜w₀.Adds w ∧ w.bodyAt r = some (.frame f)⌝,
      fun _ w => ⌜w₀.Adds w⌝⟩⦄ := by
  have spec1 := @body_adds
  have spec2 := @broken_adds
  mvcgen [frame, -Act.frame_spec, -Act.body_spec, spec1, -Act.broken_spec, spec2] <;>
    clear spec1 spec2 <;> grind

theorem allocation_adds (r : Ref) :
    ⦃fun w => ⌜w₀.Adds w⌝⦄ allocation r
    ⦃post⟨fun a w => ⌜w₀.Adds w ∧ w.bodyAt r = some (.allocation a)⌝,
      fun _ w => ⌜w₀.Adds w⌝⟩⦄ := by
  have spec1 := @body_adds
  have spec2 := @broken_adds
  mvcgen [allocation, -Act.allocation_spec, -Act.body_spec, spec1, -Act.broken_spec, spec2] <;>
    clear spec1 spec2 <;> grind

theorem surface_adds (r : Ref) :
    ⦃fun w => ⌜w₀.Adds w⌝⦄ surface r
    ⦃post⟨fun s w => ⌜w₀.Adds w ∧ w.bodyAt r = some (.surface s)⌝,
      fun _ w => ⌜w₀.Adds w⌝⟩⦄ := by
  have spec1 := @body_adds
  have spec2 := @broken_adds
  mvcgen [surface, -Act.surface_spec, -Act.body_spec, spec1, -Act.broken_spec, spec2] <;>
    clear spec1 spec2 <;> grind

theorem descriptor_adds (r : Ref) :
    ⦃fun w => ⌜w₀.Adds w⌝⦄ descriptor r
    ⦃post⟨fun d w => ⌜w₀.Adds w ∧ w.bodyAt r = some (.descriptor d)⌝,
      fun _ w => ⌜w₀.Adds w⌝⟩⦄ := by
  have spec1 := @body_adds
  have spec2 := @broken_adds
  mvcgen [descriptor, -Act.descriptor_spec, -Act.body_spec, spec1, -Act.broken_spec, spec2] <;>
    clear spec1 spec2 <;> grind

theorem clBuffer_adds (r : Ref) :
    ⦃fun w => ⌜w₀.Adds w⌝⦄ clBuffer r
    ⦃post⟨fun x w => ⌜w₀.Adds w ∧ w.bodyAt r = some (.clBuffer x)⌝,
      fun _ w => ⌜w₀.Adds w⌝⟩⦄ := by
  have spec1 := @body_adds
  have spec2 := @broken_adds
  mvcgen [clBuffer, -Act.clBuffer_spec, -Act.body_spec, spec1, -Act.broken_spec, spec2] <;>
    clear spec1 spec2 <;> grind

theorem frame_reads {w₁ : World} (r : Ref) :
    ⦃fun w => ⌜w = w₁⌝⦄ frame r
    ⦃post⟨fun f w => ⌜w = w₁ ∧ w₁.bodyAt r = some (.frame f)⌝, fun _ w => ⌜w = w₁⌝⟩⦄ := by
  unfold frame body broken
  mvcgen [-Act.node_spec, node_reads] <;> simp_all [bodyAt_of_getElem?]

theorem modifyFrame_sets {w₁ : World} (r : Ref) (fn : Frame → Frame) :
    ⦃fun w => ⌜w = w₁⌝⦄ modifyFrame r fn
    ⦃post⟨fun _ w => ⌜∃ x, w₁.bodyAt r = some (.frame x) ∧ w = w₁.setBody r (.frame (fn x))⌝,
      fun _ w => ⌜w = w₁⌝⟩⦄ := by
  have spec1 := @frame_reads
  mvcgen [modifyFrame, setBody_eq, -Act.modifyFrame_spec, -Act.frame_spec, spec1] <;>
    clear spec1 <;> grind

theorem modifyDevice_adds (r : Ref) (f : Device → Device) :
    ⦃fun w => ⌜w₀.Adds w⌝⦄ modifyDevice r f ⦃World.Added w₀⦄ := by
  have spec1 := @device_adds
  mvcgen [modifyDevice, setBody_eq, -Act.modifyDevice_spec, -Act.device_spec, spec1] <;>
    clear spec1 <;> grind

theorem allocator_adds (a : Nat) :
    ⦃fun w => ⌜w₀.Adds w⌝⦄ allocator a ⦃World.Added w₀⦄ := by
  have spec1 := @broken_adds
  mvcgen [allocator, -Act.allocator_spec, -Act.broken_spec, spec1] <;> clear spec1 <;> grind

theorem hostAlloc_adds (a size : Nat) :
    ⦃fun w => ⌜w₀.Adds w⌝⦄ hostAlloc a size ⦃World.Added w₀⦄ := by
  have spec1 := @allocator_adds
  mvcgen [hostAlloc, -Act.hostAlloc_spec, -Act.allocator_spec, spec1] <;> clear spec1 <;> grind

theorem readHost_adds (start : Addr) (len : Nat) :
    ⦃fun w => ⌜w₀.Adds w⌝⦄ readHost start len ⦃World.Added w₀⦄ := by
  mvcgen [readHost, -Act.readHost_spec]

theorem owning_adds {α : Type} (r : Ref) (x : Act α)
    (hx : ∀ w₀ : World, ⦃fun w => ⌜w₀.Adds w⌝⦄ x ⦃World.Added w₀⦄) :
    ⦃fun w => ⌜w₀.Adds w⌝⦄ owning r x ⦃World.Added w₀⦄ := by
  have spec1 := @release_adds
  mvcgen [owning, hx, -Act.release_spec, spec1] <;> clear spec1 <;> grind

theorem writeHost_adds (start : Addr) (bytes : ByteArray) :
    ⦃fun w => ⌜w₀.Adds w⌝⦄ writeHost start bytes ⦃World.Added w₀⦄ := by
  mvcgen [writeHost, -Act.writeHost_spec]
  grind

end Act

end MemBridge
