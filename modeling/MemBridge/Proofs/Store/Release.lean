import MemBridge.Proofs.Store.Extends

/-!
Releasing keeps the world extending.

A release only lowers counts, changes the counts and tables of devices, and gives host memory
back: no object changes its sort, no mapper changes, nothing is added. The cascade `drain` is
handled by induction on its fuel, one task at a time; `runTasks`, `release` and `releaseAll`
follow, and `collect` keeps the world extending whatever its steps make, as long as each step
does.

Releasing also keeps every object that is no device exactly as it was
(`World.KeepsObjects`), which is how a tensor whose parent was just cleared stays without one
while the old parent goes.
-/

namespace MemBridge

open Std.Do

set_option mvcgen.warning false

-- A lemma of this module reaches `mvcgen` through a `have` (`specN`): named in the list, it would
-- make the proof wait until that lemma's own proof is checked. Where `grind` or `simp_all`
-- follows, the binding is cleared first, so that they do not take it up as a hypothesis.

namespace Act

variable {w₀ : World}

theorem drain_release (r : Ref) (rest : List Task) (fuel : Nat) :
    drain (.release r :: rest) (fuel + 1) = (do
      let n ← node r
      if n.strong > 1 then
        modify (·.setStrong r n (n.strong - 1))
        drain rest fuel
      else if n.strong = 0 then drain rest fuel
      else
        modify (·.setStrong r n 0)
        let first ← dropSelf n.body
        drain (first ++ n.body.tasks ++ rest) fuel) := rfl

@[spec 100] theorem freeBuffer_spec (b : Buffer) :
    ⦃fun w => ⌜w₀.Extends 0 w⌝⦄ freeBuffer b ⦃World.Grown w₀⦄ := by
  mvcgen [freeBuffer]
  grind

@[spec 100] theorem closeAllocator_spec (a : Nat) :
    ⦃fun w => ⌜w₀.Extends 0 w⌝⦄ closeAllocator a ⦃World.Grown w₀⦄ := by
  mvcgen [closeAllocator]
  grind

@[spec 100] theorem dropSelf_spec (x : Body) :
    ⦃fun w => ⌜w₀.Extends 0 w⌝⦄ dropSelf x ⦃World.Grown w₀⦄ := by
  mvcgen [dropSelf] <;> grind

@[spec 100] theorem drain_spec (ts : List Task) (fuel : Nat) :
    ⦃fun w => ⌜w₀.Extends 0 w⌝⦄ drain ts fuel ⦃World.Grown w₀⦄ := by
  -- the cascade pushes the tasks of a dropped object in front of the rest, so the induction
  -- is on the fuel, for every list of tasks
  induction fuel generalizing ts w₀ with
  | zero => cases ts <;> mvcgen [drain]
  | succ fuel ih =>
    match ts with
    | [] => mvcgen [drain]
    | .free b :: rest => mvcgen [drain, ih] <;> grind
    | .close a :: rest => mvcgen [drain, ih] <;> grind
    | .release r :: rest => mvcgen [drain_release, ih] <;> grind

@[spec 100] theorem runTasks_spec (ts : List Task) :
    ⦃fun w => ⌜w₀.Extends 0 w⌝⦄ runTasks ts ⦃World.Grown w₀⦄ := by
  mvcgen [runTasks]

@[spec 100] theorem release_spec (r : Ref) :
    ⦃fun w => ⌜w₀.Extends 0 w⌝⦄ release r ⦃World.Grown w₀⦄ := by
  mvcgen [release]

@[spec 100] theorem releaseAll_spec (rs : List Ref) :
    ⦃fun w => ⌜w₀.Extends 0 w⌝⦄ releaseAll rs ⦃World.Grown w₀⦄ := by
  mvcgen [releaseAll]

theorem owning_spec {α : Type} (r : Ref) (x : Act α)
    (hx : ∀ w₀ : World, ⦃fun w => ⌜w₀.Extends 0 w⌝⦄ x ⦃World.Grown w₀⦄) :
    ⦃fun w => ⌜w₀.Extends 0 w⌝⦄ owning r x ⦃World.Grown w₀⦄ := by
  mvcgen [owning, hx] <;> grind

@[spec] theorem collect_spec {α : Type} (items : List α) (step : α → Act Ref)
    (hstep : ∀ x (w₀ : World), ⦃fun w => ⌜w₀.Extends 0 w⌝⦄ step x ⦃World.Grown w₀⦄) :
    ⦃fun w => ⌜w₀.Extends 0 w⌝⦄ collect items step ⦃World.Grown w₀⦄ := by
  mvcgen [collect, hstep]
  case inv1 => exact post⟨fun _ w => ⌜w₀.Extends 0 w⌝, fun _ w => ⌜w₀.Extends 0 w⌝⟩
  all_goals grind

end Act

def World.KeepsObjects (w w' : World) : Prop :=
  ∀ r x, w.bodyAt r = some x → x.variant ≠ .device → w'.bodyAt r = some x

namespace World.KeepsObjects

variable {w w' w'' : World}

@[grind ←] theorem refl (w : World) : w.KeepsObjects w := fun _ _ h _ => h

@[grind →] theorem trans (h₁ : w.KeepsObjects w') (h₂ : w'.KeepsObjects w'') :
    w.KeepsObjects w'' :=
  fun r x hx hv => h₂ r x (h₁ r x hx hv) hv

@[grind ←] theorem trans_setStrong {r : Nat} {n : Node} {k : Nat} (h : w.KeepsObjects w')
    (hn : w'.nodes[r]? = some n) : w.KeepsObjects (w'.setStrong r n k) :=
  fun r' x hx hv => by rw [bodyAt_setStrong hn]; exact h r' x hx hv

@[grind →] theorem of_setStrong {r : Nat} {n : Node} {k : Nat} (hn : w.nodes[r]? = some n)
    (h : (w.setStrong r n k).KeepsObjects w') : w.KeepsObjects w' :=
  fun r' x hx hv => h r' x (by rw [bodyAt_setStrong hn]; exact hx) hv

@[grind ←] theorem mk_nodes {a : Array (Option HostPool)} {hp : Heap} {d c : Nat} {t : Int}
    (h : w.KeepsObjects w') : w.KeepsObjects ⟨w'.nodes, a, hp, d, c, t⟩ :=
  fun r x hx hv => by simpa [bodyAt] using h r x hx hv

@[grind →] theorem of_mk {a : Array (Option HostPool)} {hp : Heap} {d c : Nat} {t : Int}
    (h : (⟨w.nodes, a, hp, d, c, t⟩ : World).KeepsObjects w') : w.KeepsObjects w' :=
  fun r x hx hv => h r x (by simpa [bodyAt] using hx) hv

/-- Replacing a device by a device, after a world keeping the objects. -/
@[grind ←] theorem trans_setDevice {r : Nat} {d : Device} (h : w.KeepsObjects w')
    (hd : (w'.bodyAt r).map Body.variant = some .device) :
    w.KeepsObjects (w'.setBody r (.device d)) := by
  intro r' x hx hv
  rw [bodyAt_setBody]
  split
  · next hr =>
    obtain ⟨rfl, -⟩ := hr
    simp [h r' x hx hv, hv] at hd
  · exact h r' x hx hv

end World.KeepsObjects

/-- What an operation leaves, whether it succeeds or fails: a world holding every object of
`w₀` that is no device, as it was. -/
abbrev World.Kept {α : Type} (w₀ : World) : PostCond α (.except Fault (.arg World .pure)) :=
  post⟨fun _ w => ⌜w₀.KeepsObjects w⌝, fun _ w => ⌜w₀.KeepsObjects w⌝⟩

namespace Act

variable {w₀ : World}

theorem node_keeps (r : Ref) :
    ⦃fun w => ⌜w₀.KeepsObjects w⌝⦄ node r
    ⦃post⟨fun n w => ⌜w₀.KeepsObjects w ∧ w.nodes[r]? = some n⌝,
      fun _ w => ⌜w₀.KeepsObjects w⌝⟩⦄ := by
  unfold node broken
  mvcgen

theorem device_keeps (r : Ref) :
    ⦃fun w => ⌜w₀.KeepsObjects w⌝⦄ device r
    ⦃post⟨fun d w => ⌜w₀.KeepsObjects w ∧ w.bodyAt r = some (.device d)⌝,
      fun _ w => ⌜w₀.KeepsObjects w⌝⟩⦄ := by
  unfold device body broken
  have spec1 := @node_keeps
  mvcgen [spec1] <;> clear spec1 <;> grind [World.bodyAt_of_getElem?]

theorem modifyDevice_keeps (r : Ref) (f : Device → Device) :
    ⦃fun w => ⌜w₀.KeepsObjects w⌝⦄ modifyDevice r f ⦃World.Kept w₀⦄ := by
  unfold modifyDevice
  have spec1 := @device_keeps
  mvcgen [setBody_eq, spec1] <;> clear spec1 <;> grind

theorem dropSelf_keeps (x : Body) :
    ⦃fun w => ⌜w₀.KeepsObjects w⌝⦄ dropSelf x ⦃World.Kept w₀⦄ := by
  unfold dropSelf
  have spec1 := @modifyDevice_keeps
  have spec2 := @device_keeps
  mvcgen [spec1, spec2] <;> clear spec1 spec2 <;> grind

theorem freeBuffer_keeps (b : Buffer) :
    ⦃fun w => ⌜w₀.KeepsObjects w⌝⦄ freeBuffer b ⦃World.Kept w₀⦄ := by
  unfold freeBuffer
  mvcgen

theorem closeAllocator_keeps (a : Nat) :
    ⦃fun w => ⌜w₀.KeepsObjects w⌝⦄ closeAllocator a ⦃World.Kept w₀⦄ := by
  unfold closeAllocator
  mvcgen

theorem drain_keeps (ts : List Task) (fuel : Nat) :
    ⦃fun w => ⌜w₀.KeepsObjects w⌝⦄ drain ts fuel ⦃World.Kept w₀⦄ := by
  induction fuel generalizing ts w₀ with
  | zero => cases ts <;> simp only [drain] <;> mvcgen
  | succ fuel ih =>
    match ts with
    | [] => simp only [drain]; mvcgen
    | .free b :: rest => simp only [drain]; mvcgen [ih, freeBuffer_keeps] <;> grind
    | .close a :: rest => simp only [drain]; mvcgen [ih, closeAllocator_keeps] <;> grind
    | .release r :: rest =>
      rw [drain_release]
      have spec1 := @node_keeps
      have spec2 := @dropSelf_keeps
      mvcgen [ih, spec1, spec2] <;> clear spec1 spec2 <;> grind

theorem release_keeps (r : Ref) :
    ⦃fun w => ⌜w₀.KeepsObjects w⌝⦄ release r ⦃World.Kept w₀⦄ := by
  unfold release runTasks
  have spec1 := @drain_keeps
  mvcgen [spec1]

theorem releaseAll_keeps (rs : List Ref) :
    ⦃fun w => ⌜w₀.KeepsObjects w⌝⦄ releaseAll rs ⦃World.Kept w₀⦄ := by
  unfold releaseAll runTasks
  have spec1 := @drain_keeps
  mvcgen [spec1]

theorem release_run_keeps (r : Ref) (w : World) :
    match (release r).run w with
    | .ok _ w' => w.KeepsObjects w'
    | .error _ w' => w.KeepsObjects w' := by
  have h := of_triple (@release_keeps w r) (World.KeepsObjects.refl w)
  split <;> simp_all

theorem releaseAll_run_keeps (rs : List Ref) (w : World) :
    match (releaseAll rs).run w with
    | .ok _ w' => w.KeepsObjects w'
    | .error _ w' => w.KeepsObjects w' := by
  have h := of_triple (@releaseAll_keeps w rs) (World.KeepsObjects.refl w)
  split <;> simp_all

end Act

end MemBridge
