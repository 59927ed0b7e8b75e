import MemBridge.Proofs.Lineage.Links
import MemBridge.Proofs.Tensor.Adds

/-!
Setting the parent of a tensor or a frame.

In a sound world the walk that `setParent` makes from the new parent `p` answers whether the
object `r` is `p` or one of its ancestors (`Tensor.run_inLineage_exact`): one unit of fuel more
than there are objects always suffices. So setting a parent is refused, with the given parent
released, exactly when the link would close a loop (`Tensor.run_setParent_refused`), and
otherwise installs the link and releases the old parent (`Tensor.run_setParent_installed`).
Either way the lineage stays sound (`Tensor.setParent_sound`). Frames are set the same way.
-/

namespace MemBridge

open Std.Do Relation

set_option mvcgen.warning false

-- A lemma of this module reaches `mvcgen` through a `have` (`specN`): named in the list, it would
-- make the proof wait until that lemma's own proof is checked. Where `grind` or `simp_all`
-- follows, the binding is cleared first, so that they do not take it up as a hypothesis.

abbrev World.SoundLineage {α : Type} : PostCond α (.except Fault (.arg World .pure)) :=
  post⟨fun _ w => ⌜w.LineageSound⌝, fun _ w => ⌜w.LineageSound⌝⟩

namespace Act

open World

variable {w₁ : World}

theorem sound_of_added {α : Type} {x : Act α}
    (hx : ∀ w₀ : World, ⦃fun w => ⌜w₀.Adds w⌝⦄ x ⦃World.Added w₀⦄) :
    ⦃fun w => ⌜w.LineageSound⌝⦄ x ⦃World.SoundLineage⦄ := by
  apply triple_of_run
  intro w h
  have ha := of_triple (hx w) (Adds.refl w)
  split <;> rename_i heq <;> rw [heq] at ha <;> exact h.of_keepsLinks (.of_adds ha)

theorem release_sound (r : Ref) :
    ⦃fun w => ⌜w.LineageSound⌝⦄ release r ⦃World.SoundLineage⦄ :=
  sound_of_added fun _ => release_adds r

theorem releaseAll_sound (rs : List Ref) :
    ⦃fun w => ⌜w.LineageSound⌝⦄ releaseAll rs ⦃World.SoundLineage⦄ :=
  sound_of_added fun _ => releaseAll_adds rs

theorem tensor_reads (r : Ref) :
    ⦃fun w => ⌜w = w₁⌝⦄ tensor r
    ⦃post⟨fun t w => ⌜w = w₁ ∧ w₁.bodyAt r = some (.tensor t)⌝, fun _ w => ⌜w = w₁⌝⟩⦄ := by
  unfold tensor body broken
  mvcgen [-Act.node_spec, node_reads] <;> simp_all [bodyAt_of_getElem?]

theorem modifyTensor_sets (r : Ref) (fn : Tensor → Tensor) :
    ⦃fun w => ⌜w = w₁⌝⦄ modifyTensor r fn
    ⦃post⟨fun _ w => ⌜∃ t, w₁.bodyAt r = some (.tensor t) ∧ w = w₁.setBody r (.tensor (fn t))⌝,
      fun _ w => ⌜w = w₁⌝⟩⦄ := by
  have spec1 := @tensor_reads
  mvcgen [modifyTensor, setBody_eq, -Act.modifyTensor_spec, -Act.tensor_spec, spec1] <;>
    clear spec1 <;> grind

theorem walk_triple {walk : Ref → Nat → Act Bool} {v : Body.Variant} {r c : Ref}
    (hanswers : ⦃fun w => ⌜w = w₁⌝⦄ walk c (w₁.nodes.size + 1)
      ⦃post⟨fun _ w => ⌜w = w₁ ∧ (w₁.nodes.size + 1 = 0 ∨ c = r ∨ w₁.sortAt c = some v)⌝,
        fun _ w => ⌜w = w₁⌝⟩⦄)
    (hself : (walk r (w₁.nodes.size + 1)).run w₁ = .ok true w₁)
    (hexact : w₁.LineageSound → w₁.sortAt c = some v →
      ∃ b, (walk c (w₁.nodes.size + 1)).run w₁ = .ok b w₁ ∧
        (b = true ↔ ReflTransGen w₁.LinksTo c r)) :
    ⦃fun w => ⌜w = w₁ ∧ w₁.LineageSound⌝⦄ walk c (w₁.nodes.size + 1)
    ⦃post⟨fun b w => ⌜w = w₁ ∧ (b = true ↔ ReflTransGen w₁.LinksTo c r) ∧
        (c = r ∨ w₁.sortAt c = some v)⌝,
      fun _ w => ⌜w = w₁⌝⟩⦄ := by
  apply triple_of_run
  rintro w ⟨rfl, h⟩
  have hreads := of_triple hanswers rfl
  split
  · next b w' hrun =>
    rw [hrun] at hreads
    obtain ⟨rfl, hsort⟩ := hreads
    have hsort : c = r ∨ w'.sortAt c = some v := hsort.resolve_left (by omega)
    refine ⟨rfl, ?_, hsort⟩
    rcases hsort with rfl | hc
    · rw [hself] at hrun
      cases hrun
      simp [ReflTransGen.refl]
    · obtain ⟨b', hrun', hb'⟩ := hexact h hc
      rw [hrun'] at hrun
      cases hrun
      exact hb'
  · next e w' hrun =>
    rw [hrun] at hreads
    exact hreads

end Act

theorem World.exists_tensor_of_sortAt {w : World} {c : Ref} (h : w.sortAt c = some .tensor) :
    ∃ t, w.bodyAt c = some (.tensor t) := by
  obtain ⟨x, hx, hv⟩ := Option.map_eq_some_iff.1 h
  cases x <;> simp_all [Body.variant]

theorem World.exists_frame_of_sortAt {w : World} {c : Ref} (h : w.sortAt c = some .frame) :
    ∃ f, w.bodyAt c = some (.frame f) := by
  obtain ⟨x, hx, hv⟩ := Option.map_eq_some_iff.1 h
  cases x <;> simp_all [Body.variant]

namespace Tensor

open Act World

variable {w w₁ : World} {r c p : Ref} {t : Tensor}

theorem run_inLineage_self (fuel : Nat) : (inLineage r r (fuel + 1)).run w = .ok true w := by
  simp [inLineage]

theorem run_inLineage_of_none (hcr : c ≠ r) (ht : w.bodyAt c = some (.tensor t))
    (hp : t.parent = none) (fuel : Nat) : (inLineage r c (fuel + 1)).run w = .ok false w := by
  simp [inLineage, hcr, EStateM.run_bind, run_tensor ht, hp]

theorem run_inLineage_of_some (hcr : c ≠ r) (ht : w.bodyAt c = some (.tensor t))
    (hp : t.parent = some p) (fuel : Nat) :
    (inLineage r c (fuel + 1)).run w = (inLineage r p fuel).run w := by
  simp [inLineage, hcr, EStateM.run_bind, run_tensor ht, hp]

theorem inLineage_answers (r c : Ref) (fuel : Nat) :
    ⦃fun w => ⌜w = w₁⌝⦄ inLineage r c fuel
    ⦃post⟨fun _ w => ⌜w = w₁ ∧ (fuel = 0 ∨ c = r ∨ w₁.sortAt c = some .tensor)⌝,
      fun _ w => ⌜w = w₁⌝⟩⦄ := by
  induction fuel generalizing c with
  | zero =>
    mvcgen [inLineage, -inLineage_spec]
    grind
  | succ fuel ih =>
    have spec1 := @tensor_reads
    mvcgen [inLineage, -inLineage_spec, ih, -Act.tensor_spec, spec1] <;> clear spec1 <;> grind

theorem run_inLineage_exact (h : w.LineageSound) (hc : w.sortAt c = some .tensor) :
    ∃ b, (inLineage r c (w.nodes.size + 1)).run w = .ok b w ∧
      (b = true ↔ ReflTransGen w.LinksTo c r) := by
  refine h.walk_exact (fun c fuel => inLineage r c fuel) run_inLineage_self
    (fun c fuel hcr hc hp => ?_) (fun c p fuel hcr hc hp => ?_) hc
  · obtain ⟨t, ht⟩ := exists_tensor_of_sortAt hc
    exact run_inLineage_of_none hcr ht (by simpa [parentAt, ht] using hp) fuel
  · obtain ⟨t, ht⟩ := exists_tensor_of_sortAt hc
    exact run_inLineage_of_some hcr ht (by simpa [LinksTo, parentAt, ht] using hp) fuel

theorem inLineage_exact (r c : Ref) :
    ⦃fun w => ⌜w = w₁ ∧ w₁.LineageSound⌝⦄ inLineage r c (w₁.nodes.size + 1)
    ⦃post⟨fun b w => ⌜w = w₁ ∧ (b = true ↔ ReflTransGen w₁.LinksTo c r) ∧
        (c = r ∨ w₁.sortAt c = some .tensor)⌝,
      fun _ w => ⌜w = w₁⌝⟩⦄ :=
  walk_triple (inLineage_answers r c _) (run_inLineage_self _) run_inLineage_exact

theorem run_setParent_refused (h : w.LineageSound) (hp : w.sortAt p = some .tensor)
    (hreach : ReflTransGen w.LinksTo p r) :
    (setParent r (some p)).run w =
      (do release p; throw (.invalidArgument "tensor parent link would form a cycle") :
        Act Unit).run w := by
  obtain ⟨b, hrun, hb⟩ := run_inLineage_exact (r := r) h hp
  obtain rfl : b = true := hb.2 hreach
  simp only [setParent, EStateM.run_bind, EStateM.run_get, hrun, if_true]
  split <;> rfl

theorem run_setParent_installed (h : w.LineageSound) (ht : w.bodyAt r = some (.tensor t))
    (hp : w.sortAt p = some .tensor) (hfree : ¬ ReflTransGen w.LinksTo p r) :
    (setParent r (some p)).run w =
      (releaseAll t.parent.toList).run (w.setBody r (.tensor { t with parent := some p })) := by
  obtain ⟨b, hrun, hb⟩ := run_inLineage_exact (r := r) h hp
  obtain rfl : b = false := by simpa [hfree] using hb
  simp only [setParent, EStateM.run_bind, EStateM.run_get, hrun, Bool.false_eq_true, if_false,
    run_tensor ht, run_modifyTensor ht]
  cases t.parent <;> simp [releaseAll, runTasks, drain, release]

theorem modifyTensor_parent_sound (r : Ref) (parent : Option Ref) :
    ⦃fun w => ⌜w.LineageSound ∧
      ∀ q, parent = some q → w.sortAt q = some .tensor ∧ ¬ ReflTransGen w.LinksTo q r⌝⦄
    modifyTensor r (fun t => { t with parent }) ⦃World.SoundLineage⦄ := by
  apply triple_of_run
  rintro w ⟨h, hp⟩
  have hset := of_triple (@modifyTensor_sets w r (fun t => { t with parent })) rfl
  split <;> rename_i heq <;> rw [heq] at hset
  · obtain ⟨t, ht, rfl⟩ := hset
    exact h.setBody_parent ht rfl hp
  · exact hset ▸ h

theorem setParent_sound (r : Ref) (parent : Option Ref) :
    ⦃fun w => ⌜w.LineageSound⌝⦄ setParent r parent ⦃World.SoundLineage⦄ := by
  have spec1 := @inLineage_exact
  have spec2 := @release_sound
  have spec3 := @tensor_reads
  have spec4 := @modifyTensor_parent_sound
  mvcgen [setParent, -setParent_spec, -inLineage_spec, spec1, -Act.release_spec,
    spec2, -Act.tensor_spec, spec3, -Act.modifyTensor_spec,
    spec4] <;> clear spec1 spec2 spec3 spec4
  -- the walk said no: the new parent is a tensor that does not reach `r`
  all_goals grind

end Tensor

namespace Frame

open Act World

variable {w w₁ : World} {r c p : Ref} {f : Frame}

theorem run_inLineage_self (fuel : Nat) : (inLineage r r (fuel + 1)).run w = .ok true w := by
  simp [inLineage]

theorem run_inLineage_of_none (hcr : c ≠ r) (hf : w.bodyAt c = some (.frame f))
    (hp : f.parent = none) (fuel : Nat) : (inLineage r c (fuel + 1)).run w = .ok false w := by
  simp [inLineage, hcr, EStateM.run_bind, run_frame hf, hp]

theorem run_inLineage_of_some (hcr : c ≠ r) (hf : w.bodyAt c = some (.frame f))
    (hp : f.parent = some p) (fuel : Nat) :
    (inLineage r c (fuel + 1)).run w = (inLineage r p fuel).run w := by
  simp [inLineage, hcr, EStateM.run_bind, run_frame hf, hp]

theorem inLineage_answers (r c : Ref) (fuel : Nat) :
    ⦃fun w => ⌜w = w₁⌝⦄ inLineage r c fuel
    ⦃post⟨fun _ w => ⌜w = w₁ ∧ (fuel = 0 ∨ c = r ∨ w₁.sortAt c = some .frame)⌝,
      fun _ w => ⌜w = w₁⌝⟩⦄ := by
  induction fuel generalizing c with
  | zero =>
    mvcgen [inLineage, -inLineage_spec]
    grind
  | succ fuel ih =>
    mvcgen [inLineage, -inLineage_spec, ih, -Act.frame_spec, frame_reads] <;> grind

theorem run_inLineage_exact (h : w.LineageSound) (hc : w.sortAt c = some .frame) :
    ∃ b, (inLineage r c (w.nodes.size + 1)).run w = .ok b w ∧
      (b = true ↔ ReflTransGen w.LinksTo c r) := by
  refine h.walk_exact (fun c fuel => inLineage r c fuel) run_inLineage_self
    (fun c fuel hcr hc hp => ?_) (fun c p fuel hcr hc hp => ?_) hc
  · obtain ⟨f, hf⟩ := exists_frame_of_sortAt hc
    exact run_inLineage_of_none hcr hf (by simpa [parentAt, hf] using hp) fuel
  · obtain ⟨f, hf⟩ := exists_frame_of_sortAt hc
    exact run_inLineage_of_some hcr hf (by simpa [LinksTo, parentAt, hf] using hp) fuel

theorem inLineage_exact (r c : Ref) :
    ⦃fun w => ⌜w = w₁ ∧ w₁.LineageSound⌝⦄ inLineage r c (w₁.nodes.size + 1)
    ⦃post⟨fun b w => ⌜w = w₁ ∧ (b = true ↔ ReflTransGen w₁.LinksTo c r) ∧
        (c = r ∨ w₁.sortAt c = some .frame)⌝,
      fun _ w => ⌜w = w₁⌝⟩⦄ :=
  walk_triple (inLineage_answers r c _) (run_inLineage_self _) run_inLineage_exact

theorem run_setParent_refused (h : w.LineageSound) (hp : w.sortAt p = some .frame)
    (hreach : ReflTransGen w.LinksTo p r) :
    (setParent r (some p)).run w =
      (do release p; throw (.invalidArgument "frame parent link would form a cycle") :
        Act Unit).run w := by
  obtain ⟨b, hrun, hb⟩ := run_inLineage_exact (r := r) h hp
  obtain rfl : b = true := hb.2 hreach
  simp only [setParent, EStateM.run_bind, EStateM.run_get, hrun, if_true]
  split <;> rfl

theorem run_setParent_installed (h : w.LineageSound) (hf : w.bodyAt r = some (.frame f))
    (hp : w.sortAt p = some .frame) (hfree : ¬ ReflTransGen w.LinksTo p r) :
    (setParent r (some p)).run w =
      (releaseAll f.parent.toList).run (w.setBody r (.frame { f with parent := some p })) := by
  obtain ⟨b, hrun, hb⟩ := run_inLineage_exact (r := r) h hp
  obtain rfl : b = false := by simpa [hfree] using hb
  simp only [setParent, EStateM.run_bind, EStateM.run_get, hrun, Bool.false_eq_true, if_false,
    run_frame hf, run_modifyFrame hf]
  cases f.parent <;> simp [releaseAll, runTasks, drain, release]

theorem modifyFrame_parent_sound (r : Ref) (parent : Option Ref) :
    ⦃fun w => ⌜w.LineageSound ∧
      ∀ q, parent = some q → w.sortAt q = some .frame ∧ ¬ ReflTransGen w.LinksTo q r⌝⦄
    modifyFrame r (fun f => { f with parent }) ⦃World.SoundLineage⦄ := by
  apply triple_of_run
  rintro w ⟨h, hp⟩
  have hset := of_triple (@modifyFrame_sets w r (fun f => { f with parent })) rfl
  split <;> rename_i heq <;> rw [heq] at hset
  · obtain ⟨f, hf, rfl⟩ := hset
    exact h.setBody_parent hf rfl hp
  · exact hset ▸ h

theorem setParent_sound (r : Ref) (parent : Option Ref) :
    ⦃fun w => ⌜w.LineageSound⌝⦄ setParent r parent ⦃World.SoundLineage⦄ := by
  have spec1 := @inLineage_exact
  have spec2 := @release_sound
  have spec3 := @modifyFrame_parent_sound
  mvcgen [setParent, -setParent_spec, -inLineage_spec, spec1, -Act.release_spec,
    spec2, -Act.frame_spec, frame_reads, -Act.modifyFrame_spec,
    spec3] <;> clear spec1 spec2 spec3
  -- the walk said no: the new parent is a frame that does not reach `r`
  all_goals grind

end Frame

end MemBridge
