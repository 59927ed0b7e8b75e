import MemBridge.Proofs.Lineage.Operations
import MemBridge.Proofs.Mapper.Routes

/-!
Mapping keeps the lineage sound.

A direct mapper only adds what it maps, linked to its source (`Mapper.routeTensor_maps`); the
identity and a chain take and let go of references. A cache changes its own slots and counters,
which link to nothing, and cuts the destination it hands out from its parent, for a frame also
each of its tensors; cutting a link never closes a loop. So mapping a tensor or a frame with any
mapper, evicting from a cache and clearing one leave a sound lineage, whether they succeed or
fail (`Mapper.mapTensor_sound`, `Mapper.mapFrame_sound`).
-/

namespace MemBridge

open Std.Do

set_option mvcgen.warning false

-- A lemma of this module reaches `mvcgen` through a `have` (`specN`): named in the list, it would
-- make the proof wait until that lemma's own proof is checked. Where `grind` or `simp_all`
-- follows, the binding is cleared first, so that they do not take it up as a hypothesis.

namespace Mapper

open Act World

variable {w₀ : World}

theorem cacheOf_adds (m : Ref) :
    ⦃fun w => ⌜w₀.Adds w⌝⦄ cacheOf m
    ⦃post⟨fun c w => ⌜w₀.Adds w ∧ w.bodyAt m = some (.mapper (.cache c))⌝,
      fun _ w => ⌜w₀.Adds w⌝⟩⦄ := by
  mvcgen [cacheOf, -cacheOf_spec, -Act.mapper_spec, mapper_adds, -Act.broken_spec,
    broken_adds] <;> grind

theorem checkReissue_adds (c : Cache) (v : Ref) (h : Handle) :
    ⦃fun w => ⌜w₀.Adds w⌝⦄ checkReissue c v h ⦃World.Added w₀⦄ := by
  mvcgen [checkReissue, -checkReissue_spec, -Act.strongCount_spec, strongCount_adds,
    -output_spec, output_reads, -Context.kindOf_spec, Context.kindOf_adds] <;> grind

theorem setCache_sound (m : Ref) (c : Cache) :
    ⦃fun w => ⌜w.LineageSound ∧ ∃ x, w.bodyAt m = some (.mapper x)⌝⦄ setCache m c
    ⦃World.SoundLineage⦄ := by
  mvcgen [setCache, -setCache_spec, setBody_sound]
  grind

theorem reissueTensor_sound (m : Ref) (c : Cache) (v : Ref) (h : Handle) :
    ⦃fun w => ⌜w.LineageSound⌝⦄ reissueTensor m c v h ⦃World.SoundLineage⦄ := by
  have spec1 := @checkReissue_adds
  have spec2 := @cacheOf_adds
  have spec3 := @setCache_sound
  mvcgen [reissueTensor, -checkReissue_spec, spec1, -Tensor.clearParent_spec, Tensor.clearParent,
    -Tensor.setParent_spec, Tensor.setParent_sound, -cacheOf_spec, spec2, -setCache_spec, spec3,
    -Act.retain_spec, retain_sound] <;> clear spec1 spec2 spec3 <;> grind

theorem reissueFrame_sound (m : Ref) (c : Cache) (v : Ref) (h : Handle) :
    ⦃fun w => ⌜w.LineageSound⌝⦄ reissueFrame m c v h ⦃World.SoundLineage⦄ := by
  have spec1 := @checkReissue_adds
  have spec2 := @cacheOf_adds
  have spec3 := @setCache_sound
  mvcgen [reissueFrame, -checkReissue_spec, spec1, -Frame.clearMetadata_spec,
    Frame.clearMetadata_sound, -Frame.clearRegions_spec, Frame.clearRegions_sound,
    -Frame.clearParent_spec, Frame.clearParent, -Frame.setParent_spec, Frame.setParent_sound,
    -cacheOf_spec, spec2, -setCache_spec, spec3, -Act.retain_spec, retain_sound] <;>
    clear spec1 spec2 spec3 <;> grind

theorem chainTensor_sound (fuel : Nat)
    (hrun : ∀ l src mode, ⦃fun w => ⌜w.LineageSound⌝⦄ tensorWith fuel l src mode
      ⦃World.SoundLineage⦄)
    (links : List Ref) (cur : Ref) (mode : AccessMode) :
    ⦃fun w => ⌜w.LineageSound⌝⦄ chainTensor fuel links cur mode ⦃World.SoundLineage⦄ := by
  induction links generalizing cur with
  | nil => mvcgen [chainTensor]
  | cons l rest ih =>
    mvcgen [chainTensor, keeping, owning, hrun, ih, -Act.release_spec, release_sound]

theorem tensorWith_sound (fuel : Nat) : ∀ (m src : Ref) (mode : AccessMode),
    ⦃fun w => ⌜w.LineageSound⌝⦄ tensorWith fuel m src mode ⦃World.SoundLineage⦄ := by
  -- the cache runs its inner mapper and the chain its links within the fuel left
  induction fuel with
  | zero =>
    intro m src mode
    mvcgen [tensorWith, -Act.broken_spec, broken_adds] <;> grind
  | succ fuel ih =>
    intro m src mode
    have hchain := chainTensor_sound fuel ih
    have spec1 := @setCache_sound
    have spec2 := @reissueTensor_sound
    have spec3 := @cacheOf_adds
    mvcgen [tensorWith, -Act.mapper_spec, mapper_adds, -Act.retain_spec, retain_sound,
      -routeTensor_spec, routeTensor_maps, hchain, -Tensor.handleOf_spec, Tensor.handleOf_adds,
      -setCache_spec, spec1, spec2, ih, -Tensor.clearParent_spec,
      Tensor.clearParent, -Tensor.setParent_spec, Tensor.setParent_sound, -cacheOf_spec,
      spec3] <;> clear spec1 spec2 spec3
    all_goals grind

theorem chainFrame_sound (fuel : Nat)
    (hrun : ∀ l src mode, ⦃fun w => ⌜w.LineageSound⌝⦄ frameWith fuel l src mode
      ⦃World.SoundLineage⦄)
    (links : List Ref) (cur : Ref) (mode : AccessMode) :
    ⦃fun w => ⌜w.LineageSound⌝⦄ chainFrame fuel links cur mode ⦃World.SoundLineage⦄ := by
  induction links generalizing cur with
  | nil => mvcgen [chainFrame]
  | cons l rest ih =>
    mvcgen [chainFrame, keeping, owning, hrun, ih, -Act.release_spec, release_sound]

theorem frameWith_sound (fuel : Nat) : ∀ (m src : Ref) (mode : AccessMode),
    ⦃fun w => ⌜w.LineageSound⌝⦄ frameWith fuel m src mode ⦃World.SoundLineage⦄ := by
  induction fuel with
  | zero =>
    intro m src mode
    mvcgen [frameWith, -Act.broken_spec, broken_adds] <;> grind
  | succ fuel ih =>
    intro m src mode
    have hchain := chainFrame_sound fuel ih
    have spec1 := @setCache_sound
    have spec2 := @reissueFrame_sound
    have spec3 := @cacheOf_adds
    mvcgen [frameWith, -Act.mapper_spec, mapper_adds, -Act.retain_spec, retain_sound,
      -routeFrame_spec, routeFrame_maps, hchain, -Frame.tensorAt_spec, Frame.tensorAt_adds,
      -Tensor.handleOf_spec, Tensor.handleOf_adds, -setCache_spec, spec1,
      spec2, ih, -Frame.clearParent_spec, Frame.clearParent, -Frame.setParent_spec,
      Frame.setParent_sound, -Act.frame_spec, frame_adds, -Tensor.clearParent_spec,
      Tensor.clearParent, -Tensor.setParent_spec, Tensor.setParent_sound, -cacheOf_spec,
      spec3] <;> clear spec1 spec2 spec3
    -- each tensor of a new destination is cut from its parent in turn
    case inv1 => exact post⟨fun _ w => ⌜w.LineageSound⌝, fun _ w => ⌜w.LineageSound⌝⟩
    all_goals grind

theorem mapTensor_sound (m src : Ref) (mode : AccessMode) :
    ⦃fun w => ⌜w.LineageSound⌝⦄ mapTensor m src mode ⦃World.SoundLineage⦄ := by
  have spec1 := @tensorWith_sound
  mvcgen [mapTensor, -depth_spec, depth, spec1]

theorem mapFrame_sound (m src : Ref) (mode : AccessMode) :
    ⦃fun w => ⌜w.LineageSound⌝⦄ mapFrame m src mode ⦃World.SoundLineage⦄ := by
  have spec1 := @frameWith_sound
  mvcgen [mapFrame, -depth_spec, depth, spec1]

theorem evict_sound (m : Ref) (h : Handle) :
    ⦃fun w => ⌜w.LineageSound⌝⦄ evict m h ⦃World.SoundLineage⦄ := by
  have spec1 := @cacheOf_adds
  have spec2 := @setCache_sound
  mvcgen [evict, -cacheOf_spec, spec1, -setCache_spec, spec2,
    -Act.releaseAll_spec, releaseAll_sound] <;> clear spec1 spec2 <;> grind

theorem clear_sound (m : Ref) :
    ⦃fun w => ⌜w.LineageSound⌝⦄ clear m ⦃World.SoundLineage⦄ := by
  have spec1 := @cacheOf_adds
  have spec2 := @setCache_sound
  mvcgen [clear, -cacheOf_spec, spec1, -setCache_spec, spec2,
    -Act.releaseAll_spec, releaseAll_sound] <;> clear spec1 spec2 <;> grind

end Mapper

end MemBridge
