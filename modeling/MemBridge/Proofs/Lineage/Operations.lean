import MemBridge.Proofs.Lineage.Parent
import MemBridge.Context.Allocate

/-!
Operations that keep the lineage sound.

Every operation here leaves a sound lineage whether it succeeds or fails
(`World.SoundLineage`). Most only add objects, each linked if at all to an older object of its
sort, and a world that only adds keeps every link there was (`LineageSound.of_adds`): views of
tensors are such (`Tensor.slice_adds`, `Tensor.sliceRegion_adds`), and so is making a frame.
The others replace an object by one of its sort that links as it did or not at all
(`Act.setBody_sound`, `Act.modifyFrame_sound`), or set a parent, which `Frame.setParent_sound`
covers whatever the parent: adding a region (`Frame.addRegion_sound`), cutting one
(`Frame.region_sound`), and handing out a frame of a pool, which clears the frame's metadata,
regions and parent (`FramePool.acquire_sound`).
-/

namespace MemBridge

open Std.Do

set_option mvcgen.warning false

-- A lemma of this module reaches `mvcgen` through a `have` (`specN`): named in the list, it would
-- make the proof wait until that lemma's own proof is checked. Where `grind` or `simp_all`
-- follows, the binding is cleared first, so that they do not take it up as a hypothesis.

namespace Body

@[simp, grind =] theorem parent_mapper (m : Mapper) : (Body.mapper m).parent = none := rfl
@[simp, grind =] theorem parent_framePool (p : FramePool) : (Body.framePool p).parent = none :=
  rfl
@[simp, grind =] theorem variant_framePool (p : FramePool) :
    (Body.framePool p).variant = .framePool := rfl

end Body

/-- A world that only adds objects to a sound one is sound. -/
@[grind →] theorem World.LineageSound.of_adds {w w' : World} (h : w.LineageSound)
    (ha : w.Adds w') : w'.LineageSound :=
  h.of_keepsLinks (.of_adds ha)

namespace Act

open World

variable {w₁ : World}

theorem retain_sound (r : Ref) :
    ⦃fun w => ⌜w.LineageSound⌝⦄ retain r ⦃World.SoundLineage⦄ :=
  sound_of_added fun _ => retain_adds r

theorem setBody_sound (r : Ref) (y : Body) :
    ⦃fun w => ⌜w.LineageSound ∧ ∃ x, w.bodyAt r = some x ∧ y.variant = x.variant ∧
      (y.parent = none ∨ y.parent = x.parent)⌝⦄
    setBody r y ⦃World.SoundLineage⦄ := by
  mvcgen [setBody_eq]
  grind [LineageSound.of_keepsLinks, KeepsLinks.setBody]

theorem modifyFrame_sound (r : Ref) (fn : Frame → Frame) :
    ⦃fun w => ⌜w.LineageSound ∧ ∀ f, (fn f).parent = f.parent⌝⦄
    modifyFrame r fn ⦃World.SoundLineage⦄ := by
  apply triple_of_run
  rintro w ⟨h, hfn⟩
  have hset := of_triple (@modifyFrame_sets w r fn) rfl
  split <;> rename_i heq <;> rw [heq] at hset
  · obtain ⟨f, hf, rfl⟩ := hset
    exact h.of_keepsLinks (KeepsLinks.setBody hf rfl (.inr (hfn f)))
  · exact hset ▸ h

theorem framePool_reads (r : Ref) :
    ⦃fun w => ⌜w = w₁⌝⦄ framePool r
    ⦃post⟨fun p w => ⌜w = w₁ ∧ w₁.bodyAt r = some (.framePool p)⌝, fun _ w => ⌜w = w₁⌝⟩⦄ := by
  unfold framePool body broken
  mvcgen [-Act.node_spec, node_reads] <;> simp_all [bodyAt_of_getElem?]

end Act

namespace Tensor

open Act World

variable {w₀ : World}

theorem slice_adds (r : Ref) (ranges : List (Nat × Nat)) :
    ⦃fun w => ⌜w₀.Adds w⌝⦄ slice r ranges ⦃World.Added w₀⦄ := by
  mvcgen [slice, -Act.tensor_spec, tensor_adds, -Act.lift_spec, lift_adds, -Act.retain_spec,
    retain_adds, -Act.create_spec, create_adds]
  -- the loop only checks the ranges, in the world where the tensor was read
  case inv1 => rename_i s₁ _; exact post⟨fun _ w => ⌜s₁.Adds w⌝, fun _ w => ⌜w₀.Adds w⌝⟩
  all_goals grind

theorem sliceRegion_adds (r : Ref) (y x : Nat × Nat) :
    ⦃fun w => ⌜w₀.Adds w⌝⦄ sliceRegion r y x ⦃World.Added w₀⦄ := by
  have spec1 := @slice_adds
  mvcgen [sliceRegion, -Act.tensor_spec, tensor_adds, -Act.lift_spec, lift_adds, spec1] <;>
    clear spec1 <;>
    grind

end Tensor

namespace Frame

open Act World

theorem clearRegions_sound (r : Ref) :
    ⦃fun w => ⌜w.LineageSound⌝⦄ clearRegions r ⦃World.SoundLineage⦄ := by
  have spec1 := @modifyFrame_sound
  mvcgen [clearRegions, -clearRegions_spec, -Act.modifyFrame_spec, spec1]
  clear spec1
  grind

theorem clearMetadata_sound (r : Ref) :
    ⦃fun w => ⌜w.LineageSound⌝⦄ clearMetadata r ⦃World.SoundLineage⦄ := by
  have spec1 := @modifyFrame_sound
  mvcgen [clearMetadata, -clearMetadata_spec, -Act.frame_spec, frame_adds,
    -Act.modifyFrame_spec, spec1, -dropDictionary_spec, dropDictionary,
    -Act.releaseAll_spec, releaseAll_sound] <;> clear spec1
  case inv1 => exact World.SoundLineage
  all_goals grind

theorem pruneRegions_sound (r : Ref) :
    ⦃fun w => ⌜w.LineageSound⌝⦄ pruneRegions r ⦃World.SoundLineage⦄ := by
  have spec1 := @modifyFrame_sound
  mvcgen [pruneRegions, -Act.frame_spec, frame_adds, -Act.alive_spec, alive_adds,
    -Act.modifyFrame_spec, spec1] <;> clear spec1
  case inv1 => exact World.SoundLineage
  all_goals grind

theorem addRegion_sound (r g : Ref) :
    ⦃fun w => ⌜w.LineageSound⌝⦄ addRegion r g ⦃World.SoundLineage⦄ := by
  have spec1 := @retain_sound
  have spec2 := @pruneRegions_sound
  have spec3 := @modifyFrame_sound
  mvcgen [addRegion, -Act.retain_spec, spec1, -setParent_spec, setParent_sound,
    spec2, -Act.modifyFrame_spec, spec3]
  clear spec1 spec2 spec3
  grind

theorem region_sound (r : Ref) (rect : Rect) :
    ⦃fun w => ⌜w.LineageSound⌝⦄ region r rect ⦃World.SoundLineage⦄ := by
  have spec1 := @Tensor.sliceRegion_adds
  have spec2 := @addRegion_sound
  mvcgen [region, -Act.frame_spec, frame_adds, -Act.lift_spec, lift_adds, -Act.tensor_spec,
    tensor_adds, spec1, -Act.releaseAll_spec, releaseAll_sound, -make_spec,
    make_adds, spec2] <;> clear spec1 spec2
  case inv1 => exact World.SoundLineage
  all_goals grind

end Frame

namespace FramePool

open Act World

theorem firstFree_adds {w₀ : World} (fs : List Ref) :
    ⦃fun w => ⌜w₀.Adds w⌝⦄ firstFree fs ⦃World.Added w₀⦄ := by
  induction fs with
  | nil => mvcgen [firstFree]
  | cons f rest ih =>
    mvcgen [firstFree, isFree, -Act.strongCount_spec, strongCount_adds, ih] <;> grind

theorem acquire_sound (p : Ref) :
    ⦃fun w => ⌜w.LineageSound⌝⦄ acquire p ⦃World.SoundLineage⦄ := by
  have spec1 := @framePool_reads
  have spec2 := @setBody_sound
  have spec3 := @firstFree_adds
  have spec4 := @Frame.clearMetadata_sound
  have spec5 := @Frame.clearRegions_sound
  have spec6 := @retain_sound
  mvcgen [acquire, spec1, spec2, spec3,
    -Frame.clearMetadata_spec, spec4, -Frame.clearRegions_spec,
    spec5, -Frame.clearParent_spec, Frame.clearParent, -Frame.setParent_spec,
    Frame.setParent_sound, -Act.retain_spec, spec6] <;> clear spec1 spec2 spec3 spec4 spec5 spec6
  all_goals grind

end FramePool

end MemBridge
