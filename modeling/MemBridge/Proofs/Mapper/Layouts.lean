import MemBridge.Proofs.Mapper.Contract

/-!
What layout a mapping answers with. A direct route keeps its source's layout, except the upload
into a new surface, which lays the copy out contiguously (`Route.layoutOf`). A cache answers a
handle and mode it has seen with the destination it cached then, whatever the asking source's
layout, so a view of part of a pooled surface gets the whole surface's destination
(`Mapper.cached_answer_layout`).
-/

namespace MemBridge

open Std.Do

set_option mvcgen.warning false

-- A lemma of this module reaches `mvcgen` through a `have` (`specN`): named in the list, it would
-- make the proof wait until that lemma's own proof is checked. Where `grind` or `simp_all`
-- follows, the binding is cleared first, so that they do not take it up as a hypothesis.

/-- The layout a route gives what it maps from a tensor of layout `l`: the same, but for an
upload into a surface, laid out contiguously. -/
def Route.layoutOf : Route → Layout → Except Fault Layout
  | .cpuToVaapi, l => Layout.ofShape l.shape l.elem
  | _, l => .ok l

namespace World

def LaidOut (w : World) (r : Ref) (l : Layout) : Prop :=
  ∃ t, w.bodyAt r = some (.tensor t) ∧ t.layout = l

def LayoutFrom (w₀ w : World) (src r : Ref) : Prop :=
  ∀ t, w₀.bodyAt src = some (.tensor t) → w.LaidOut r t.layout

variable {w w' : World} {r : Ref} {l : Layout}

@[grind →] theorem LaidOut.of_adds (h : w.LaidOut r l) (ha : w.Adds w') : w'.LaidOut r l := by
  obtain ⟨t, ht, hl⟩ := h
  exact ⟨t, ha.tensor_at ht, hl⟩

/-- `w'` has every tensor of `w` in its layout, and every frame of `w` with its tensors: what
handing a cached destination out again keeps. -/
structure KeepsShapes (w w' : World) : Prop where
  tensors : ∀ r l, w.LaidOut r l → w'.LaidOut r l
  frames : ∀ r f, w.bodyAt r = some (.frame f) →
    ∃ f', w'.bodyAt r = some (.frame f') ∧ f'.tensors = f.tensors

namespace KeepsShapes

variable {w'' : World} {x y : Body}

theorem refl (w : World) : w.KeepsShapes w :=
  ⟨fun _ _ h => h, fun _ f hf => ⟨f, hf, rfl⟩⟩

theorem trans (h₁ : w.KeepsShapes w') (h₂ : w'.KeepsShapes w'') : w.KeepsShapes w'' := by
  refine ⟨fun r l h => h₂.tensors r l (h₁.tensors r l h), fun r f hf => ?_⟩
  obtain ⟨f', hf', e⟩ := h₁.frames r f hf
  obtain ⟨f'', hf'', e'⟩ := h₂.frames r f' hf'
  exact ⟨f'', hf'', e'.trans e⟩

theorem of_keeps (hk : w.KeepsObjects w') : w.KeepsShapes w' := by
  refine ⟨fun r l ⟨t, ht, hl⟩ => ⟨t, hk r _ ht (by simp), hl⟩, fun r f hf => ?_⟩
  exact ⟨f, hk r _ hf (by simp), rfl⟩

theorem setStrong {n : Node} (hn : w.nodes[r]? = some n) (k : Nat) :
    w.KeepsShapes (w.setStrong r n k) := by
  refine ⟨fun r' l ⟨t, ht, hl⟩ => ⟨t, ?_, hl⟩, fun r' f hf => ⟨f, ?_, rfl⟩⟩
  · rwa [World.bodyAt_setStrong hn]
  · rwa [World.bodyAt_setStrong hn]

theorem setBody (hx : w.bodyAt r = some x)
    (ht : ∀ t, x = .tensor t → ∃ t', y = .tensor t' ∧ t'.layout = t.layout)
    (hf : ∀ f, x = .frame f → ∃ f', y = .frame f' ∧ f'.tensors = f.tensors) :
    w.KeepsShapes (w.setBody r y) := by
  have hr : r < w.nodes.size := World.lt_size_of_bodyAt hx
  refine ⟨fun r' l ⟨t, hb, hl⟩ => ?_, fun r' f hb => ?_⟩
  · by_cases e : r' = r
    · subst e
      obtain ⟨t', rfl, e⟩ := ht t (Option.some.inj (hx.symm.trans hb))
      exact ⟨t', by simp [World.bodyAt_setBody, hr], e.trans hl⟩
    · exact ⟨t, by rwa [World.bodyAt_setBody, if_neg fun h => e h.1], hl⟩
  · by_cases e : r' = r
    · subst e
      obtain ⟨f', rfl, e⟩ := hf f (Option.some.inj (hx.symm.trans hb))
      exact ⟨f', by simp [World.bodyAt_setBody, hr], e⟩
    · exact ⟨f, by rwa [World.bodyAt_setBody, if_neg fun h => e h.1], rfl⟩

end KeepsShapes

end World

namespace Mapper

open Act World

variable {w₀ : World}

theorem dmaToCpu_layout (dv output src : Ref) :
    ⦃fun w => ⌜w₀.Adds w⌝⦄ dmaToCpu dv output src
    ⦃post⟨fun r w => ⌜w₀.Adds w ∧ w₀.LayoutFrom w src r⌝, fun _ w => ⌜w₀.Adds w⌝⟩⦄ := by
  mvcgen [dmaToCpu, owning, -dmaToCpu_spec, -Act.tensor_spec, tensor_adds,
    -importOfTensor_spec, importOfTensor_adds, -Device.call_spec, Device.call_adds,
    -Device.pointerAt_spec, Device.pointerAt_adds, -Act.release_spec, release_adds,
    -mapped_spec, mapped_adds, -TensorSpec.build_spec, TensorSpec.build_adds]
  all_goals grind [LayoutFrom, LaidOut, TensorSpec.Built]

theorem vaapiToCpu_layout (dv output src : Ref) :
    ⦃fun w => ⌜w₀.Adds w⌝⦄ vaapiToCpu dv output src
    ⦃post⟨fun r w => ⌜w₀.Adds w ∧ w₀.LayoutFrom w src r⌝, fun _ w => ⌜w₀.Adds w⌝⟩⦄ := by
  mvcgen [vaapiToCpu, keeping, owning, -vaapiToCpu_spec, -Act.tensor_spec, tensor_adds,
    -surfaceOfTensor_spec, surfaceOfTensor_adds, -Act.surface_spec, surface_adds,
    -waitMemory_spec, waitMemory_adds, -Device.call_spec, Device.call_adds,
    -Device.pointerAt_spec, Device.pointerAt_adds, -Act.retain_spec, retain_adds,
    -Act.release_spec, release_adds, -mapped_spec, mapped_adds, -TensorSpec.build_spec,
    TensorSpec.build_adds]
  all_goals grind [LayoutFrom, LaidOut, TensorSpec.Built]

theorem cpuToVaapi_layout (dv output src : Ref) :
    ⦃fun w => ⌜w₀.Adds w⌝⦄ cpuToVaapi dv output src
    ⦃post⟨fun r w => ⌜w₀.Adds w ∧ ∀ t, w₀.bodyAt src = some (.tensor t) →
        ∃ l, Layout.ofShape t.layout.shape t.layout.elem = .ok l ∧ w.LaidOut r l⌝,
      fun _ w => ⌜w₀.Adds w⌝⟩⦄ := by
  mvcgen [cpuToVaapi, owning, -cpuToVaapi_spec, -Act.tensor_spec, tensor_adds,
    -Tensor.readBytes_spec, Tensor.readBytes_adds, -Device.createLinearSurface_spec,
    Device.createLinearSurface_adds, -Act.lift_spec, lift_adds, -Act.allocation_spec,
    allocation_adds, -Act.surface_spec, surface_adds, -Tensor.writeAt_spec, Tensor.writeAt_adds,
    -Device.recordCopy_spec, Device.recordCopy_adds, -Act.release_spec, release_adds,
    -mapped_spec, mapped_adds, -TensorSpec.build_spec, TensorSpec.build_adds]
  all_goals grind [LaidOut, TensorSpec.Built]

theorem dmaTensor_layout (output src buf : Ref) (plane : Handle) :
    ⦃fun w => ⌜w₀.Adds w⌝⦄ dmaTensor output src buf plane
    ⦃post⟨fun r w => ⌜w₀.Adds w ∧ w₀.LayoutFrom w src r⌝, fun _ w => ⌜w₀.Adds w⌝⟩⦄ := by
  mvcgen [dmaTensor, -dmaTensor_spec, -Act.tensor_spec, tensor_adds, -Act.descriptor_spec,
    descriptor_adds, -mapped_spec, mapped_adds, -TensorSpec.build_spec, TensorSpec.build_adds]
  all_goals grind [LayoutFrom, LaidOut, TensorSpec.Built]

theorem vaapiToDma_layout (dv output src : Ref) :
    ⦃fun w => ⌜w₀.Adds w⌝⦄ vaapiToDma dv output src
    ⦃post⟨fun r w => ⌜w₀.Adds w ∧ w₀.LayoutFrom w src r⌝, fun _ w => ⌜w₀.Adds w⌝⟩⦄ := by
  have spec1 := @dmaTensor_layout
  mvcgen [vaapiToDma, keeping, owning, -vaapiToDma_spec, -Act.tensor_spec, tensor_adds,
    -surfaceOfTensor_spec, surfaceOfTensor_adds, -exportSurface_spec, exportSurface_adds,
    -dmaTensor_spec, spec1, -Act.release_spec, release_adds] <;> clear spec1
  all_goals grind [LayoutFrom]

theorem dmaToVaapi_layout (dv output src : Ref) :
    ⦃fun w => ⌜w₀.Adds w⌝⦄ dmaToVaapi dv output src
    ⦃post⟨fun r w => ⌜w₀.Adds w ∧ w₀.LayoutFrom w src r⌝, fun _ w => ⌜w₀.Adds w⌝⟩⦄ := by
  mvcgen [dmaToVaapi, -dmaToVaapi_spec, -Act.tensor_spec, tensor_adds, -importOfTensor_spec,
    importOfTensor_adds, -Device.importSurface_spec, Device.importSurface_adds,
    -Act.surface_spec, surface_adds, -mapped_spec, mapped_adds, -TensorSpec.build_spec,
    TensorSpec.build_adds]
  all_goals grind [LayoutFrom, LaidOut, TensorSpec.Built]

theorem clTensor_layout (output src buffer : Ref) :
    ⦃fun w => ⌜w₀.Adds w⌝⦄ clTensor output src buffer
    ⦃post⟨fun r w => ⌜w₀.Adds w ∧ w₀.LayoutFrom w src r⌝, fun _ w => ⌜w₀.Adds w⌝⟩⦄ := by
  mvcgen [clTensor, -clTensor_spec, -Act.tensor_spec, tensor_adds, -Act.clBuffer_spec,
    clBuffer_adds, -mapped_spec, mapped_adds, -TensorSpec.build_spec, TensorSpec.build_adds]
  all_goals grind [LayoutFrom, LaidOut, TensorSpec.Built]

theorem dmaToOpenCl_layout (dv output src : Ref) :
    ⦃fun w => ⌜w₀.Adds w⌝⦄ dmaToOpenCl dv output src
    ⦃post⟨fun r w => ⌜w₀.Adds w ∧ w₀.LayoutFrom w src r⌝, fun _ w => ⌜w₀.Adds w⌝⟩⦄ := by
  have spec1 := @clTensor_layout
  mvcgen [dmaToOpenCl, owning, -dmaToOpenCl_spec, -Act.tensor_spec, tensor_adds,
    -importOfTensor_spec, importOfTensor_adds, -Device.call_spec, Device.call_adds,
    -Act.release_spec, release_adds, -Device.clBufferOnAllocation_spec,
    Device.clBufferOnAllocation_adds, -clTensor_spec, spec1] <;> clear spec1
  all_goals grind [LayoutFrom]

theorem vaapiToOpenCl_layout (dv output src : Ref) :
    ⦃fun w => ⌜w₀.Adds w⌝⦄ vaapiToOpenCl dv output src
    ⦃post⟨fun r w => ⌜w₀.Adds w ∧ w₀.LayoutFrom w src r⌝, fun _ w => ⌜w₀.Adds w⌝⟩⦄ := by
  have spec1 := @clTensor_layout
  mvcgen [vaapiToOpenCl, keeping, owning, -vaapiToOpenCl_spec, -Act.tensor_spec, tensor_adds,
    -surfaceOfTensor_spec, surfaceOfTensor_adds, -Device.shareSurface_spec,
    Device.shareSurface_adds, -clTensor_spec, spec1, -Act.release_spec, release_adds] <;>
    clear spec1
  all_goals grind [LayoutFrom]

theorem openClToCpu_layout (dv output src : Ref) :
    ⦃fun w => ⌜w₀.Adds w⌝⦄ openClToCpu dv output src
    ⦃post⟨fun r w => ⌜w₀.Adds w ∧ w₀.LayoutFrom w src r⌝, fun _ w => ⌜w₀.Adds w⌝⟩⦄ := by
  mvcgen [openClToCpu, owning, -openClToCpu_spec, -Act.tensor_spec, tensor_adds,
    -Tensor.handleOf_spec, Tensor.handleOf_adds, -Device.clBufferOf_spec, Device.clBufferOf_adds,
    -Device.call_spec, Device.call_adds, -Act.clBuffer_spec, clBuffer_adds,
    -bufferPointer_spec, bufferPointer_adds, -Act.release_spec, release_adds, -mapped_spec,
    mapped_adds, -TensorSpec.build_spec, TensorSpec.build_adds]
  all_goals grind [LayoutFrom, LaidOut, TensorSpec.Built]

theorem cpuToOpenCl_layout (dv output src : Ref) :
    ⦃fun w => ⌜w₀.Adds w⌝⦄ cpuToOpenCl dv output src
    ⦃post⟨fun r w => ⌜w₀.Adds w ∧ w₀.LayoutFrom w src r⌝, fun _ w => ⌜w₀.Adds w⌝⟩⦄ := by
  have spec1 := @clTensor_layout
  mvcgen [cpuToOpenCl, -cpuToOpenCl_spec, -Act.tensor_spec, tensor_adds, -Act.lift_spec,
    lift_adds, -memoryOwner_spec, memoryOwner_adds, -Device.clBufferOnHost_spec,
    Device.clBufferOnHost_adds, -clTensor_spec, spec1] <;> clear spec1
  all_goals grind [LayoutFrom]

theorem dmaToUsm_layout (dv output src : Ref) :
    ⦃fun w => ⌜w₀.Adds w⌝⦄ dmaToUsm dv output src
    ⦃post⟨fun r w => ⌜w₀.Adds w ∧ w₀.LayoutFrom w src r⌝, fun _ w => ⌜w₀.Adds w⌝⟩⦄ := by
  mvcgen [dmaToUsm, owning, -dmaToUsm_spec, -Act.tensor_spec, tensor_adds,
    -importOfTensor_spec, importOfTensor_adds, -Device.call_spec, Device.call_adds,
    -Device.pointerAt_spec, Device.pointerAt_adds, -Act.release_spec, release_adds,
    -mapped_spec, mapped_adds, -TensorSpec.build_spec, TensorSpec.build_adds]
  all_goals grind [LayoutFrom, LaidOut, TensorSpec.Built]

theorem usmToCpu_layout (dv output src : Ref) :
    ⦃fun w => ⌜w₀.Adds w⌝⦄ usmToCpu dv output src
    ⦃post⟨fun r w => ⌜w₀.Adds w ∧ w₀.LayoutFrom w src r⌝, fun _ w => ⌜w₀.Adds w⌝⟩⦄ := by
  mvcgen [usmToCpu, -usmToCpu_spec, -Device.synchronize_spec, Device.synchronize_adds,
    -Act.tensor_spec, tensor_adds, -Act.lift_spec, lift_adds, -memoryOwner_spec,
    memoryOwner_adds, -mapped_spec, mapped_adds, -TensorSpec.build_spec, TensorSpec.build_adds]
  all_goals grind [LayoutFrom, LaidOut, TensorSpec.Built]

theorem cpuToOpenVino_layout (output src : Ref) :
    ⦃fun w => ⌜w₀.Adds w⌝⦄ cpuToOpenVino output src
    ⦃post⟨fun r w => ⌜w₀.Adds w ∧ w₀.LayoutFrom w src r⌝, fun _ w => ⌜w₀.Adds w⌝⟩⦄ := by
  mvcgen [cpuToOpenVino, -cpuToOpenVino_spec, -Act.tensor_spec, tensor_adds, -Act.lift_spec,
    lift_adds, -runtimeSpec_spec, runtimeSpec_adds, -memoryOwner_spec, memoryOwner_adds,
    -TensorSpec.build_spec, TensorSpec.build_adds]
  all_goals grind [LayoutFrom, LaidOut, TensorSpec.Built]

theorem openVinoToCpu_layout (device : Option Ref) (output src : Ref) :
    ⦃fun w => ⌜w₀.Adds w⌝⦄ openVinoToCpu device output src
    ⦃post⟨fun r w => ⌜w₀.Adds w ∧ w₀.LayoutFrom w src r⌝, fun _ w => ⌜w₀.Adds w⌝⟩⦄ := by
  mvcgen [openVinoToCpu, -openVinoToCpu_spec, -Act.tensor_spec, tensor_adds,
    -memoryOwner_spec, memoryOwner_adds, -remotePointer_spec, remotePointer_adds,
    -mapped_spec, mapped_adds, -TensorSpec.build_spec, TensorSpec.build_adds]
  all_goals grind [LayoutFrom, LaidOut, TensorSpec.Built]

theorem openClToOpenVino_layout (dv output src : Ref) :
    ⦃fun w => ⌜w₀.Adds w⌝⦄ openClToOpenVino dv output src
    ⦃post⟨fun r w => ⌜w₀.Adds w ∧ w₀.LayoutFrom w src r⌝, fun _ w => ⌜w₀.Adds w⌝⟩⦄ := by
  mvcgen [openClToOpenVino, -openClToOpenVino_spec, -Act.tensor_spec, tensor_adds,
    -Tensor.handleOf_spec, Tensor.handleOf_adds, -Device.clBufferOf_spec, Device.clBufferOf_adds,
    -runtimeSpec_spec, runtimeSpec_adds, -TensorSpec.build_spec, TensorSpec.build_adds]
  all_goals grind [LayoutFrom, LaidOut, TensorSpec.Built]

theorem vaapiToOpenVino_layout (dv output src : Ref) :
    ⦃fun w => ⌜w₀.Adds w⌝⦄ vaapiToOpenVino dv output src
    ⦃post⟨fun r w => ⌜w₀.Adds w ∧ w₀.LayoutFrom w src r⌝, fun _ w => ⌜w₀.Adds w⌝⟩⦄ := by
  mvcgen [vaapiToOpenVino, -vaapiToOpenVino_spec, -Act.tensor_spec, tensor_adds,
    -Tensor.handleOf_spec, Tensor.handleOf_adds, -Device.surfaceOf_spec, Device.surfaceOf_adds,
    -runtimeSpec_spec, runtimeSpec_adds, -TensorSpec.build_spec, TensorSpec.build_adds]
  all_goals grind [LayoutFrom, LaidOut, TensorSpec.Built]

theorem routeTensor_layout (route : Route) (input output : Ref) (device : Option Ref)
    (src : Ref) :
    ⦃fun w => ⌜w₀.Adds w⌝⦄ routeTensor route input output device src
    ⦃post⟨fun r w => ⌜w₀.Adds w ∧ ∀ t, w₀.bodyAt src = some (.tensor t) →
        ∃ l, route.layoutOf t.layout = .ok l ∧ w.LaidOut r l⌝,
      fun _ w => ⌜w₀.Adds w⌝⟩⦄ := by
  have spec1 := @dmaToCpu_layout
  have spec2 := @vaapiToCpu_layout
  have spec3 := @cpuToVaapi_layout
  have spec4 := @vaapiToDma_layout
  have spec5 := @dmaToVaapi_layout
  have spec6 := @dmaToOpenCl_layout
  have spec7 := @vaapiToOpenCl_layout
  have spec8 := @openClToCpu_layout
  have spec9 := @cpuToOpenCl_layout
  have spec10 := @dmaToUsm_layout
  have spec11 := @usmToCpu_layout
  have spec12 := @cpuToOpenVino_layout
  have spec13 := @openVinoToCpu_layout
  have spec14 := @openClToOpenVino_layout
  have spec15 := @vaapiToOpenVino_layout
  mvcgen [routeTensor, -routeTensor_spec, -Context.kindOf_spec, Context.kindOf_adds,
    -Act.tensor_spec, tensor_adds, -expectKind_spec, expectKind_adds, -Act.broken_spec, broken_adds,
    -dmaToCpu_spec, spec1, -vaapiToCpu_spec, spec2, -cpuToVaapi_spec, spec3, -vaapiToDma_spec,
    spec4, -dmaToVaapi_spec, spec5, -dmaToOpenCl_spec, spec6, -vaapiToOpenCl_spec, spec7,
    -openClToCpu_spec, spec8, -cpuToOpenCl_spec, spec9, -dmaToUsm_spec, spec10, -usmToCpu_spec,
    spec11, -cpuToOpenVino_spec, spec12, -openVinoToCpu_spec, spec13, -openClToOpenVino_spec,
    spec14, -vaapiToOpenVino_spec, spec15] <;>
    clear spec1 spec2 spec3 spec4 spec5 spec6 spec7 spec8 spec9 spec10 spec11 spec12 spec13 spec14 spec15
  all_goals grind [Route.layoutOf, LayoutFrom]

theorem routeTensor_laidOut {route : Route} {i o : Ref} {d : Option Ref} {src r : Ref}
    {w' : World} {t : Tensor} (hsrc : w₀.bodyAt src = some (.tensor t))
    (hrun : (routeTensor route i o d src).run w₀ = .ok r w') :
    ∃ l, route.layoutOf t.layout = .ok l ∧ w'.LaidOut r l := by
  have hl := of_triple (@routeTensor_layout w₀ route i o d src) (World.Adds.refl w₀)
  rw [hrun] at hl
  exact hl.2 t hsrc

end Mapper

/-! ## A reissue keeps shapes -/

open Act

namespace Tensor

variable {w w' : World} {r : Ref}

theorem clearParent_shapes (hrun : (clearParent r).run w = .ok () w') : w.KeepsShapes w' := by
  obtain ⟨t, ht, hk⟩ := clearParent_ok hrun
  exact (World.KeepsShapes.setBody ht (by simp) (by simp)).trans (.of_keeps hk)

end Tensor

namespace Frame

variable {w w' : World} {r : Ref}

theorem clearParent_shapes (hrun : (clearParent r).run w = .ok () w') : w.KeepsShapes w' := by
  obtain ⟨f, hf, hk⟩ := clearParent_ok hrun
  exact (World.KeepsShapes.setBody hf (by simp) (by simp)).trans (.of_keeps hk)

theorem clearMetadata_shapes (hrun : (clearMetadata r).run w = .ok () w') :
    w.KeepsShapes w' := by
  obtain ⟨f, hf, hk⟩ := clearMetadata_ok hrun
  exact (World.KeepsShapes.setBody hf (by simp) (by simp)).trans (.of_keeps hk)

theorem clearRegions_shapes (hrun : (clearRegions r).run w = .ok () w') :
    w.KeepsShapes w' := by
  obtain ⟨f, w₁, h₁, h₂⟩ := bind_ok hrun
  obtain ⟨hf, rfl⟩ := frame_run_ok h₁
  rw [run_setBody] at h₂
  cases h₂
  exact World.KeepsShapes.setBody hf (by simp) (by simp)

end Frame

namespace Mapper

open World

variable {w w' : World} {m v r : Ref} {c : Cache} {h : Handle}

theorem cacheOf_run_ok (hrun : (cacheOf m).run w = .ok c w') :
    w.bodyAt m = some (.mapper (.cache c)) ∧ w' = w := by
  obtain ⟨x, w₁, h₁, h₂⟩ := bind_ok hrun
  obtain ⟨hm, rfl⟩ := mapper_run_ok h₁
  cases x <;> simp_all [broken]

theorem countHit_shapes
    (hrun : (do
      let c ← cacheOf m
      setCache m { c with hits := c.hits + 1 }
      retain v
      return v : Act Ref).run w = .ok r w') :
    r = v ∧ w.KeepsShapes w' := by
  obtain ⟨c, w₁, h₁, h₂⟩ := bind_ok hrun
  obtain ⟨hm, rfl⟩ := cacheOf_run_ok h₁
  obtain ⟨_, w₂, h₃, h₄⟩ := bind_ok h₂
  rw [run_setCache] at h₃
  cases h₃
  obtain ⟨_, w₃, h₅, h₆⟩ := bind_ok h₄
  obtain ⟨n, hn, rfl⟩ := retain_run_ok h₅
  simp only [EStateM.run_pure, EStateM.Result.ok.injEq] at h₆
  obtain ⟨rfl, rfl⟩ := h₆
  exact ⟨rfl, (KeepsShapes.setBody hm (by simp) (by simp)).trans (.setStrong hn _)⟩

theorem reissueTensor_shapes (hrun : (reissueTensor m c v h).run w = .ok r w') :
    r = v ∧ w.KeepsShapes w' := by
  obtain ⟨_, w₁, h₁, h₂⟩ := bind_ok hrun
  obtain rfl := checkReissue_run_ok h₁
  obtain ⟨_, w₂, h₃, h₄⟩ := bind_ok h₂
  obtain ⟨rfl, hk⟩ := countHit_shapes h₄
  exact ⟨rfl, (Tensor.clearParent_shapes h₃).trans hk⟩

theorem reissueFrame_shapes (hrun : (reissueFrame m c v h).run w = .ok r w') :
    r = v ∧ w.KeepsShapes w' := by
  obtain ⟨_, w₁, h₁, h₂⟩ := bind_ok hrun
  obtain rfl := checkReissue_run_ok h₁
  obtain ⟨_, w₂, h₃, h₄⟩ := bind_ok h₂
  obtain ⟨_, w₃, h₅, h₆⟩ := bind_ok h₄
  obtain ⟨_, w₄, h₇, h₈⟩ := bind_ok h₆
  obtain ⟨rfl, hk⟩ := countHit_shapes h₈
  exact ⟨rfl, (Frame.clearMetadata_shapes h₃).trans
    ((Frame.clearRegions_shapes h₅).trans ((Frame.clearParent_shapes h₇).trans hk))⟩

/-! ## A miss over a direct route -/

variable {src dst : Ref} {mode : AccessMode} {t : Tensor}

theorem fillTensor_shapes
    (hrun : (do
      Tensor.clearParent dst
      retain dst
      let c ← cacheOf m
      setCache m { c with tensors := fillSlot c.tensors h mode dst, misses := c.misses + 1 }
      return dst : Act Ref).run w = .ok r w') :
    r = dst ∧ w.KeepsShapes w' := by
  obtain ⟨_, w₁, h₁, h₂⟩ := bind_ok hrun
  obtain ⟨_, w₂, h₃, h₄⟩ := bind_ok h₂
  obtain ⟨n, hn, rfl⟩ := retain_run_ok h₃
  obtain ⟨c, w₃, h₅, h₆⟩ := bind_ok h₄
  obtain ⟨hm, rfl⟩ := cacheOf_run_ok h₅
  obtain ⟨_, w₄, h₇, h₈⟩ := bind_ok h₆
  rw [run_setCache] at h₇
  cases h₇
  simp only [EStateM.run_pure, EStateM.Result.ok.injEq] at h₈
  obtain ⟨rfl, rfl⟩ := h₈
  refine ⟨rfl, (Tensor.clearParent_shapes h₁).trans ((KeepsShapes.setStrong hn (n.strong + 1)).trans ?_)⟩
  exact KeepsShapes.setBody hm (by simp) (by simp)

theorem tensorWith_miss_layout {fuel : Nat} {route : Route} {i o : Ref} {d : Option Ref}
    (hm : w.bodyAt m = some (.mapper (.cache c)))
    (hi : w.bodyAt c.inner = some (.mapper (.direct route i o d)))
    (hsrc : w.bodyAt src = some (.tensor t)) (hh : t.handle "" = .ok h)
    (hv : lookup c.tensors h mode = none)
    (hrun : (tensorWith (fuel + 1) m src mode).run w = .ok r w') :
    ∃ l, route.layoutOf t.layout = .ok l ∧ w'.LaidOut r l := by
  rw [tensorWith_cache_miss fuel hm hsrc hh hv] at hrun
  obtain ⟨dst, w₂, h₁, h₂⟩ := bind_ok hrun
  -- the slot made leaves the inner mapper and the source where they were
  have him : c.inner ≠ m := by
    rintro e
    rw [e, hm] at hi
    simp at hi
  have hsm : src ≠ m := World.ne_of_bodyAt hsrc hm (by simp)
  cases fuel with
  | zero => simp [tensorWith, broken] at h₁
  | succ fuel =>
    rw [tensorWith_direct fuel (by rwa [World.bodyAt_setBody_of_ne _ him])] at h₁
    obtain ⟨l, hl, hd⟩ := routeTensor_laidOut (by rwa [World.bodyAt_setBody_of_ne _ hsm]) h₁
    obtain ⟨rfl, hk⟩ := fillTensor_shapes h₂
    exact ⟨l, hl, hk.tensors _ _ hd⟩

/-- What a cache at `m` answers with, shape for shape. A handle and access mode it has seen are
answered with the destination it cached for them, whatever the layout of the source asking:
the cached tensor or frame itself, with no tensor changing its layout and no frame its
tensors. A tensor it has not seen, in front of a direct route, is answered in the layout the
route gives the source: the source's own, but for an upload, laid out contiguously. -/
theorem cached_answer_layout (w : World) (m : Ref) (c : Cache)
    (hm : w.bodyAt m = some (.mapper (.cache c))) :
    (∀ (src v r : Ref) (mode : AccessMode) (t : Tensor) (h : Handle) (w' : World),
      w.bodyAt src = some (.tensor t) → t.handle "" = .ok h → lookup c.tensors h mode = some v →
      (mapTensor m src mode).run w = .ok r w' → r = v ∧ w.KeepsShapes w') ∧
    (∀ (src v r : Ref) (mode : AccessMode) (f : Frame) (t₀ : Ref) (t : Tensor) (h : Handle)
        (w' : World),
      w.bodyAt src = some (.frame f) → f.tensors[0]? = some t₀ →
      w.bodyAt t₀ = some (.tensor t) → t.handle "" = .ok h → lookup c.frames h mode = some v →
      (mapFrame m src mode).run w = .ok r w' → r = v ∧ w.KeepsShapes w') ∧
    (∀ (route : Route) (i o : Ref) (d : Option Ref) (src r : Ref) (mode : AccessMode)
        (t : Tensor) (h : Handle) (w' : World),
      w.bodyAt c.inner = some (.mapper (.direct route i o d)) →
      w.bodyAt src = some (.tensor t) → t.handle "" = .ok h → lookup c.tensors h mode = none →
      (mapTensor m src mode).run w = .ok r w' →
      ∃ l, route.layoutOf t.layout = .ok l ∧ w'.LaidOut r l) := by
  refine ⟨?tensorHit, ?frameHit, ?tensorMiss⟩
  case tensorHit =>
    intro src v r mode t h w' hsrc hh hv hrun
    rw [run_mapTensor, tensorWith_cache_hit _ hm hsrc hh hv] at hrun
    exact reissueTensor_shapes hrun
  case frameHit =>
    intro src v r mode f t₀ t h w' hsrc ht₀ ht hh hv hrun
    rw [run_mapFrame, frameWith_cache_hit _ hm hsrc ht₀ ht hh hv] at hrun
    exact reissueFrame_shapes hrun
  case tensorMiss =>
    intro route i o d src r mode t h w' hi hsrc hh hv hrun
    rw [run_mapTensor] at hrun
    exact tensorWith_miss_layout hm hi hsrc hh hv hrun

def surfaceCache : Cache where
  inner := 2
  policy := .strict
  tensors := [⟨.num 17, .read, some 4⟩]
  name := "cache(vaapi-cpu)"

def surfaceMapping : Tensor where
  kind := .cpu
  layout := ⟨[4, 4, 1], [64, 1, 1], .uint8⟩
  handles := [(Key.data, .num 4096)]
  primary := Key.data

/-- A view of the top-left 2×2 corner of surface 17: it keeps the surface as its primary handle
and records its offset apart. -/
def cornerView : Tensor where
  kind := .vaapi
  layout := ⟨[2, 2, 1], [64, 1, 1], .uint8⟩
  handles := [(Key.surface, .num 17), (Key.offset, .num 0)]
  primary := Key.surface

def surfaceViewWorld : World where
  nodes := #[⟨1, .context ⟨0, none, .plain .vaapi, []⟩⟩, ⟨1, .context ⟨1, none, .plain .cpu, []⟩⟩,
    ⟨1, .mapper (.direct .vaapiToCpu 0 1 none)⟩, ⟨1, .mapper (.cache surfaceCache)⟩,
    ⟨1, .tensor surfaceMapping⟩, ⟨1, .tensor cornerView⟩]

theorem surface_view_hit_is_cached :
    ∃ w', (mapTensor 3 5 .read).run surfaceViewWorld = .ok 4 w' ∧
      surfaceViewWorld.KeepsShapes w' := by
  obtain ⟨w', hrun⟩ : ∃ w', (mapTensor 3 5 .read).run surfaceViewWorld = .ok 4 w' :=
    ⟨_, run_mapTensor.trans (tensorWith_hit_reissued rfl rfl rfl rfl rfl rfl (by decide))⟩
  exact ⟨w', hrun, ((cached_answer_layout surfaceViewWorld 3 surfaceCache rfl).1 5 4 4 .read
    cornerView (.num 17) w' rfl rfl rfl hrun).2⟩

/-- The corner view is answered with the mapping of the whole surface, of another layout. -/
theorem surface_view_answered_whole :
    ∃ r w', (mapTensor 3 5 .read).run surfaceViewWorld = .ok r w' ∧
      surfaceViewWorld.bodyAt 5 = some (.tensor cornerView) ∧
      w'.bodyAt r = some (.tensor surfaceMapping) ∧ surfaceMapping.layout ≠ cornerView.layout :=
  ⟨_, _, run_mapTensor.trans (tensorWith_hit_reissued rfl rfl rfl rfl rfl rfl (by decide)), rfl,
    rfl, by decide⟩

end Mapper

end MemBridge
