import MemBridge.Proofs.Tensor.Adds
import MemBridge.Proofs.Mapper.Extends

/-!
What a direct route hands back.

Every route only adds to the world (`World.Adds`). A tensor route that succeeds hands back a
new tensor of the route's output kind, holding the output context, whose parent is its source
(`World.MappedFrom`); a frame route hands back a new frame of that kind whose parent is its
source and whose every tensor has that kind and holds the output context
(`World.FrameFrom`). These are the facts the mapper contract is made of.
-/

namespace MemBridge

open Std.Do

set_option mvcgen.warning false

-- A lemma of this module reaches `mvcgen` through a `have` (`specN`): named in the list, it would
-- make the proof wait until that lemma's own proof is checked. Where `grind` or `simp_all`
-- follows, the binding is cleared first, so that they do not take it up as a hypothesis.

namespace World

def TensorIn (w : World) (r : Ref) (kind : MemoryKind) (o : Ref) : Prop :=
  ∃ t, w.bodyAt r = some (.tensor t) ∧ t.kind = kind ∧ t.context = .strong o

def MappedFrom (w : World) (r : Ref) (kind : MemoryKind) (o src : Ref) : Prop :=
  ∃ t, w.bodyAt r = some (.tensor t) ∧ t.kind = kind ∧ t.context = .strong o ∧
    t.parent = some src

/-- `g` is a frame of memory kind `kind` whose every tensor has that kind and holds the context
`o`. -/
def FrameIn (w : World) (g : Ref) (kind : MemoryKind) (o : Ref) : Prop :=
  ∃ f, w.bodyAt g = some (.frame f) ∧ f.kind = kind ∧ ∀ t ∈ f.tensors, w.TensorIn t kind o

/-- `g` is a frame of memory kind `kind` mapped from `src`, whose every tensor has that kind
and holds the context `o`. -/
def FrameFrom (w : World) (g : Ref) (kind : MemoryKind) (o src : Ref) : Prop :=
  ∃ f, w.bodyAt g = some (.frame f) ∧ f.kind = kind ∧ f.parent = some src ∧
    ∀ t ∈ f.tensors, w.TensorIn t kind o

variable {w w' : World} {r src o : Ref} {kind : MemoryKind}

@[grind →] theorem TensorIn.of_adds (h : w.TensorIn r kind o) (ha : w.Adds w') :
    w'.TensorIn r kind o := by
  obtain ⟨t, ht, hk, hc⟩ := h
  exact ⟨t, ha.tensor_at ht, hk, hc⟩

@[grind →] theorem MappedFrom.of_adds (h : w.MappedFrom r kind o src) (ha : w.Adds w') :
    w'.MappedFrom r kind o src := by
  obtain ⟨t, ht, hk, hc, hp⟩ := h
  exact ⟨t, ha.tensor_at ht, hk, hc, hp⟩

theorem MappedFrom.tensorIn (h : w.MappedFrom r kind o src) : w.TensorIn r kind o := by
  obtain ⟨t, ht, hk, hc, -⟩ := h
  exact ⟨t, ht, hk, hc⟩

@[grind →] theorem FrameIn.of_adds {g : Ref} (h : w.FrameIn g kind o) (ha : w.Adds w') :
    w'.FrameIn g kind o := by
  obtain ⟨f, hf, hk, ht⟩ := h
  exact ⟨f, ha.frame_at hf, hk, fun t hm => (ht t hm).of_adds ha⟩

theorem FrameIn.of_made {g : Ref} {media : MediaType} {format : Nat} {ts : List Ref}
    (hm : Frame.Made w g media format ts) (ht : ∀ t ∈ ts, w.TensorIn t kind o) :
    w.FrameIn g kind o := by
  obtain ⟨t₀, x, h0, hx, hg⟩ := hm
  obtain ⟨y, hy, hk, -⟩ := ht t₀ (List.mem_of_mem_head? h0)
  obtain rfl : x = y := by simp_all
  exact ⟨_, hg, hk, ht⟩

theorem FrameIn.of_made_adds {g : Ref} {media : MediaType} {format : Nat} {ts : List Ref}
    (hm : Frame.Made w g media format ts) (ht : ∀ t ∈ ts, w.TensorIn t kind o)
    (ha : w.Adds w') : w'.FrameIn g kind o :=
  (of_made hm ht).of_adds ha

theorem TensorIn.setFrameParent {t g p : Ref} {n : Node} {k : Nat} {f : Frame}
    (h : w.TensorIn t kind o) (hn : w.nodes[p]? = some n) (hf : w.bodyAt g = some (.frame f)) :
    ((w.setStrong p n k).setBody g (.frame { f with parent := some p })).TensorIn t kind o := by
  obtain ⟨x, hx, hk, hc⟩ := h
  have hne : t ≠ g := by rintro rfl; simp_all
  exact ⟨x, by simp [bodyAt_setBody, hne, bodyAt_setStrong hn, hx], hk, hc⟩

theorem FrameFrom.of_parented {g p : Ref} {n : Node} {k : Nat} {f : Frame}
    (hin : w.FrameIn g kind o) (hf : w.bodyAt g = some (.frame f)) (hn : w.nodes[p]? = some n) :
    ((w.setStrong p n k).setBody g (.frame { f with parent := some p })).FrameFrom g kind o p := by
  obtain ⟨f', hf', hk, ht⟩ := hin
  obtain rfl : f' = f := by simp_all
  exact ⟨_, bodyAt_setBody_of_lt _ (by simpa using lt_size_of_bodyAt hf), hk, rfl,
    fun t hm => (ht t hm).setFrameParent hn hf⟩

@[grind →] theorem FrameFrom.of_adds (h : w.FrameFrom r kind o src) (ha : w.Adds w') :
    w'.FrameFrom r kind o src := by
  obtain ⟨f, hf, hk, hp, ht⟩ := h
  exact ⟨f, ha.frame_at hf, hk, hp, fun t hm => (ht t hm).of_adds ha⟩

end World

namespace Act

open World

variable {w₀ : World}

theorem collect_adds {α : Type} (items : List α) (step : α → Act Ref)
    (P : Ref → World → Prop) (hP : ∀ r w w', P r w → w.Adds w' → P r w')
    (hstep : ∀ x (w₀ : World), ⦃fun w => ⌜w₀.Adds w⌝⦄ step x
      ⦃post⟨fun r w => ⌜w₀.Adds w ∧ P r w⌝, fun _ w => ⌜w₀.Adds w⌝⟩⦄) :
    ⦃fun w => ⌜w₀.Adds w⌝⦄ collect items step
    ⦃post⟨fun made w => ⌜w₀.Adds w ∧ ∀ r ∈ made, P r w⌝, fun _ w => ⌜w₀.Adds w⌝⟩⦄ := by
  mvcgen [collect, -collect_spec, hstep, -releaseAll_spec, releaseAll_adds]
  case inv1 =>
    exact post⟨fun step w => ⌜w₀.Adds w ∧ ∀ r ∈ step.2, P r w⌝, fun _ w => ⌜w₀.Adds w⌝⟩
  all_goals grind

theorem collect_in {α : Type} (kind : MemoryKind) (o : Ref) (items : List α)
    (step : α → Act Ref)
    (hstep : ∀ x (w₀ : World), ⦃fun w => ⌜w₀.Adds w⌝⦄ step x
      ⦃post⟨fun r w => ⌜w₀.Adds w ∧ w.TensorIn r kind o⌝, fun _ w => ⌜w₀.Adds w⌝⟩⦄) :
    ⦃fun w => ⌜w₀.Adds w⌝⦄ collect items step
    ⦃post⟨fun made w => ⌜w₀.Adds w ∧ ∀ r ∈ made, w.TensorIn r kind o⌝,
      fun _ w => ⌜w₀.Adds w⌝⟩⦄ :=
  collect_adds items step _ (fun _ _ _ h ha => h.of_adds ha) hstep

end Act

namespace Mapper

open Act World

variable {w₀ : World}

theorem expectKind_adds (expected actual : MemoryKind) :
    ⦃fun w => ⌜w₀.Adds w⌝⦄ expectKind expected actual
    ⦃post⟨fun _ w => ⌜w₀.Adds w ∧ expected = actual⌝, fun _ w => ⌜w₀.Adds w⌝⟩⦄ := by
  mvcgen [expectKind, -expectKind_spec]

theorem memoryOwner_adds (src : Ref) :
    ⦃fun w => ⌜w₀.Adds w⌝⦄ memoryOwner src ⦃World.Added w₀⦄ := by
  have go (fuel : Nat) : ∀ cursor (w₀ : World),
      ⦃fun w => ⌜w₀.Adds w⌝⦄ memoryOwner.go src cursor fuel ⦃World.Added w₀⦄ := by
    induction fuel with
    | zero =>
      intro cursor w₀
      mvcgen [memoryOwner.go, -Act.retain_spec, retain_adds] <;> grind
    | succ fuel ih =>
      intro cursor w₀
      mvcgen [memoryOwner.go, ih, -Act.tensor_spec, tensor_adds, -Act.retain_spec,
        retain_adds] <;> grind
  mvcgen [memoryOwner, -memoryOwner_spec, go]

theorem mapped_adds (src : Ref) (kind : MemoryKind) (output : Ref) (layout : Layout) :
    ⦃fun w => ⌜w₀.Adds w⌝⦄ mapped src kind output layout
    ⦃post⟨fun s w => ⌜w₀.Adds w ∧ s.kind = kind ∧ s.layout = layout ∧
        s.context = .strong output ∧ s.parent = some src⌝,
      fun _ w => ⌜w₀.Adds w⌝⟩⦄ := by
  mvcgen [mapped, -mapped_spec, -Act.retain_spec, retain_adds] <;> grind

theorem runtimeSpec_adds (src output : Ref) (layout : Layout) :
    ⦃fun w => ⌜w₀.Adds w⌝⦄ runtimeSpec src output layout
    ⦃post⟨fun s w => ⌜w₀.Adds w ∧ s.kind = .openVino ∧ s.layout = layout ∧
        s.context = .strong output ∧ s.parent = some src⌝,
      fun _ w => ⌜w₀.Adds w⌝⟩⦄ := by
  have spec1 := @mapped_adds
  mvcgen [runtimeSpec, -runtimeSpec_spec, -mapped_spec, spec1] <;> clear spec1 <;> grind

theorem waitMemory_adds (dv memory : Ref) :
    ⦃fun w => ⌜w₀.Adds w⌝⦄ waitMemory dv memory ⦃World.Added w₀⦄ := by
  mvcgen [waitMemory, -waitMemory_spec, -Act.allocation_spec, allocation_adds,
    -Act.device_spec, device_adds, -Act.lift_spec, lift_adds] <;> grind

theorem surfaceOfTensor_adds (dv src : Ref) :
    ⦃fun w => ⌜w₀.Adds w⌝⦄ surfaceOfTensor dv src ⦃World.Added w₀⦄ := by
  mvcgen [surfaceOfTensor, -surfaceOfTensor_spec, -Tensor.handleOf_spec, Tensor.handleOf_adds,
    -Device.surfaceOf_spec, Device.surfaceOf_adds] <;> grind

theorem importOfTensor_adds (dv : Ref) (backend : MemoryKind) (src : Ref) :
    ⦃fun w => ⌜w₀.Adds w⌝⦄ importOfTensor dv backend src ⦃World.Added w₀⦄ := by
  mvcgen [importOfTensor, -importOfTensor_spec, -Tensor.handleOf_spec, Tensor.handleOf_adds,
    -Device.importFd_spec, Device.importFd_adds] <;> grind

theorem exportSurface_adds (dv s : Ref) :
    ⦃fun w => ⌜w₀.Adds w⌝⦄ exportSurface dv s ⦃World.Added w₀⦄ := by
  have spec1 := @waitMemory_adds
  mvcgen [exportSurface, -exportSurface_spec, -Act.surface_spec, surface_adds,
    -waitMemory_spec, spec1, -Device.call_spec, Device.call_adds,
    -Device.exportFd_spec, Device.exportFd_adds] <;> clear spec1 <;> grind

theorem bufferPointer_adds (b : ClBuffer) (t : Tensor) :
    ⦃fun w => ⌜w₀.Adds w⌝⦄ bufferPointer b t ⦃World.Added w₀⦄ := by
  -- the bounds test is a Boolean computed by a match, which `mvcgen` leaves unsplit
  unfold bufferPointer
  dsimp only
  split
  · split <;> mvcgen
  · mvcgen

/-! ## Tensor routes -/

theorem dmaToCpu_maps (dv output src : Ref) :
    ⦃fun w => ⌜w₀.Adds w⌝⦄ dmaToCpu dv output src
    ⦃post⟨fun r w => ⌜w₀.Adds w ∧ w.MappedFrom r .cpu output src⌝,
      fun _ w => ⌜w₀.Adds w⌝⟩⦄ := by
  have spec1 := @importOfTensor_adds
  have spec2 := @mapped_adds
  mvcgen [dmaToCpu, owning, -dmaToCpu_spec, -Act.tensor_spec, tensor_adds,
    -importOfTensor_spec, spec1, -Device.call_spec, Device.call_adds,
    -Device.pointerAt_spec, Device.pointerAt_adds, -Act.release_spec, release_adds,
    -mapped_spec, spec2, -TensorSpec.build_spec, TensorSpec.build_adds] <;> clear spec1 spec2
  all_goals grind [MappedFrom, TensorSpec.Built]

theorem vaapiToCpu_maps (dv output src : Ref) :
    ⦃fun w => ⌜w₀.Adds w⌝⦄ vaapiToCpu dv output src
    ⦃post⟨fun r w => ⌜w₀.Adds w ∧ w.MappedFrom r .cpu output src⌝,
      fun _ w => ⌜w₀.Adds w⌝⟩⦄ := by
  have spec1 := @surfaceOfTensor_adds
  have spec2 := @waitMemory_adds
  have spec3 := @mapped_adds
  mvcgen [vaapiToCpu, keeping, owning, -vaapiToCpu_spec, -Act.tensor_spec, tensor_adds,
    -surfaceOfTensor_spec, spec1, -Act.surface_spec, surface_adds,
    -waitMemory_spec, spec2, -Device.call_spec, Device.call_adds,
    -Device.pointerAt_spec, Device.pointerAt_adds, -Act.retain_spec, retain_adds,
    -Act.release_spec, release_adds, -mapped_spec, spec3, -TensorSpec.build_spec,
    TensorSpec.build_adds] <;> clear spec1 spec2 spec3
  all_goals grind [MappedFrom, TensorSpec.Built]

theorem cpuToVaapi_maps (dv output src : Ref) :
    ⦃fun w => ⌜w₀.Adds w⌝⦄ cpuToVaapi dv output src
    ⦃post⟨fun r w => ⌜w₀.Adds w ∧ w.MappedFrom r .vaapi output src⌝,
      fun _ w => ⌜w₀.Adds w⌝⟩⦄ := by
  have spec1 := @mapped_adds
  mvcgen [cpuToVaapi, owning, -cpuToVaapi_spec, -Act.tensor_spec, tensor_adds,
    -Tensor.readBytes_spec, Tensor.readBytes_adds, -Device.createLinearSurface_spec,
    Device.createLinearSurface_adds, -Act.lift_spec, lift_adds, -Act.allocation_spec,
    allocation_adds, -Act.surface_spec, surface_adds, -Tensor.writeAt_spec, Tensor.writeAt_adds,
    -Device.recordCopy_spec, Device.recordCopy_adds, -Act.release_spec, release_adds,
    -mapped_spec, spec1, -TensorSpec.build_spec, TensorSpec.build_adds] <;> clear spec1
  all_goals grind [MappedFrom, TensorSpec.Built]

theorem dmaTensor_maps (output src buf : Ref) (plane : Handle) :
    ⦃fun w => ⌜w₀.Adds w⌝⦄ dmaTensor output src buf plane
    ⦃post⟨fun r w => ⌜w₀.Adds w ∧ w.MappedFrom r .dma output src⌝,
      fun _ w => ⌜w₀.Adds w⌝⟩⦄ := by
  have spec1 := @mapped_adds
  mvcgen [dmaTensor, -dmaTensor_spec, -Act.tensor_spec, tensor_adds, -Act.descriptor_spec,
    descriptor_adds, -mapped_spec, spec1, -TensorSpec.build_spec, TensorSpec.build_adds] <;>
    clear spec1
  all_goals grind [MappedFrom, TensorSpec.Built]

theorem vaapiToDma_maps (dv output src : Ref) :
    ⦃fun w => ⌜w₀.Adds w⌝⦄ vaapiToDma dv output src
    ⦃post⟨fun r w => ⌜w₀.Adds w ∧ w.MappedFrom r .dma output src⌝,
      fun _ w => ⌜w₀.Adds w⌝⟩⦄ := by
  have spec1 := @surfaceOfTensor_adds
  have spec2 := @exportSurface_adds
  have spec3 := @dmaTensor_maps
  mvcgen [vaapiToDma, keeping, owning, -vaapiToDma_spec, -Act.tensor_spec, tensor_adds,
    -surfaceOfTensor_spec, spec1, -exportSurface_spec, spec2,
    -dmaTensor_spec, spec3, -Act.release_spec, release_adds] <;> clear spec1 spec2 spec3
  all_goals grind

theorem dmaToVaapi_maps (dv output src : Ref) :
    ⦃fun w => ⌜w₀.Adds w⌝⦄ dmaToVaapi dv output src
    ⦃post⟨fun r w => ⌜w₀.Adds w ∧ w.MappedFrom r .vaapi output src⌝,
      fun _ w => ⌜w₀.Adds w⌝⟩⦄ := by
  have spec1 := @importOfTensor_adds
  have spec2 := @mapped_adds
  mvcgen [dmaToVaapi, -dmaToVaapi_spec, -Act.tensor_spec, tensor_adds, -importOfTensor_spec,
    spec1, -Device.importSurface_spec, Device.importSurface_adds,
    -Act.surface_spec, surface_adds, -mapped_spec, spec2, -TensorSpec.build_spec,
    TensorSpec.build_adds] <;> clear spec1 spec2
  all_goals grind [MappedFrom, TensorSpec.Built]

theorem clTensor_maps (output src buffer : Ref) :
    ⦃fun w => ⌜w₀.Adds w⌝⦄ clTensor output src buffer
    ⦃post⟨fun r w => ⌜w₀.Adds w ∧ w.MappedFrom r .openCl output src⌝,
      fun _ w => ⌜w₀.Adds w⌝⟩⦄ := by
  have spec1 := @mapped_adds
  mvcgen [clTensor, -clTensor_spec, -Act.tensor_spec, tensor_adds, -Act.clBuffer_spec,
    clBuffer_adds, -mapped_spec, spec1, -TensorSpec.build_spec, TensorSpec.build_adds] <;>
    clear spec1
  all_goals grind [MappedFrom, TensorSpec.Built]

theorem dmaToOpenCl_maps (dv output src : Ref) :
    ⦃fun w => ⌜w₀.Adds w⌝⦄ dmaToOpenCl dv output src
    ⦃post⟨fun r w => ⌜w₀.Adds w ∧ w.MappedFrom r .openCl output src⌝,
      fun _ w => ⌜w₀.Adds w⌝⟩⦄ := by
  have spec1 := @importOfTensor_adds
  have spec2 := @clTensor_maps
  mvcgen [dmaToOpenCl, owning, -dmaToOpenCl_spec, -Act.tensor_spec, tensor_adds,
    -importOfTensor_spec, spec1, -Device.call_spec, Device.call_adds,
    -Act.release_spec, release_adds, -Device.clBufferOnAllocation_spec,
    Device.clBufferOnAllocation_adds, -clTensor_spec, spec2] <;> clear spec1 spec2
  all_goals grind

theorem vaapiToOpenCl_maps (dv output src : Ref) :
    ⦃fun w => ⌜w₀.Adds w⌝⦄ vaapiToOpenCl dv output src
    ⦃post⟨fun r w => ⌜w₀.Adds w ∧ w.MappedFrom r .openCl output src⌝,
      fun _ w => ⌜w₀.Adds w⌝⟩⦄ := by
  have spec1 := @surfaceOfTensor_adds
  have spec2 := @clTensor_maps
  mvcgen [vaapiToOpenCl, keeping, owning, -vaapiToOpenCl_spec, -Act.tensor_spec, tensor_adds,
    -surfaceOfTensor_spec, spec1, -Device.shareSurface_spec, Device.shareSurface_adds,
    -clTensor_spec, spec2, -Act.release_spec, release_adds] <;> clear spec1 spec2
  all_goals grind

theorem openClToCpu_maps (dv output src : Ref) :
    ⦃fun w => ⌜w₀.Adds w⌝⦄ openClToCpu dv output src
    ⦃post⟨fun r w => ⌜w₀.Adds w ∧ w.MappedFrom r .cpu output src⌝,
      fun _ w => ⌜w₀.Adds w⌝⟩⦄ := by
  have spec1 := @bufferPointer_adds
  have spec2 := @mapped_adds
  mvcgen [openClToCpu, owning, -openClToCpu_spec, -Act.tensor_spec, tensor_adds,
    -Tensor.handleOf_spec, Tensor.handleOf_adds, -Device.clBufferOf_spec, Device.clBufferOf_adds,
    -Device.call_spec, Device.call_adds, -Act.clBuffer_spec, clBuffer_adds,
    -bufferPointer_spec, spec1, -Act.release_spec, release_adds, -mapped_spec,
    spec2, -TensorSpec.build_spec, TensorSpec.build_adds] <;> clear spec1 spec2
  all_goals grind [MappedFrom, TensorSpec.Built]

theorem cpuToOpenCl_maps (dv output src : Ref) :
    ⦃fun w => ⌜w₀.Adds w⌝⦄ cpuToOpenCl dv output src
    ⦃post⟨fun r w => ⌜w₀.Adds w ∧ w.MappedFrom r .openCl output src⌝,
      fun _ w => ⌜w₀.Adds w⌝⟩⦄ := by
  have spec1 := @memoryOwner_adds
  have spec2 := @clTensor_maps
  mvcgen [cpuToOpenCl, -cpuToOpenCl_spec, -Act.tensor_spec, tensor_adds, -Act.lift_spec,
    lift_adds, -memoryOwner_spec, spec1, -Device.clBufferOnHost_spec,
    Device.clBufferOnHost_adds, -clTensor_spec, spec2] <;> clear spec1 spec2
  all_goals grind

theorem dmaToUsm_maps (dv output src : Ref) :
    ⦃fun w => ⌜w₀.Adds w⌝⦄ dmaToUsm dv output src
    ⦃post⟨fun r w => ⌜w₀.Adds w ∧ w.MappedFrom r .levelZero output src⌝,
      fun _ w => ⌜w₀.Adds w⌝⟩⦄ := by
  have spec1 := @importOfTensor_adds
  have spec2 := @mapped_adds
  mvcgen [dmaToUsm, owning, -dmaToUsm_spec, -Act.tensor_spec, tensor_adds,
    -importOfTensor_spec, spec1, -Device.call_spec, Device.call_adds,
    -Device.pointerAt_spec, Device.pointerAt_adds, -Act.release_spec, release_adds,
    -mapped_spec, spec2, -TensorSpec.build_spec, TensorSpec.build_adds] <;> clear spec1 spec2
  all_goals grind [MappedFrom, TensorSpec.Built]

theorem usmToCpu_maps (dv output src : Ref) :
    ⦃fun w => ⌜w₀.Adds w⌝⦄ usmToCpu dv output src
    ⦃post⟨fun r w => ⌜w₀.Adds w ∧ w.MappedFrom r .cpu output src⌝,
      fun _ w => ⌜w₀.Adds w⌝⟩⦄ := by
  have spec1 := @memoryOwner_adds
  have spec2 := @mapped_adds
  mvcgen [usmToCpu, -usmToCpu_spec, -Device.synchronize_spec, Device.synchronize_adds,
    -Act.tensor_spec, tensor_adds, -Act.lift_spec, lift_adds, -memoryOwner_spec,
    spec1, -mapped_spec, spec2, -TensorSpec.build_spec, TensorSpec.build_adds] <;> clear spec1 spec2
  all_goals grind [MappedFrom, TensorSpec.Built]

theorem cpuToOpenVino_maps (output src : Ref) :
    ⦃fun w => ⌜w₀.Adds w⌝⦄ cpuToOpenVino output src
    ⦃post⟨fun r w => ⌜w₀.Adds w ∧ w.MappedFrom r .openVino output src⌝,
      fun _ w => ⌜w₀.Adds w⌝⟩⦄ := by
  have spec1 := @runtimeSpec_adds
  have spec2 := @memoryOwner_adds
  mvcgen [cpuToOpenVino, -cpuToOpenVino_spec, -Act.tensor_spec, tensor_adds, -Act.lift_spec,
    lift_adds, -runtimeSpec_spec, spec1, -memoryOwner_spec, spec2,
    -TensorSpec.build_spec, TensorSpec.build_adds] <;> clear spec1 spec2
  all_goals grind [MappedFrom, TensorSpec.Built]

theorem remotePointer_adds (device : Option Ref) (src : Ref) :
    ⦃fun w => ⌜w₀.Adds w⌝⦄ remotePointer device src ⦃World.Added w₀⦄ := by
  have spec1 := @bufferPointer_adds
  have spec2 := @surfaceOfTensor_adds
  have spec3 := @waitMemory_adds
  mvcgen [remotePointer, keeping, owning, -remotePointer_spec, -Act.tensor_spec, tensor_adds,
    -Device.clBufferOf_spec, Device.clBufferOf_adds, -Device.call_spec, Device.call_adds,
    -Act.clBuffer_spec, clBuffer_adds, -bufferPointer_spec, spec1,
    -surfaceOfTensor_spec, spec2, -Act.surface_spec, surface_adds,
    -waitMemory_spec, spec3, -Device.pointerAt_spec, Device.pointerAt_adds,
    -Act.retain_spec, retain_adds, -Act.release_spec, release_adds] <;> clear spec1 spec2 spec3
  all_goals grind

theorem openVinoToCpu_maps (device : Option Ref) (output src : Ref) :
    ⦃fun w => ⌜w₀.Adds w⌝⦄ openVinoToCpu device output src
    ⦃post⟨fun r w => ⌜w₀.Adds w ∧ w.MappedFrom r .cpu output src⌝,
      fun _ w => ⌜w₀.Adds w⌝⟩⦄ := by
  have spec1 := @memoryOwner_adds
  have spec2 := @remotePointer_adds
  have spec3 := @mapped_adds
  mvcgen [openVinoToCpu, -openVinoToCpu_spec, -Act.tensor_spec, tensor_adds,
    -memoryOwner_spec, spec1, -remotePointer_spec, spec2,
    -mapped_spec, spec3, -TensorSpec.build_spec, TensorSpec.build_adds] <;> clear spec1 spec2 spec3
  all_goals grind [MappedFrom, TensorSpec.Built]

theorem openClToOpenVino_maps (dv output src : Ref) :
    ⦃fun w => ⌜w₀.Adds w⌝⦄ openClToOpenVino dv output src
    ⦃post⟨fun r w => ⌜w₀.Adds w ∧ w.MappedFrom r .openVino output src⌝,
      fun _ w => ⌜w₀.Adds w⌝⟩⦄ := by
  have spec1 := @runtimeSpec_adds
  mvcgen [openClToOpenVino, -openClToOpenVino_spec, -Act.tensor_spec, tensor_adds,
    -Tensor.handleOf_spec, Tensor.handleOf_adds, -Device.clBufferOf_spec, Device.clBufferOf_adds,
    -runtimeSpec_spec, spec1, -TensorSpec.build_spec, TensorSpec.build_adds] <;> clear spec1
  all_goals grind [MappedFrom, TensorSpec.Built]

theorem vaapiToOpenVino_maps (dv output src : Ref) :
    ⦃fun w => ⌜w₀.Adds w⌝⦄ vaapiToOpenVino dv output src
    ⦃post⟨fun r w => ⌜w₀.Adds w ∧ w.MappedFrom r .openVino output src⌝,
      fun _ w => ⌜w₀.Adds w⌝⟩⦄ := by
  have spec1 := @runtimeSpec_adds
  mvcgen [vaapiToOpenVino, -vaapiToOpenVino_spec, -Act.tensor_spec, tensor_adds,
    -Tensor.handleOf_spec, Tensor.handleOf_adds, -Device.surfaceOf_spec, Device.surfaceOf_adds,
    -runtimeSpec_spec, spec1, -TensorSpec.build_spec, TensorSpec.build_adds] <;> clear spec1
  all_goals grind [MappedFrom, TensorSpec.Built]

theorem routeTensor_maps (route : Route) (input output : Ref) (device : Option Ref) (src : Ref) :
    ⦃fun w => ⌜w₀.Adds w⌝⦄ routeTensor route input output device src
    ⦃post⟨fun r w => ⌜w₀.Adds w ∧ w.MappedFrom r route.ends.2 output src⌝,
      fun _ w => ⌜w₀.Adds w⌝⟩⦄ := by
  have spec1 := @expectKind_adds
  have spec2 := @dmaToCpu_maps
  have spec3 := @vaapiToCpu_maps
  have spec4 := @cpuToVaapi_maps
  have spec5 := @vaapiToDma_maps
  have spec6 := @dmaToVaapi_maps
  have spec7 := @dmaToOpenCl_maps
  have spec8 := @vaapiToOpenCl_maps
  have spec9 := @openClToCpu_maps
  have spec10 := @cpuToOpenCl_maps
  have spec11 := @dmaToUsm_maps
  have spec12 := @usmToCpu_maps
  have spec13 := @cpuToOpenVino_maps
  have spec14 := @openVinoToCpu_maps
  have spec15 := @openClToOpenVino_maps
  have spec16 := @vaapiToOpenVino_maps
  mvcgen [routeTensor, -routeTensor_spec, -Context.kindOf_spec, Context.kindOf_adds,
    -Act.tensor_spec, tensor_adds, -expectKind_spec, spec1, -Act.broken_spec, broken_adds,
    -dmaToCpu_spec, spec2, -vaapiToCpu_spec, spec3, -cpuToVaapi_spec, spec4, -vaapiToDma_spec,
    spec5, -dmaToVaapi_spec, spec6, -dmaToOpenCl_spec, spec7, -vaapiToOpenCl_spec, spec8,
    -openClToCpu_spec, spec9, -cpuToOpenCl_spec, spec10, -dmaToUsm_spec, spec11, -usmToCpu_spec,
    spec12, -cpuToOpenVino_spec, spec13, -openVinoToCpu_spec, spec14, -openClToOpenVino_spec,
    spec15, -vaapiToOpenVino_spec, spec16] <;>
    clear spec1 spec2 spec3 spec4 spec5 spec6 spec7 spec8 spec9 spec10 spec11 spec12 spec13 spec14 spec15 spec16
  all_goals grind [Route.ends]

theorem withParent_sets {w₁ : World} (g src : Ref) :
    ⦃fun w => ⌜w = w₁ ∧ src < g ∧ w₁.sortAt src = some .frame ∧
      ∃ f, w₁.bodyAt g = some (.frame f) ∧ f.parent = none⌝⦄
    withParent g src
    ⦃post⟨fun r w => ⌜r = g ∧ (∀ w₀ : World, w₀.Adds w₁ → w₀.nodes.size ≤ g → w₀.Adds w) ∧
        ∀ kind o, w₁.FrameIn g kind o → w.FrameFrom g kind o src⌝,
      fun _ w => ⌜w₁.Adds w⌝⟩⦄ := by
  mvcgen [withParent, owning, Frame.setParent, -withParent_spec, -Act.retain_spec, retain_bumps,
    -Frame.inLineage_spec, Frame.inLineage_reads, -Act.release_spec, release_adds,
    -Act.frame_spec, frame_reads, -Act.modifyFrame_spec, modifyFrame_sets]
  all_goals grind [bodyAt_setStrong, Adds.setStrong, Adds.trans_setFrameParent,
    FrameFrom.of_parented]

theorem perTensor_maps (inputKind : MemoryKind) (mapOne : Ref → Act Ref) (src : Ref)
    {kind : MemoryKind} {o : Ref}
    (hmap : ∀ t (w₀ : World), ⦃fun w => ⌜w₀.Adds w⌝⦄ mapOne t
      ⦃post⟨fun r w => ⌜w₀.Adds w ∧ w.TensorIn r kind o⌝, fun _ w => ⌜w₀.Adds w⌝⟩⦄) :
    ⦃fun w => ⌜w₀.Adds w⌝⦄ perTensor inputKind mapOne src
    ⦃post⟨fun g w => ⌜w₀.Adds w ∧ w.FrameFrom g kind o src⌝, fun _ w => ⌜w₀.Adds w⌝⟩⦄ := by
  have hmade (ts : List Ref) (w₁ : World) := @collect_in w₁ _ kind o ts mapOne hmap
  have spec1 := @expectKind_adds
  have spec2 := @withParent_sets
  mvcgen [perTensor, -perTensor_spec, -Act.frame_spec, frame_adds, -expectKind_spec,
    spec1, -Act.collect_spec, hmade, -Frame.make_spec, Frame.make_adds,
    -withParent_spec, spec2] <;> clear spec1 spec2
  all_goals grind [→ lt_size_of_bodyAt, FrameIn.of_made, Frame.Made]

theorem surfaceFrame_makes (output s : Ref) :
    ⦃fun w => ⌜w₀.Adds w⌝⦄ surfaceFrame output s
    ⦃post⟨fun g w => ⌜w₀.Adds w ∧ w₀.nodes.size ≤ g ∧ w.FrameIn g .vaapi output ∧
        ∃ f, w.bodyAt g = some (.frame f) ∧ f.parent = none⌝,
      fun _ w => ⌜w₀.Adds w⌝⟩⦄ := by
  have hmade (w₁ : World) := @collect_in w₁ (Plane × Nat) .vaapi output
  mvcgen [surfaceFrame, keeping, owning, -surfaceFrame_spec, -Act.surface_spec, surface_adds,
    -Act.collect_spec, hmade, -Act.lift_spec, lift_adds, -Act.retain_spec, retain_adds,
    -TensorSpec.build_spec, TensorSpec.build_adds, -Frame.make_spec, Frame.make_adds,
    -Act.release_spec, release_adds]
  all_goals grind [FrameIn.of_made_adds, Frame.Made, TensorIn, TensorSpec.Built]

theorem cpuToVaapiFrame_maps (dv output src : Ref) (fmt : ImageFormat) :
    ⦃fun w => ⌜w₀.Adds w⌝⦄ cpuToVaapiFrame dv output src fmt
    ⦃post⟨fun g w => ⌜w₀.Adds w ∧ w.FrameFrom g .vaapi output src⌝,
      fun _ w => ⌜w₀.Adds w⌝⟩⦄ := by
  have spec1 := @surfaceFrame_makes
  have spec2 := @withParent_sets
  mvcgen [cpuToVaapiFrame, owning_adds, -cpuToVaapiFrame_spec, -Act.frame_spec, frame_adds,
    -Frame.tensorAt_spec, Frame.tensorAt_adds, -Act.tensor_spec, tensor_adds, -Act.lift_spec,
    lift_adds, -Device.createSurface_spec, Device.createSurface_adds, -Act.surface_spec,
    surface_adds, -Tensor.readBytes_spec, Tensor.readBytes_adds, -Device.pointerAt_spec,
    Device.pointerAt_adds, -Tensor.writeAt_spec, Tensor.writeAt_adds, -Device.recordCopy_spec,
    Device.recordCopy_adds, -Act.release_spec, release_adds, -surfaceFrame_spec,
    spec1, -withParent_spec, spec2] <;> clear spec1 spec2
  -- the upload loop runs inside the surface's guard, whose start world it only adds to
  case inv1 => rename_i w₁ _ _ _ _ _; exact World.Added w₁
  all_goals grind [→ lt_size_of_bodyAt]

theorem singleSurface_adds (dv src : Ref) :
    ⦃fun w => ⌜w₀.Adds w⌝⦄ singleSurface dv src ⦃World.Added w₀⦄ := by
  mvcgen [singleSurface, -singleSurface_spec, -Act.frame_spec, frame_adds,
    -Frame.tensorAt_spec, Frame.tensorAt_adds, -Tensor.handleOf_spec, Tensor.handleOf_adds,
    -Device.surfaceOf_spec, Device.surfaceOf_adds]
  case inv1 => exact World.Added w₀
  all_goals grind

theorem vaapiToDmaFrame_maps (dv output src s : Ref) :
    ⦃fun w => ⌜w₀.Adds w⌝⦄ vaapiToDmaFrame dv output src s
    ⦃post⟨fun g w => ⌜w₀.Adds w ∧ w.FrameFrom g .dma output src⌝,
      fun _ w => ⌜w₀.Adds w⌝⟩⦄ := by
  have hmade (w₁ : World) := @collect_in w₁ (Ref × Nat) .dma output
  have spec1 := @exportSurface_adds
  have spec2 := @dmaTensor_maps
  have spec3 := @withParent_sets
  mvcgen [vaapiToDmaFrame, keeping, owning, -vaapiToDmaFrame_spec, -Act.frame_spec, frame_adds,
    -exportSurface_spec, spec1, -Act.collect_spec, hmade, -Act.tensor_spec,
    tensor_adds, -Act.retain_spec, retain_adds, -dmaTensor_spec, spec2,
    -Frame.make_spec, Frame.make_adds, -withParent_spec, spec3, -Act.release_spec,
    release_adds] <;> clear spec1 spec2 spec3
  all_goals grind [→ lt_size_of_bodyAt, FrameIn.of_made, Frame.Made, MappedFrom.tensorIn]

theorem dmaToVaapiFrame_maps (dv output src : Ref) (mapOne : Ref → Act Ref)
    (hmap : ∀ t (w₀ : World), ⦃fun w => ⌜w₀.Adds w⌝⦄ mapOne t
      ⦃post⟨fun r w => ⌜w₀.Adds w ∧ w.TensorIn r .vaapi output⌝, fun _ w => ⌜w₀.Adds w⌝⟩⦄) :
    ⦃fun w => ⌜w₀.Adds w⌝⦄ dmaToVaapiFrame dv output src mapOne
    ⦃post⟨fun g w => ⌜w₀.Adds w ∧ w.FrameFrom g .vaapi output src⌝,
      fun _ w => ⌜w₀.Adds w⌝⟩⦄ := by
  have hper (w₁ : World) := @perTensor_maps w₁ .dma mapOne src .vaapi output hmap
  have spec1 := @surfaceFrame_makes
  have spec2 := @withParent_sets
  mvcgen [dmaToVaapiFrame, -dmaToVaapiFrame_spec, -Act.frame_spec, frame_adds,
    -Frame.tensorAt_spec, Frame.tensorAt_adds, -Tensor.handleOf_spec, Tensor.handleOf_adds,
    -Act.tensor_spec, tensor_adds, -perTensor_spec, hper, -Act.lift_spec, lift_adds,
    -Device.importFd_spec, Device.importFd_adds, -Device.importSurface_spec,
    Device.importSurface_adds, -surfaceFrame_spec, spec1, -withParent_spec,
    spec2] <;> clear spec1 spec2
  -- both loops only read, each from the world it starts in
  case inv1 => rename_i s₁ _; exact post⟨fun _ w => ⌜s₁.Adds w⌝, fun _ w => ⌜w₀.Adds w⌝⟩
  case inv2 => rename_i s₁ _; exact post⟨fun _ w => ⌜s₁.Adds w⌝, fun _ w => ⌜w₀.Adds w⌝⟩
  all_goals grind [→ lt_size_of_bodyAt]

theorem cpuToOpenVinoImage_maps (output src : Ref) :
    ⦃fun w => ⌜w₀.Adds w⌝⦄ cpuToOpenVinoImage output src
    ⦃post⟨fun g w => ⌜w₀.Adds w ∧ w.FrameFrom g .openVino output src⌝,
      fun _ w => ⌜w₀.Adds w⌝⟩⦄ := by
  have spec1 := @runtimeSpec_adds
  have spec2 := @memoryOwner_adds
  have spec3 := @withParent_sets
  mvcgen [cpuToOpenVinoImage, -cpuToOpenVinoImage_spec, -Act.frame_spec, frame_adds,
    -Frame.tensorAt_spec, Frame.tensorAt_adds, -Act.tensor_spec, tensor_adds, -Act.lift_spec,
    lift_adds, -runtimeSpec_spec, spec1, -memoryOwner_spec, spec2,
    -TensorSpec.build_spec, TensorSpec.build_adds, -Frame.make_spec, Frame.make_adds,
    -withParent_spec, spec3] <;> clear spec1 spec2 spec3
  all_goals grind [→ lt_size_of_bodyAt, FrameIn.of_made, Frame.Made, TensorIn,
    TensorSpec.Built, List.head?_cons]

theorem routeFrame_maps (route : Route) (input output : Ref) (device : Option Ref) (src : Ref) :
    ⦃fun w => ⌜w₀.Adds w⌝⦄ routeFrame route input output device src
    ⦃post⟨fun g w => ⌜w₀.Adds w ∧ w.FrameFrom g route.ends.2 output src⌝,
      fun _ w => ⌜w₀.Adds w⌝⟩⦄ := by
  have hone (t : Ref) (w₁ : World) :
      ⦃fun w => ⌜w₁.Adds w⌝⦄ routeTensor route input output device t
      ⦃post⟨fun r w => ⌜w₁.Adds w ∧ w.TensorIn r route.ends.2 output⌝,
        fun _ w => ⌜w₁.Adds w⌝⟩⦄ := by
    have spec1 := @routeTensor_maps
    mvcgen [-routeTensor_spec, spec1] <;> clear spec1 <;> grind [MappedFrom.tensorIn]
  have hper (ik : MemoryKind) (w₁ : World) := @perTensor_maps w₁ ik _ src _ _ hone
  -- the frame overrides are the routes with a target kind of their own
  cases route <;> simp only [Route.ends] at hone hper ⊢
  case dmaToVaapi =>
    have hdv (dv : Ref) (w₁ : World) := @dmaToVaapiFrame_maps w₁ dv output src _ hone
    have spec1 := @expectKind_adds
    mvcgen [routeFrame, -routeFrame_spec, -Context.kindOf_spec, Context.kindOf_adds,
      -Act.frame_spec, frame_adds, -expectKind_spec, spec1, -Act.broken_spec,
      broken_adds, -dmaToVaapiFrame_spec, hdv] <;> clear spec1 <;> grind
  all_goals
    mvcgen -trivial [routeFrame, -routeFrame_spec, -Context.kindOf_spec, Context.kindOf_adds,
      -Act.frame_spec, frame_adds, -expectKind_spec, expectKind_adds, -Act.broken_spec,
      broken_adds, -perTensor_spec, hper, -cpuToVaapiFrame_spec, cpuToVaapiFrame_maps,
      -singleSurface_spec, singleSurface_adds, -vaapiToDmaFrame_spec, vaapiToDmaFrame_maps,
      -cpuToOpenVinoImage_spec, cpuToOpenVinoImage_maps]
    all_goals grind

end Mapper

end MemBridge
