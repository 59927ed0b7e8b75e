import MemBridge.Proofs.Tensor.Extends
import MemBridge.Mapper.Run

/-!
Direct routes keep the world extending.

A route reads its source, asks the device for what it maps into, and builds new tensors and
frames over it: none of that is a mapper, and no mapper changes. So every route, for tensors
and for frames, leaves a world extending the one it started from, whether it succeeds or
fails.
-/

namespace MemBridge

open Std.Do

set_option mvcgen.warning false

variable {w₀ : World}

namespace Mapper

open Act

@[spec] theorem expectKind_spec (expected actual : MemoryKind) :
    ⦃fun w => ⌜w₀.Extends 0 w⌝⦄ expectKind expected actual ⦃World.Grown w₀⦄ := by
  mvcgen [expectKind]

@[spec] theorem depth_spec :
    ⦃fun w => ⌜w₀.Extends 0 w⌝⦄ depth ⦃World.Grown w₀⦄ := by
  mvcgen [depth]

@[spec] theorem outputOf_spec (r : Ref) (fuel : Nat) :
    ⦃fun w => ⌜w₀.Extends 0 w⌝⦄ outputOf r fuel ⦃World.Grown w₀⦄ := by
  induction fuel generalizing r with
  | zero => mvcgen [outputOf] <;> grind
  | succ fuel ih => mvcgen [outputOf, ih] <;> grind

@[spec] theorem output_spec (r : Ref) :
    ⦃fun w => ⌜w₀.Extends 0 w⌝⦄ output r ⦃World.Grown w₀⦄ := by
  mvcgen [output] <;> grind

@[spec] theorem memoryOwner_spec (src : Ref) :
    ⦃fun w => ⌜w₀.Extends 0 w⌝⦄ memoryOwner src ⦃World.Grown w₀⦄ := by
  have go (fuel : Nat) : ∀ cursor (w₀ : World),
      ⦃fun w => ⌜w₀.Extends 0 w⌝⦄ memoryOwner.go src cursor fuel ⦃World.Grown w₀⦄ := by
    induction fuel with
    | zero => intro cursor w₀; mvcgen [memoryOwner.go] <;> grind
    | succ fuel ih => intro cursor w₀; mvcgen [memoryOwner.go, ih] <;> grind
  mvcgen [memoryOwner, go]

@[spec] theorem mapped_spec (src : Ref) (kind : MemoryKind) (output : Ref) (layout : Layout) :
    ⦃fun w => ⌜w₀.Extends 0 w⌝⦄ mapped src kind output layout ⦃World.Grown w₀⦄ := by
  mvcgen [mapped] <;> grind

@[spec] theorem runtimeSpec_spec (src output : Ref) (layout : Layout) :
    ⦃fun w => ⌜w₀.Extends 0 w⌝⦄ runtimeSpec src output layout ⦃World.Grown w₀⦄ := by
  mvcgen [runtimeSpec] <;> grind

@[spec] theorem waitMemory_spec (dv memory : Ref) :
    ⦃fun w => ⌜w₀.Extends 0 w⌝⦄ waitMemory dv memory ⦃World.Grown w₀⦄ := by
  mvcgen [waitMemory] <;> grind

@[spec] theorem surfaceOfTensor_spec (dv src : Ref) :
    ⦃fun w => ⌜w₀.Extends 0 w⌝⦄ surfaceOfTensor dv src ⦃World.Grown w₀⦄ := by
  mvcgen [surfaceOfTensor] <;> grind

@[spec] theorem importOfTensor_spec (dv : Ref) (backend : MemoryKind) (src : Ref) :
    ⦃fun w => ⌜w₀.Extends 0 w⌝⦄ importOfTensor dv backend src ⦃World.Grown w₀⦄ := by
  mvcgen [importOfTensor] <;> grind

@[spec] theorem withParent_spec (g src : Ref) :
    ⦃fun w => ⌜w₀.Extends 0 w⌝⦄ withParent g src ⦃World.Grown w₀⦄ := by
  mvcgen [withParent, owning] <;> grind

@[spec] theorem surfaceFrame_spec (output s : Ref) :
    ⦃fun w => ⌜w₀.Extends 0 w⌝⦄ surfaceFrame output s ⦃World.Grown w₀⦄ := by
  mvcgen [surfaceFrame, keeping, owning] <;> grind

@[spec] theorem perTensor_spec (inputKind : MemoryKind) (mapOne : Ref → Act Ref) (src : Ref)
    (hmap : ∀ x (w₀ : World), ⦃fun w => ⌜w₀.Extends 0 w⌝⦄ mapOne x ⦃World.Grown w₀⦄) :
    ⦃fun w => ⌜w₀.Extends 0 w⌝⦄ perTensor inputKind mapOne src ⦃World.Grown w₀⦄ := by
  mvcgen [perTensor, hmap] <;> grind

@[spec] theorem dmaToCpu_spec (dv output src : Ref) :
    ⦃fun w => ⌜w₀.Extends 0 w⌝⦄ dmaToCpu dv output src ⦃World.Grown w₀⦄ := by
  mvcgen [dmaToCpu, owning] <;> grind

@[spec] theorem vaapiToCpu_spec (dv output src : Ref) :
    ⦃fun w => ⌜w₀.Extends 0 w⌝⦄ vaapiToCpu dv output src ⦃World.Grown w₀⦄ := by
  mvcgen [vaapiToCpu, keeping, owning] <;> grind

@[spec] theorem cpuToVaapi_spec (dv output src : Ref) :
    ⦃fun w => ⌜w₀.Extends 0 w⌝⦄ cpuToVaapi dv output src ⦃World.Grown w₀⦄ := by
  mvcgen [cpuToVaapi, owning] <;> grind

@[spec] theorem cpuToVaapiFrame_spec (dv output src : Ref) (fmt : ImageFormat) :
    ⦃fun w => ⌜w₀.Extends 0 w⌝⦄ cpuToVaapiFrame dv output src fmt ⦃World.Grown w₀⦄ := by
  mvcgen [cpuToVaapiFrame, owning_spec]
  -- the upload loop runs inside `owning`, from the world the surface was made in
  case inv1 => rename_i w₁ _ _ _ _ _; exact World.Grown w₁
  all_goals grind

@[spec] theorem exportSurface_spec (dv s : Ref) :
    ⦃fun w => ⌜w₀.Extends 0 w⌝⦄ exportSurface dv s ⦃World.Grown w₀⦄ := by
  mvcgen [exportSurface] <;> grind

@[spec] theorem dmaTensor_spec (output src buf : Ref) (plane : Handle) :
    ⦃fun w => ⌜w₀.Extends 0 w⌝⦄ dmaTensor output src buf plane ⦃World.Grown w₀⦄ := by
  mvcgen [dmaTensor] <;> grind

@[spec] theorem vaapiToDma_spec (dv output src : Ref) :
    ⦃fun w => ⌜w₀.Extends 0 w⌝⦄ vaapiToDma dv output src ⦃World.Grown w₀⦄ := by
  mvcgen [vaapiToDma, keeping, owning] <;> grind

@[spec] theorem singleSurface_spec (dv src : Ref) :
    ⦃fun w => ⌜w₀.Extends 0 w⌝⦄ singleSurface dv src ⦃World.Grown w₀⦄ := by
  mvcgen [singleSurface]
  case inv1 => exact World.Grown w₀
  all_goals grind

@[spec] theorem vaapiToDmaFrame_spec (dv output src s : Ref) :
    ⦃fun w => ⌜w₀.Extends 0 w⌝⦄ vaapiToDmaFrame dv output src s ⦃World.Grown w₀⦄ := by
  mvcgen [vaapiToDmaFrame, keeping, owning] <;> grind

@[spec] theorem dmaToVaapi_spec (dv output src : Ref) :
    ⦃fun w => ⌜w₀.Extends 0 w⌝⦄ dmaToVaapi dv output src ⦃World.Grown w₀⦄ := by
  mvcgen [dmaToVaapi] <;> grind

@[spec] theorem dmaToVaapiFrame_spec (dv output src : Ref) (mapOne : Ref → Act Ref)
    (hmap : ∀ x (w₀ : World), ⦃fun w => ⌜w₀.Extends 0 w⌝⦄ mapOne x ⦃World.Grown w₀⦄) :
    ⦃fun w => ⌜w₀.Extends 0 w⌝⦄ dmaToVaapiFrame dv output src mapOne ⦃World.Grown w₀⦄ := by
  mvcgen [dmaToVaapiFrame, hmap]
  case inv1 => exact World.Grown w₀
  case inv2 => exact World.Grown w₀
  all_goals grind

@[spec] theorem clTensor_spec (output src buffer : Ref) :
    ⦃fun w => ⌜w₀.Extends 0 w⌝⦄ clTensor output src buffer ⦃World.Grown w₀⦄ := by
  mvcgen [clTensor] <;> grind

@[spec] theorem dmaToOpenCl_spec (dv output src : Ref) :
    ⦃fun w => ⌜w₀.Extends 0 w⌝⦄ dmaToOpenCl dv output src ⦃World.Grown w₀⦄ := by
  mvcgen [dmaToOpenCl, owning] <;> grind

@[spec] theorem vaapiToOpenCl_spec (dv output src : Ref) :
    ⦃fun w => ⌜w₀.Extends 0 w⌝⦄ vaapiToOpenCl dv output src ⦃World.Grown w₀⦄ := by
  mvcgen [vaapiToOpenCl, keeping, owning] <;> grind

@[spec] theorem bufferPointer_spec (b : ClBuffer) (t : Tensor) :
    ⦃fun w => ⌜w₀.Extends 0 w⌝⦄ bufferPointer b t ⦃World.Grown w₀⦄ := by
  -- the bounds test is a Boolean computed by a match, which `mvcgen` leaves unsplit
  unfold bufferPointer
  dsimp only
  split
  · split <;> mvcgen
  · mvcgen

@[spec] theorem openClToCpu_spec (dv output src : Ref) :
    ⦃fun w => ⌜w₀.Extends 0 w⌝⦄ openClToCpu dv output src ⦃World.Grown w₀⦄ := by
  mvcgen [openClToCpu, owning] <;> grind

@[spec] theorem cpuToOpenCl_spec (dv output src : Ref) :
    ⦃fun w => ⌜w₀.Extends 0 w⌝⦄ cpuToOpenCl dv output src ⦃World.Grown w₀⦄ := by
  mvcgen [cpuToOpenCl] <;> grind

@[spec] theorem dmaToUsm_spec (dv output src : Ref) :
    ⦃fun w => ⌜w₀.Extends 0 w⌝⦄ dmaToUsm dv output src ⦃World.Grown w₀⦄ := by
  mvcgen [dmaToUsm, owning] <;> grind

@[spec] theorem usmToCpu_spec (dv output src : Ref) :
    ⦃fun w => ⌜w₀.Extends 0 w⌝⦄ usmToCpu dv output src ⦃World.Grown w₀⦄ := by
  mvcgen [usmToCpu] <;> grind

@[spec] theorem cpuToOpenVino_spec (output src : Ref) :
    ⦃fun w => ⌜w₀.Extends 0 w⌝⦄ cpuToOpenVino output src ⦃World.Grown w₀⦄ := by
  mvcgen [cpuToOpenVino] <;> grind

@[spec] theorem cpuToOpenVinoImage_spec (output src : Ref) :
    ⦃fun w => ⌜w₀.Extends 0 w⌝⦄ cpuToOpenVinoImage output src ⦃World.Grown w₀⦄ := by
  mvcgen [cpuToOpenVinoImage] <;> grind

@[spec] theorem remotePointer_spec (device : Option Ref) (src : Ref) :
    ⦃fun w => ⌜w₀.Extends 0 w⌝⦄ remotePointer device src ⦃World.Grown w₀⦄ := by
  mvcgen [remotePointer, keeping, owning] <;> grind

@[spec] theorem openVinoToCpu_spec (device : Option Ref) (output src : Ref) :
    ⦃fun w => ⌜w₀.Extends 0 w⌝⦄ openVinoToCpu device output src ⦃World.Grown w₀⦄ := by
  mvcgen [openVinoToCpu] <;> grind

@[spec] theorem openClToOpenVino_spec (dv output src : Ref) :
    ⦃fun w => ⌜w₀.Extends 0 w⌝⦄ openClToOpenVino dv output src ⦃World.Grown w₀⦄ := by
  mvcgen [openClToOpenVino] <;> grind

@[spec] theorem vaapiToOpenVino_spec (dv output src : Ref) :
    ⦃fun w => ⌜w₀.Extends 0 w⌝⦄ vaapiToOpenVino dv output src ⦃World.Grown w₀⦄ := by
  mvcgen [vaapiToOpenVino] <;> grind

@[spec] theorem routeTensor_spec (route : Route) (input output : Ref) (device : Option Ref)
    (src : Ref) :
    ⦃fun w => ⌜w₀.Extends 0 w⌝⦄ routeTensor route input output device src ⦃World.Grown w₀⦄ := by
  mvcgen [routeTensor] <;> grind

@[spec] theorem routeFrame_spec (route : Route) (input output : Ref) (device : Option Ref)
    (src : Ref) :
    ⦃fun w => ⌜w₀.Extends 0 w⌝⦄ routeFrame route input output device src ⦃World.Grown w₀⦄ := by
  cases route <;> mvcgen -trivial [routeFrame] <;> grind

end Mapper

end MemBridge
