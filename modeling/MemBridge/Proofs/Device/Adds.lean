import MemBridge.Proofs.Store.Adds

/-!
Devices only add objects.

What a device hands out (allocations, surfaces, descriptors, compute buffers) is a new object
linked to no parent, and the rest of what it does changes its own counts and tables, counted
calls and fence waits. So every operation of a device only adds to the world, whether it
succeeds or fails.
-/

namespace MemBridge

open Std.Do

set_option mvcgen.warning false

-- A lemma of this module reaches `mvcgen` through a `have` (`specN`): named in the list, it would
-- make the proof wait until that lemma's own proof is checked. Where `grind` or `simp_all`
-- follows, the binding is cleared first, so that they do not take it up as a hypothesis.

variable {w₀ : World}

namespace Device

open Act World

theorem nextHandleOf_adds (dv : Ref) :
    ⦃fun w => ⌜w₀.Adds w⌝⦄ nextHandleOf dv ⦃World.Added w₀⦄ := by
  mvcgen [nextHandleOf, -nextHandleOf_spec, -Act.device_spec, device_adds,
    -Act.modifyDevice_spec, modifyDevice_adds] <;> grind

theorem call_adds (dv : Ref) (backend : MemoryKind) (name : String) :
    ⦃fun w => ⌜w₀.Adds w⌝⦄ call dv backend name ⦃World.Added w₀⦄ := by
  mvcgen [call, -call_spec, -Act.device_spec, device_adds, -Act.modifyDevice_spec,
    modifyDevice_adds] <;> grind

theorem allocate_adds (dv : Ref) (backend : MemoryKind) (size : Nat) :
    ⦃fun w => ⌜w₀.Adds w⌝⦄ allocate dv backend size ⦃World.Added w₀⦄ := by
  mvcgen [allocate, -allocate_spec, -Act.device_spec, device_adds, -Act.hostAlloc_spec,
    hostAlloc_adds, -Act.modifyDevice_spec, modifyDevice_adds, -Act.create_spec,
    create_adds] <;> grind

theorem pointerAt_adds (mr : Ref) (offset len : Nat) :
    ⦃fun w => ⌜w₀.Adds w⌝⦄ pointerAt mr offset len ⦃World.Added w₀⦄ := by
  mvcgen [pointerAt, pointerAt.outside, -pointerAt_spec, -Act.allocation_spec,
    allocation_adds] <;> grind

theorem registerSurface_adds (dv : Ref) (format : Option ImageFormat) (width height : Nat)
    (planes : List Plane) (memory : Ref) :
    ⦃fun w => ⌜w₀.Adds w⌝⦄ registerSurface dv format width height planes memory
    ⦃World.Added w₀⦄ := by
  have spec1 := @nextHandleOf_adds
  mvcgen [registerSurface, -registerSurface_spec, -nextHandleOf_spec, spec1,
    -Act.create_spec, create_adds, -Act.device_spec, device_adds, -Act.alive_spec, alive_adds,
    -Act.modifyDevice_spec, modifyDevice_adds] <;> clear spec1
  case inv1 => exact World.Added w₀
  all_goals grind

theorem createSurface_adds (dv : Ref) (format : ImageFormat) (width height : Nat) :
    ⦃fun w => ⌜w₀.Adds w⌝⦄ createSurface dv format width height ⦃World.Added w₀⦄ := by
  have spec1 := @call_adds
  have spec2 := @allocate_adds
  have spec3 := @registerSurface_adds
  mvcgen [createSurface, -createSurface_spec, -call_spec, spec1, -Act.device_spec,
    device_adds, -Act.lift_spec, lift_adds, -allocate_spec, spec2,
    -registerSurface_spec, spec3] <;> clear spec1 spec2 spec3 <;> grind

theorem createLinearSurface_adds (dv : Ref) (len : Nat) :
    ⦃fun w => ⌜w₀.Adds w⌝⦄ createLinearSurface dv len ⦃World.Added w₀⦄ := by
  have spec1 := @call_adds
  have spec2 := @allocate_adds
  have spec3 := @registerSurface_adds
  mvcgen [createLinearSurface, -createLinearSurface_spec, -call_spec, spec1,
    -allocate_spec, spec2, -registerSurface_spec, spec3] <;> clear spec1 spec2 spec3 <;> grind

theorem importSurface_adds (dv memory : Ref) (format : Option ImageFormat)
    (width height : Nat) (planes : List Plane) :
    ⦃fun w => ⌜w₀.Adds w⌝⦄ importSurface dv memory format width height planes
    ⦃World.Added w₀⦄ := by
  apply owning_adds
  intro w₁
  have spec1 := @call_adds
  have spec2 := @pointerAt_adds
  have spec3 := @registerSurface_adds
  mvcgen [-call_spec, spec1, -pointerAt_spec, spec2, -Act.lift_spec, lift_adds,
    -registerSurface_spec, spec3] <;> clear spec1 spec2 spec3
  case inv1 => exact World.Added w₁
  all_goals grind

theorem surfaceOf_adds (dv : Ref) (id : Int) :
    ⦃fun w => ⌜w₀.Adds w⌝⦄ surfaceOf dv id ⦃World.Added w₀⦄ := by
  mvcgen [surfaceOf, -surfaceOf_spec, -Act.device_spec, device_adds, -Act.alive_spec,
    alive_adds, -Act.retain_spec, retain_adds] <;> grind

theorem exportFd_adds (dv memory : Ref) :
    ⦃fun w => ⌜w₀.Adds w⌝⦄ exportFd dv memory ⦃World.Added w₀⦄ := by
  have spec1 := @nextHandleOf_adds
  mvcgen [exportFd, -exportFd_spec, -nextHandleOf_spec, spec1, -Act.retain_spec,
    retain_adds, -Act.modifyDevice_spec, modifyDevice_adds, -Act.create_spec,
    create_adds] <;> clear spec1 <;> grind

theorem importFd_adds (dv : Ref) (backend : MemoryKind) (fd : Int) :
    ⦃fun w => ⌜w₀.Adds w⌝⦄ importFd dv backend fd ⦃World.Added w₀⦄ := by
  mvcgen [importFd, -importFd_spec, -Act.device_spec, device_adds, -Act.retain_spec,
    retain_adds] <;> grind

theorem registerClBuffer_adds (dv : Ref) (ptr : Addr) (len : Nat) (owner : Ref)
    (acquired : Option Int) :
    ⦃fun w => ⌜w₀.Adds w⌝⦄ registerClBuffer dv ptr len owner acquired ⦃World.Added w₀⦄ := by
  have spec1 := @nextHandleOf_adds
  mvcgen [registerClBuffer, -registerClBuffer_spec, -nextHandleOf_spec, spec1, -Act.retain_spec,
    retain_adds, -Act.create_spec, create_adds, -Act.device_spec, device_adds, -Act.alive_spec,
    alive_adds, -Act.modifyDevice_spec, modifyDevice_adds] <;> clear spec1
  case inv1 => exact World.Added w₀
  all_goals grind

theorem clBufferOnAllocation_adds (dv memory : Ref) (offset len : Nat) :
    ⦃fun w => ⌜w₀.Adds w⌝⦄ clBufferOnAllocation dv memory offset len ⦃World.Added w₀⦄ := by
  have spec1 := @call_adds
  have spec2 := @pointerAt_adds
  have spec3 := @registerClBuffer_adds
  mvcgen [clBufferOnAllocation, owning, -clBufferOnAllocation_spec, -call_spec, spec1,
    -pointerAt_spec, spec2, -registerClBuffer_spec, spec3,
    -Act.release_spec, release_adds] <;> clear spec1 spec2 spec3 <;> grind

theorem clBufferOnHost_adds (dv : Ref) (ptr : Addr) (owner : Ref) (len : Nat) :
    ⦃fun w => ⌜w₀.Adds w⌝⦄ clBufferOnHost dv ptr owner len ⦃World.Added w₀⦄ := by
  have spec1 := @call_adds
  have spec2 := @registerClBuffer_adds
  mvcgen [clBufferOnHost, owning, -clBufferOnHost_spec, -call_spec, spec1,
    -registerClBuffer_spec, spec2, -Act.release_spec, release_adds] <;> clear spec1 spec2 <;> grind

theorem shareSurface_adds (dv sr : Ref) (offset len : Nat) :
    ⦃fun w => ⌜w₀.Adds w⌝⦄ shareSurface dv sr offset len ⦃World.Added w₀⦄ := by
  have spec1 := @call_adds
  have spec2 := @pointerAt_adds
  have spec3 := @registerClBuffer_adds
  mvcgen [shareSurface, -shareSurface_spec, -call_spec, spec1, -Act.surface_spec, surface_adds,
    -pointerAt_spec, spec2, -Act.modifyDevice_spec, modifyDevice_adds, -Act.retain_spec,
    retain_adds, -registerClBuffer_spec, spec3] <;> clear spec1 spec2 spec3 <;> grind

theorem clBufferOf_adds (dv : Ref) (id : Int) :
    ⦃fun w => ⌜w₀.Adds w⌝⦄ clBufferOf dv id ⦃World.Added w₀⦄ := by
  mvcgen [clBufferOf, -clBufferOf_spec, -Act.device_spec, device_adds, -Act.alive_spec,
    alive_adds, -Act.retain_spec, retain_adds] <;> grind

theorem synchronize_adds (dv : Ref) :
    ⦃fun w => ⌜w₀.Adds w⌝⦄ synchronize dv ⦃World.Added w₀⦄ := by
  mvcgen [synchronize, -synchronize_spec, -Act.device_spec, device_adds, -Act.lift_spec,
    lift_adds] <;> grind

theorem recordCopy_adds (dv : Ref) (mapper : String) (input output : MemoryKind)
    (bytes : Nat) :
    ⦃fun w => ⌜w₀.Adds w⌝⦄ recordCopy dv mapper input output bytes ⦃World.Added w₀⦄ := by
  mvcgen [recordCopy, -recordCopy_spec, -Act.device_spec, device_adds, -Act.modifyDevice_spec,
    modifyDevice_adds] <;> grind

end Device

end MemBridge
