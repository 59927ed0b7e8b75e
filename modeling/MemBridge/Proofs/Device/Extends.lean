import MemBridge.Proofs.Store.Release
import MemBridge.Context.Session

/-!
Devices and contexts keep the world extending.

What a device hands out (allocations, surfaces, descriptors, compute buffers) is a new object
that is no mapper, and the rest of what it does changes its own counts and tables, counted
calls and fence waits. The sweeps of the surface and buffer tables only read counts. Reading a
context changes nothing.
-/

namespace MemBridge

open Std.Do

set_option mvcgen.warning false

variable {w₀ : World}

namespace Device

open Act

@[spec] theorem nextHandleOf_spec (dv : Ref) :
    ⦃fun w => ⌜w₀.Extends 0 w⌝⦄ nextHandleOf dv ⦃World.Grown w₀⦄ := by
  mvcgen [nextHandleOf] <;> grind

@[spec] theorem call_spec (dv : Ref) (backend : MemoryKind) (name : String) :
    ⦃fun w => ⌜w₀.Extends 0 w⌝⦄ call dv backend name ⦃World.Grown w₀⦄ := by
  mvcgen [call] <;> grind

@[spec] theorem allocate_spec (dv : Ref) (backend : MemoryKind) (size : Nat) :
    ⦃fun w => ⌜w₀.Extends 0 w⌝⦄ allocate dv backend size ⦃World.Grown w₀⦄ := by
  mvcgen [allocate] <;> grind [Body.variant]

@[spec] theorem pointerAt_spec (mr : Ref) (offset len : Nat) :
    ⦃fun w => ⌜w₀.Extends 0 w⌝⦄ pointerAt mr offset len ⦃World.Grown w₀⦄ := by
  mvcgen [pointerAt, pointerAt.outside] <;> grind

@[spec] theorem registerSurface_spec (dv : Ref) (format : Option ImageFormat)
    (width height : Nat) (planes : List Plane) (memory : Ref) :
    ⦃fun w => ⌜w₀.Extends 0 w⌝⦄ registerSurface dv format width height planes memory
    ⦃World.Grown w₀⦄ := by
  mvcgen [registerSurface]
  case inv1 => exact World.Grown w₀
  all_goals grind [Body.variant]

@[spec] theorem createSurface_spec (dv : Ref) (format : ImageFormat) (width height : Nat) :
    ⦃fun w => ⌜w₀.Extends 0 w⌝⦄ createSurface dv format width height ⦃World.Grown w₀⦄ := by
  mvcgen [createSurface] <;> grind

@[spec] theorem createLinearSurface_spec (dv : Ref) (len : Nat) :
    ⦃fun w => ⌜w₀.Extends 0 w⌝⦄ createLinearSurface dv len ⦃World.Grown w₀⦄ := by
  mvcgen [createLinearSurface] <;> grind

@[spec] theorem importSurface_spec (dv memory : Ref) (format : Option ImageFormat)
    (width height : Nat) (planes : List Plane) :
    ⦃fun w => ⌜w₀.Extends 0 w⌝⦄ importSurface dv memory format width height planes
    ⦃World.Grown w₀⦄ := by
  apply owning_spec
  intro w₁
  mvcgen
  case inv1 => exact World.Grown w₁
  all_goals grind

@[spec] theorem surfaceOf_spec (dv : Ref) (id : Int) :
    ⦃fun w => ⌜w₀.Extends 0 w⌝⦄ surfaceOf dv id ⦃World.Grown w₀⦄ := by
  mvcgen [surfaceOf] <;> grind

@[spec] theorem exportFd_spec (dv memory : Ref) :
    ⦃fun w => ⌜w₀.Extends 0 w⌝⦄ exportFd dv memory ⦃World.Grown w₀⦄ := by
  mvcgen [exportFd] <;> grind [Body.variant]

@[spec] theorem importFd_spec (dv : Ref) (backend : MemoryKind) (fd : Int) :
    ⦃fun w => ⌜w₀.Extends 0 w⌝⦄ importFd dv backend fd ⦃World.Grown w₀⦄ := by
  mvcgen [importFd] <;> grind

@[spec] theorem registerClBuffer_spec (dv : Ref) (ptr : Addr) (len : Nat) (owner : Ref)
    (acquired : Option Int) :
    ⦃fun w => ⌜w₀.Extends 0 w⌝⦄ registerClBuffer dv ptr len owner acquired
    ⦃World.Grown w₀⦄ := by
  mvcgen [registerClBuffer]
  case inv1 => exact World.Grown w₀
  all_goals grind [Body.variant]

@[spec] theorem clBufferOnAllocation_spec (dv memory : Ref) (offset len : Nat) :
    ⦃fun w => ⌜w₀.Extends 0 w⌝⦄ clBufferOnAllocation dv memory offset len ⦃World.Grown w₀⦄ := by
  mvcgen [clBufferOnAllocation, owning] <;> grind

@[spec] theorem clBufferOnHost_spec (dv : Ref) (ptr : Addr) (owner : Ref) (len : Nat) :
    ⦃fun w => ⌜w₀.Extends 0 w⌝⦄ clBufferOnHost dv ptr owner len ⦃World.Grown w₀⦄ := by
  mvcgen [clBufferOnHost, owning] <;> grind

@[spec] theorem shareSurface_spec (dv sr : Ref) (offset len : Nat) :
    ⦃fun w => ⌜w₀.Extends 0 w⌝⦄ shareSurface dv sr offset len ⦃World.Grown w₀⦄ := by
  mvcgen [shareSurface] <;> grind

@[spec] theorem clBufferOf_spec (dv : Ref) (id : Int) :
    ⦃fun w => ⌜w₀.Extends 0 w⌝⦄ clBufferOf dv id ⦃World.Grown w₀⦄ := by
  mvcgen [clBufferOf] <;> grind

@[spec] theorem synchronize_spec (dv : Ref) :
    ⦃fun w => ⌜w₀.Extends 0 w⌝⦄ synchronize dv ⦃World.Grown w₀⦄ := by
  mvcgen [synchronize] <;> grind

@[spec] theorem recordCopy_spec (dv : Ref) (mapper : String) (input output : MemoryKind)
    (bytes : Nat) :
    ⦃fun w => ⌜w₀.Extends 0 w⌝⦄ recordCopy dv mapper input output bytes ⦃World.Grown w₀⦄ := by
  mvcgen [recordCopy] <;> grind

end Device

namespace Context

open Act

@[spec] theorem deviceSerial_spec (c : Context) :
    ⦃fun w => ⌜w₀.Extends 0 w⌝⦄ deviceSerial c ⦃World.Grown w₀⦄ := by
  mvcgen [deviceSerial] <;> grind

@[spec] theorem kindOf_spec (r : Ref) :
    ⦃fun w => ⌜w₀.Extends 0 w⌝⦄ kindOf r ⦃World.Grown w₀⦄ := by
  mvcgen [kindOf] <;> grind

@[spec] theorem handleOf_spec (r : Ref) (key : String) :
    ⦃fun w => ⌜w₀.Extends 0 w⌝⦄ handleOf r key ⦃World.Grown w₀⦄ := by
  mvcgen [handleOf] <;> grind

@[spec] theorem handleOr_spec (r : Ref) (key : String) (default : Int) :
    ⦃fun w => ⌜w₀.Extends 0 w⌝⦄ handleOr r key default ⦃World.Grown w₀⦄ := by
  mvcgen [handleOr] <;> grind

@[spec] theorem deviceOf_spec (r : Ref) :
    ⦃fun w => ⌜w₀.Extends 0 w⌝⦄ deviceOf r ⦃World.Grown w₀⦄ := by
  mvcgen [deviceOf] <;> grind

@[spec] theorem displayOf_spec (r : Ref) :
    ⦃fun w => ⌜w₀.Extends 0 w⌝⦄ displayOf r ⦃World.Grown w₀⦄ := by
  mvcgen [displayOf] <;> grind

end Context

end MemBridge
