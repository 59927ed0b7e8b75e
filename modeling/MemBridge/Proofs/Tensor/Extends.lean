import MemBridge.Proofs.Device.Extends
import MemBridge.Frame.Lineage

/-!
Tensors and frames keep the world extending.

Building a tensor or a frame adds one object that is no mapper; setting or clearing a parent,
the metadata or the regions changes that tensor or frame and releases what it let go of;
reading and writing bytes touches host memory only.
-/

namespace MemBridge

open Std.Do

set_option mvcgen.warning false

variable {w₀ : World}

open Act

namespace TensorSpec

@[spec] theorem discard_spec (s : TensorSpec) :
    ⦃fun w => ⌜w₀.Extends 0 w⌝⦄ s.discard ⦃World.Grown w₀⦄ := by
  mvcgen [discard]

@[spec] theorem build_spec (s : TensorSpec) :
    ⦃fun w => ⌜w₀.Extends 0 w⌝⦄ s.build ⦃World.Grown w₀⦄ := by
  mvcgen [build] <;> grind [Body.variant]

end TensorSpec

namespace Tensor

@[spec] theorem handleOf_spec (r : Ref) (key : String) :
    ⦃fun w => ⌜w₀.Extends 0 w⌝⦄ handleOf r key ⦃World.Grown w₀⦄ := by
  mvcgen [handleOf] <;> grind

@[spec] theorem inLineage_spec (r candidate : Ref) (fuel : Nat) :
    ⦃fun w => ⌜w₀.Extends 0 w⌝⦄ inLineage r candidate fuel ⦃World.Grown w₀⦄ := by
  induction fuel generalizing candidate with
  | zero => mvcgen [inLineage]
  | succ fuel ih => mvcgen [inLineage, ih] <;> grind

@[spec] theorem setParent_spec (r : Ref) (parent : Option Ref) :
    ⦃fun w => ⌜w₀.Extends 0 w⌝⦄ setParent r parent ⦃World.Grown w₀⦄ := by
  mvcgen [setParent] <;> grind

@[spec] theorem clearParent_spec (r : Ref) :
    ⦃fun w => ⌜w₀.Extends 0 w⌝⦄ clearParent r ⦃World.Grown w₀⦄ := by
  mvcgen [clearParent]

@[spec] theorem elementBytes_spec (t : Tensor) :
    ⦃fun w => ⌜w₀.Extends 0 w⌝⦄ elementBytes t ⦃World.Grown w₀⦄ := by
  mvcgen [elementBytes] <;> grind

@[spec] theorem readBytes_spec (r : Ref) :
    ⦃fun w => ⌜w₀.Extends 0 w⌝⦄ readBytes r ⦃World.Grown w₀⦄ := by
  mvcgen [readBytes]
  case inv1 => exact World.Grown w₀
  all_goals grind

@[spec] theorem writeAt_spec (base : Except Fault Addr) (layout : Layout) (bytes : ByteArray) :
    ⦃fun w => ⌜w₀.Extends 0 w⌝⦄ writeAt base layout bytes ⦃World.Grown w₀⦄ := by
  mvcgen [writeAt]
  case inv1 => exact World.Grown w₀
  all_goals grind

end Tensor

namespace Frame

@[spec] theorem make_spec (media : MediaType) (format : Nat) (tensors : List Ref) :
    ⦃fun w => ⌜w₀.Extends 0 w⌝⦄ make media format tensors ⦃World.Grown w₀⦄ := by
  mvcgen [make]
  case inv1 => exact World.Grown w₀
  all_goals grind [Body.variant]

@[spec] theorem tensorAt_spec (r : Ref) (i : Nat) :
    ⦃fun w => ⌜w₀.Extends 0 w⌝⦄ tensorAt r i ⦃World.Grown w₀⦄ := by
  mvcgen [tensorAt] <;> grind

@[spec] theorem dropDictionary_spec (d : Dictionary) :
    ⦃fun w => ⌜w₀.Extends 0 w⌝⦄ dropDictionary d ⦃World.Grown w₀⦄ := by
  mvcgen [dropDictionary]

@[spec] theorem clearMetadata_spec (r : Ref) :
    ⦃fun w => ⌜w₀.Extends 0 w⌝⦄ clearMetadata r ⦃World.Grown w₀⦄ := by
  mvcgen [clearMetadata]
  case inv1 => exact World.Grown w₀
  all_goals grind

@[spec] theorem inLineage_spec (r candidate : Ref) (fuel : Nat) :
    ⦃fun w => ⌜w₀.Extends 0 w⌝⦄ inLineage r candidate fuel ⦃World.Grown w₀⦄ := by
  induction fuel generalizing candidate with
  | zero => mvcgen [inLineage]
  | succ fuel ih => mvcgen [inLineage, ih] <;> grind

@[spec] theorem setParent_spec (r : Ref) (parent : Option Ref) :
    ⦃fun w => ⌜w₀.Extends 0 w⌝⦄ setParent r parent ⦃World.Grown w₀⦄ := by
  mvcgen [setParent] <;> grind

@[spec] theorem clearParent_spec (r : Ref) :
    ⦃fun w => ⌜w₀.Extends 0 w⌝⦄ clearParent r ⦃World.Grown w₀⦄ := by
  mvcgen [clearParent]

@[spec] theorem clearRegions_spec (r : Ref) :
    ⦃fun w => ⌜w₀.Extends 0 w⌝⦄ clearRegions r ⦃World.Grown w₀⦄ := by
  mvcgen [clearRegions]

end Frame

end MemBridge
