import MemBridge.Tensor.Basic
import MemBridge.Metadata.Dictionary
import MemBridge.Image.Format

/-!
The state of frames and frame pools.

A frame groups tensors of one memory kind under a media type and a format code, carries
metadata dictionaries in the order they were added, may hold the frame it was derived from,
and refers to the regions cut from it without holding them. A frame pool holds a fixed set of
frames of one format and hands out, round robin, one that nobody else holds.
-/

namespace MemBridge

/-- The state of a frame. -/
structure Frame where
  media : MediaType
  format : Nat
  kind : MemoryKind
  tensors : List Ref
  metadata : List Dictionary := []
  parent : Option Ref := none
  regions : List Ref := []
  deriving Inhabited

/-- The state of a frame pool. -/
structure FramePool where
  frames : List Ref
  format : ImageFormat
  kind : MemoryKind
  cursor : Nat := 0
  deriving Inhabited

end MemBridge
