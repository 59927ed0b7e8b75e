import MemBridge.Handle
import MemBridge.Device.Basic

/-!
The state of mappers.

A mapper moves tensors and frames from the memory of its input context into the memory of
its output context. It is the identity of one context, a direct route between two backends
(`Route`), a chain of mappers where each reads what the previous one writes, or a cache in
front of another mapper that keeps each destination by the source's primary handle and the
access mode, in slots that exist from the first request on and are filled once a mapping
succeeds.
-/

namespace MemBridge

/-- The direct routes between backends. -/
inductive Route where
  | dmaToCpu
  | vaapiToCpu
  | cpuToVaapi
  | vaapiToDma
  | dmaToVaapi
  | dmaToOpenCl
  | vaapiToOpenCl
  | openClToCpu
  | cpuToOpenCl
  | dmaToUsm
  | usmToCpu
  | cpuToOpenVino
  | openVinoToCpu
  | openClToOpenVino
  | vaapiToOpenVino
  deriving DecidableEq, Repr, Inhabited

namespace Route

/-- The name of a route. -/
def name : Route → String
  | .dmaToCpu => "dma_to_cpu"
  | .vaapiToCpu => "vaapi_to_cpu"
  | .cpuToVaapi => "cpu_to_vaapi"
  | .vaapiToDma => "vaapi_to_dma"
  | .dmaToVaapi => "dma_to_vaapi"
  | .dmaToOpenCl => "dma_to_opencl"
  | .vaapiToOpenCl => "vaapi_to_opencl"
  | .openClToCpu => "opencl_to_cpu"
  | .cpuToOpenCl => "cpu_to_opencl"
  | .dmaToUsm => "dma_to_usm"
  | .usmToCpu => "usm_to_cpu"
  | .cpuToOpenVino => "cpu_to_openvino"
  | .openVinoToCpu => "openvino_to_cpu"
  | .openClToOpenVino => "opencl_to_openvino"
  | .vaapiToOpenVino => "vaapi_to_openvino"

/-- The memory kinds a route reads and writes. -/
def ends : Route → MemoryKind × MemoryKind
  | .dmaToCpu => (.dma, .cpu)
  | .vaapiToCpu => (.vaapi, .cpu)
  | .cpuToVaapi => (.cpu, .vaapi)
  | .vaapiToDma => (.vaapi, .dma)
  | .dmaToVaapi => (.dma, .vaapi)
  | .dmaToOpenCl => (.dma, .openCl)
  | .vaapiToOpenCl => (.vaapi, .openCl)
  | .openClToCpu => (.openCl, .cpu)
  | .cpuToOpenCl => (.cpu, .openCl)
  | .dmaToUsm => (.dma, .levelZero)
  | .usmToCpu => (.levelZero, .cpu)
  | .cpuToOpenVino => (.cpu, .openVino)
  | .openVinoToCpu => (.openVino, .cpu)
  | .openClToOpenVino => (.openCl, .openVino)
  | .vaapiToOpenVino => (.vaapi, .openVino)

end Route

/-- A cache slot: the source handle and access mode it is for, and the destination once
mapped. -/
structure Slot where
  handle : Handle
  mode : AccessMode
  value : Option Ref
  deriving DecidableEq, Inhabited

/-- A caching mapper: the mapper it fronts, its policy on destinations still held elsewhere,
its tensor and frame slots, and its hit and miss counts. -/
structure Cache where
  inner : Ref
  policy : PoolPolicy
  tensors : List Slot := []
  frames : List Slot := []
  hits : Nat := 0
  misses : Nat := 0
  name : String
  deriving Inhabited

/-- The state of a mapper. -/
inductive Mapper where
  | identity (context : Ref)
  | direct (route : Route) (input output : Ref) (device : Option Ref)
  | chain (links : List Ref) (name : String)
  | cache (c : Cache)
  deriving Inhabited

namespace Cache

def filled (c : Cache) : Nat :=
  (c.tensors.filter (·.value.isSome)).length + (c.frames.filter (·.value.isSome)).length

def hitRate (c : Cache) : Float :=
  let total := c.hits + c.misses
  if total = 0 then 0.0 else Binary.nearest c.hits / Binary.nearest total * 100.0

end Cache

end MemBridge
