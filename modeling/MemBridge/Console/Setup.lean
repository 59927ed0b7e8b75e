import MemBridge.Console.Session
import MemBridge.Console.Host
import MemBridge.Config.Options

/-!
Script steps that set up and inspect the world: devices, contexts, mappers, caches, frame
pools, and the counters and native objects of a device.
-/

namespace MemBridge

namespace Console

open Json Act

/-- The configuration text of a device request: `config_json` as given, or `config` as
compact JSON; absent when neither is given. -/
def configText (req : Value) : Decode (Option String) := do
  match ← getOpt req "config_json" asString with
  | some t => return some t
  | none =>
    match opt req "config" with
    | some v => return some (Doc.print (jsonDoc v))
    | none => return none

/-- Makes a device. -/
def stepDevice (req : Value) : Step Outcome := do
  let text ← decode (configText req)
  let config : DeviceConfig ← match text with
    | some t => checked (DeviceConfig.parse t)
    | none => pure {}
  let dv ← Device.make config
  return ⟨Doc.record [("device", Doc.atom (.device (← device dv).serial))], some (.device dv)⟩

/-- Makes a context of a kind. -/
def stepContext (s : Session) (req : Value) : Step Outcome := do
  let kind ← decode (getString req "kind")
  let r ← match kind with
    | "cpu" => Context.cpu none
    | "cpu_dev" => do Context.cpu (some (← decode (deviceVar s req "device")))
    | "dma" => do Context.dma (← decode (deviceVar s req "device"))
    | "vaapi" => do Context.vaapiOn (← decode (deviceVar s req "device"))
    | "opencl" => do Context.openCl (← decode (deviceVar s req "device")) none
    | "usm" => do Context.levelZero (← decode (deviceVar s req "device"))
    | "opencl_va" => do Context.openClOnDisplay (← decode (contextVar s req "src"))
    | "ov" => Context.make none (.openVino none none)
    | "ov_cl" => do Context.openVinoOnCompute (← decode (contextVar s req "src"))
    | "ov_va" => do Context.openVinoOnDisplay (← decode (contextVar s req "src"))
    | "plain" => do
      let name ← decode (getString req "memory_type")
      Context.make none (.plain (← checked (memoryKind name)))
    | "derive" => do
      let src ← decode (contextVar s req "src")
      let target ← decode (getString req "target")
      Context.derive src (← checked (memoryKind target))
    | k => decode (refuse s!"unknown context kind '{k}'")
  return ⟨← contextDoc r, some (.context r)⟩

/-- A handle of a context. -/
def stepContextHandle (s : Session) (req : Value) : Step Outcome := do
  let c ← decode (contextVar s req "ctx")
  let key ← decode (getString req "key")
  let v ← Context.handleOf c key
  let primaryKey := (← context c).backend.primaryKey
  let shown := if key.isEmpty then primaryKey else key
  return ⟨contextHandleDoc shown v, none⟩

def stepSessionDevice (s : Session) (req : Value) : Step Outcome := do
  let c ← decode (contextVar s req "ctx")
  let dv ← Context.deviceOf c
  return ⟨Doc.atom (.device (← device dv).serial), none⟩

def maybeMapper (m : Option Ref) : Step Outcome := do
  match m with
  | some r => return ⟨← mapperDoc r, some (.mapper r)⟩
  | none => return ⟨.null, none⟩

def policyOf (key : String) (v : Value) : Decode PoolPolicy := do
  match ← asString key v with
  | "strict" => .ok .strict
  | "reissue" => .ok .reissue
  | p => refuse s!"bad pool policy '{p}'"

def stepGetMapper (s : Session) (req : Value) : Step Outcome := do
  let c ← decode (contextVar s req "ctx")
  let i ← decode (contextVar s req "input")
  let o ← decode (contextVar s req "output")
  maybeMapper (← Context.getMapper c i o)

/-- The live mapper a context has registered for a pair and a cache policy. -/
def stepRegistered (s : Session) (req : Value) : Step Outcome := do
  let c ← decode (contextVar s req "ctx")
  let i ← decode (contextVar s req "input")
  let o ← decode (contextVar s req "output")
  let cache ← decode (getOpt req "cache" policyOf)
  maybeMapper (← Context.registeredMapper c ⟨i, o, cache⟩)

def stepRegisteredCount (s : Session) (req : Value) : Step Outcome := do
  let c ← decode (contextVar s req "ctx")
  return ⟨Doc.nat (← Context.registeredCount c), none⟩

def stepAttachMapper (s : Session) (req : Value) : Step Outcome := do
  let c ← decode (contextVar s req "ctx")
  let m ← decode (mapperVar s req "mapper")
  Context.attachMapper c m
  return ⟨Doc.nat (← Context.registeredCount c), none⟩

/-- The cache policy a mapper request asks for. -/
def cacheRequest (req : Value) : Step (Option PoolPolicy) := do
  match ← decode (getOpt req "options_json" asString) with
  | some text => return (← checked (MapperOptions.parse text)).cachePolicy
  | none =>
    let useCache ← decode (getOr req "use_cache" asBool false)
    let policy ← decode (getOr req "pool_policy" policyOf .strict)
    return if useCache then some policy else none

def stepCreateMapper (s : Session) (req : Value) : Step Outcome := do
  let contexts ← decode do (← vars s req "contexts").mapM (asContext "contexts")
  let cache ← cacheRequest req
  let m ← Mapper.resolve contexts cache
  return ⟨← mapperDoc m, some (.mapper m)⟩

def stepChain (s : Session) (req : Value) : Step Outcome := do
  let links ← decode do (← vars s req "mappers").mapM (asMapper "mappers")
  for l in links do retain l
  let m ← Mapper.makeChain links
  return ⟨← chainDoc m, some (.chain m)⟩

/-- Puts a cache in front of a mapper. -/
def stepCache (s : Session) (req : Value) : Step Outcome := do
  let inner ← decode (mapperVar s req "mapper")
  let policy ← decode (getOr req "policy" policyOf .strict)
  retain inner
  let m ← Mapper.makeCache inner policy
  return ⟨← cacheDoc m, some (.cache m)⟩

/-- The counters of a cache. -/
def stepCacheStats (s : Session) (req : Value) : Step Outcome := do
  let r ← decode (cacheVar s req "cache")
  let c ← Mapper.cacheOf r
  return ⟨Doc.record [("hits", Doc.nat c.hits), ("misses", Doc.nat c.misses),
    ("hit_rate", .float c.hitRate), ("len", Doc.nat c.filled), ("is_empty", .bool (c.filled == 0)),
    ("policy", Doc.str c.policy.name)], none⟩

/-- The handle a cache eviction names: given, or the primary handle of a tensor or of tensor
0 of a frame. -/
def evictionHandle (s : Session) (req : Value) : Step Handle := do
  match opt req "handle" with
  | some v => return .num (← decode (asInt "handle" v))
  | none =>
    match ← decode (var s req "of") with
    | .tensor t => Tensor.handleOf t ""
    | .frame f => Tensor.handleOf (← Frame.tensorAt f 0) ""
    | _ => decode (notA "of" "tensor or frame")

def stepCacheEvict (s : Session) (req : Value) : Step Outcome := do
  let r ← decode (cacheVar s req "cache")
  let h ← evictionHandle s req
  return ⟨.bool (← Mapper.evict r h), none⟩

def stepCacheClear (s : Session) (req : Value) : Step Outcome := do
  let r ← decode (cacheVar s req "cache")
  Mapper.clear r
  return ⟨.null, none⟩

/-- A context of a mapper. -/
def stepMapperContext (s : Session) (req : Value) : Step Outcome := do
  let m ← decode (mapperVar s req "mapper")
  let c ← match ← decode (getString req "side") with
    | "input" => Mapper.input m
    | "output" => Mapper.output m
    | side => decode (refuse s!"bad side '{side}'")
  retain c
  return ⟨← contextDoc c, some (.context c)⟩

/-- The counters of a device. -/
def stepDeviceStats (s : Session) (req : Value) : Step Outcome := do
  let dv ← decode (deviceVar s req "device")
  let d ← device dv
  return ⟨Doc.record [("live_allocations", Doc.nat d.allocations),
    ("allocated_bytes", Doc.nat d.bytes), ("live_surfaces", Doc.nat d.surfaces),
    ("open_fds", Doc.nat d.descriptors.length), ("live_cl_buffers", Doc.nat d.clBuffers),
    ("acquired_surfaces", Doc.nat d.acquired.length), ("copies", snapshotDoc d.copies),
    ("copied_bytes", Doc.ofExcept Doc.nat d.copies.totalBytes)], none⟩

/-- The counters of the allocator of a host context. -/
def stepHostStats (s : Session) (req : Value) : Step Outcome := do
  let c ← decode (contextVar s req "ctx")
  let a ← match (← context c).backend with
    | .cpu _ a => pure a
    | _ => decode (refuse "not a CpuContext")
  let p ← allocator a
  return ⟨Doc.record [("hits", Doc.nat p.hits), ("misses", Doc.nat p.misses),
    ("recycled", Doc.nat p.recycled), ("overflows", Doc.nat p.overflows),
    ("live_bytes", Doc.nat p.liveBytes), ("pooled_buffers", Doc.nat p.pooledBlocks)], none⟩

/-- Arms a fault on a device. -/
def stepFault (s : Session) (req : Value) : Step Outcome := do
  let dv ← decode (deviceVar s req "device")
  let call ← decode (getString req "call")
  let status ← decode (getInt req "status")
  modifyDevice dv fun d => d.inject call status
  return ⟨.null, none⟩

def surfaceId (s : Session) (req : Value) : Step Int := do
  match opt req "tensor" with
  | some _ =>
    return Mapper.objectId (← Tensor.handleOf (← decode (tensorVar s req "tensor")) Key.surface)
  | none => decode (getInt req "surface")

/-- The description of a surface. -/
def surfaceDoc (sr : Ref) : Act Doc := do
  let sf ← surface sr
  let m ← allocation sf.memory
  return Doc.record [("id", .int sf.id),
    ("format", Doc.opt (fun (f : ImageFormat) => Doc.str f.name) sf.format),
    ("width", Doc.nat sf.width), ("height", Doc.nat sf.height),
    ("planes", .arr (sf.planes.map fun p => Doc.record [("offset", Doc.nat p.offset),
      ("pitch", Doc.nat p.pitch), ("shape", Doc.nats p.shape),
      ("nbytes", Doc.ofExcept Doc.nat p.nbytes)])),
    ("memory_len", Doc.nat m.buffer.len), ("memory", Doc.atom (.pointer m.buffer.base)),
    ("fence_signaled", .bool m.fence.signaled)]

/-- Describes a surface of a device, after acting on its memory's fence when asked. -/
def stepSurface (s : Session) (req : Value) (withAction : Bool) : Step Outcome := do
  let dv ← decode (deviceVar s req "device")
  let action ← if withAction then some <$> decode (getString req "action") else pure none
  let id ← surfaceId s req
  let sr ← Device.surfaceOf dv id
  let doc ← act <| keeping sr do
    if let some a := action then
      let signaled ← match a with
        | "reset" => pure false
        | "signal" => pure true
        | other => throw (.halt s!"bad fence action '{other}'")
      let memory := (← surface sr).memory
      modifyAllocation memory fun m => { m with fence := { m.fence with signaled } }
    surfaceDoc sr
  return ⟨doc, none⟩

/-- Acts on a device's queue and tells whether it is idle. -/
def stepQueue (s : Session) (req : Value) : Step Outcome := do
  let dv ← decode (deviceVar s req "device")
  match ← decode (getString req "action") with
  | "reset" => modifyDevice dv fun d => { d with queue := { d.queue with signaled := false } }
  | "signal" => modifyDevice dv fun d => { d with queue := { d.queue with signaled := true } }
  | "synchronize" => Device.synchronize dv
  | a => decode (refuse s!"bad queue action '{a}'")
  return ⟨.bool (← device dv).queue.signaled, none⟩

/-- Describes a compute buffer of a device. -/
def stepClBuffer (s : Session) (req : Value) : Step Outcome := do
  let dv ← decode (deviceVar s req "device")
  let id ← match opt req "tensor" with
    | some _ => do
      pure (Mapper.objectId (← Tensor.handleOf (← decode (tensorVar s req "tensor")) Key.clMem))
    | none => decode (getInt req "id")
  let b ← Device.clBufferOf dv id
  let x ← clBuffer b
  release b
  return ⟨Doc.record [("id", .int x.id), ("len", Doc.nat x.len), ("is_empty", .bool (x.len == 0)),
    ("ptr", Doc.atom (.pointer x.ptr))], none⟩

/-- Imports a descriptor of a device. -/
def stepImportFd (s : Session) (req : Value) : Step Outcome := do
  let dv ← decode (deviceVar s req "device")
  let backend ← decode (getString req "backend")
  let fd ← decode (getInt req "fd")
  let kind ← checked (memoryKind backend)
  let memory ← Device.importFd dv kind fd
  let m ← allocation memory
  release memory
  return ⟨Doc.record [("len", Doc.nat m.buffer.len), ("ptr", Doc.atom (.pointer m.buffer.base))],
    none⟩

/-- Makes a pool of surface frames. -/
def stepPool (s : Session) (req : Value) : Step Outcome := do
  let c ← decode (contextVar s req "ctx")
  let width ← decode (getWord req "width")
  let height ← decode (getWord req "height")
  let names ← decode do (← getArray req "formats").mapM (asString "formats")
  let capacity ← decode (getWord req "capacity")
  let formats ← names.mapM fun n => checked (ImageFormat.parse n)
  let p ← FramePool.make c width height formats capacity
  return ⟨← poolDoc p, some (.pool p)⟩

def stepPoolAcquire (s : Session) (req : Value) : Step Outcome := do
  let p ← decode (poolVar s req "pool")
  let f ← FramePool.acquire p
  return ⟨← frameDoc f, some (.frame f)⟩

def stepPoolInfo (s : Session) (req : Value) : Step Outcome := do
  let p ← decode (poolVar s req "pool")
  return ⟨← poolDoc p, none⟩

end Console

end MemBridge
