import MemBridge.Console.Objects

/-!
Running scripts.

A script is a list of steps run in order on one world. Each step answers one document: what it
made or found, a library fault, or a refusal of a malformed request; the script goes on after
a failed step. An object a step makes is bound to the name in `as` when one is given, giving
back whatever the name held before; otherwise it is let go as soon as the step has been
answered. `drop` lets go of a name.
-/

namespace MemBridge

namespace Console

open Json Act

/-- Runs the step a request names. -/
def stepOf (s : Session) (req : Value) : Step Outcome := do
  match ← decode (getString req "op") with
  | "device" => stepDevice req
  | "ctx" => stepContext s req
  | "ctx_info" => return ⟨← contextDoc (← decode (contextVar s req "ctx")), none⟩
  | "ctx_handle" => stepContextHandle s req
  | "session_device" => stepSessionDevice s req
  | "get_mapper" => stepGetMapper s req
  | "registered" => stepRegistered s req
  | "registered_count" => stepRegisteredCount s req
  | "attach_mapper" => stepAttachMapper s req
  | "create_mapper" => stepCreateMapper s req
  | "chain" => stepChain s req
  | "cache" => stepCache s req
  | "cache_stats" => stepCacheStats s req
  | "cache_evict" => stepCacheEvict s req
  | "cache_clear" => stepCacheClear s req
  | "mapper_ctx" => stepMapperContext s req
  | "alloc_cpu" => stepAllocHost s req
  | "alloc_image" => stepAllocImage s req false
  | "alloc_va" => stepAllocImage s req true
  | "alloc_usm" => stepAllocShared s req
  | "host_tensor" => stepHostTensor s req
  | "tensor" => stepTensor s req
  | "show" => stepShow s req
  | "handle" => stepHandle s req
  | "data" => stepData s req
  | "slice" => stepSlice s req
  | "slice_region" => stepSliceRegion s req
  | "read" => stepRead s req
  | "write" => stepWrite s req
  | "set_parent" => stepSetParent s req false
  | "clear_parent" => stepSetParent s req true
  | "frame" => stepFrame s req
  | "frame_from_tensor" => stepFrameOfTensor s req
  | "frame_tensor" => stepFrameTensor s req
  | "region" => stepRegion s req
  | "regions" => stepRegions s req
  | "add_region" => stepAddRegion s req
  | "clear_regions" => stepClearRegions s req
  | "frame_set_parent" => stepFrameParent s req
  | "frame_info" => stepFrameInfo s req
  | "meta" => stepMeta s req
  | "map_tensor" => stepMap s req false
  | "map_frame" => stepMap s req true
  | "map_to" => stepMapTo s req
  | "device_stats" => stepDeviceStats s req
  | "cpu_alloc_stats" => stepHostStats s req
  | "fault" => stepFault s req
  | "surface_info" => stepSurface s req false
  | "surface_fence" => stepSurface s req true
  | "queue" => stepQueue s req
  | "cl_buffer_info" => stepClBuffer s req
  | "import_fd" => stepImportFd s req
  | "pool" => stepPool s req
  | "pool_acquire" => stepPoolAcquire s req
  | "pool_info" => stepPoolInfo s req
  | op => decode (refuse s!"unknown op '{op}'")

namespace Session

def letGo (s : Session) (r : Ref) : Session :=
  match (release r).run s.world with
  | .ok _ w => { s with world := w }
  | .error _ w => { s with world := w }

/-- Binds a name, letting go of what it held before. -/
def bindName (s : Session) (name : String) (b : Binding) : Session :=
  match s.vars.lookup name with
  | some old =>
    let vars := s.vars.map fun (e : String × Binding) => if e.1 == name then (name, b) else e
    let s := { s with vars }
    s.letGo old.ref
  | none => { s with vars := s.vars ++ [(name, b)] }

/-- Drops a name; answers whether it was bound. -/
def dropName (s : Session) (name : String) : Doc × Session :=
  match s.vars.lookup name with
  | some b =>
    let s := { s with vars := s.vars.filter (·.1 != name) }
    (.bool true, s.letGo b.ref)
  | none => (.bool false, s)

/-- Runs one step and answers it. -/
def perform (s : Session) (req : Value) : Doc × Session :=
  match getOpt req "as" asString, getString req "op" with
  | .error r, _ => (r.doc, s)
  | .ok _, .ok "drop" =>
    match getString req "var" with
    | .ok name => s.dropName name
    | .error r => (r.doc, s)
  | .ok name, _ =>
    match ((stepOf s req).run).run s.world with
    | .ok (.ok out) w =>
      let s := { s with world := w }
      match out.made, name with
      | some b, some n => (out.doc, s.bindName n b)
      | some b, none => (out.doc, s.letGo b.ref)
      | none, _ => (out.doc, s)
    | .ok (.error r) w => (r.doc, { s with world := w })
    | .error f w => (Doc.fault f, { s with world := w })

def performAll (s : Session) : List Value → List Doc
  | [] => []
  | req :: rest =>
    let (doc, s) := s.perform req
    doc :: performAll s rest

def fresh : Session :=
  match newAllocator.run {} with
  | .ok a w => { world := w, hostAllocator := a }
  | .error _ w => { world := w, hostAllocator := 0 }

end Session

def answerScript (req : Value) : Decode Doc := do
  let steps ← getArray req "steps"
  return Doc.record [("steps", .arr (Session.fresh.performAll steps))]

end Console

end MemBridge
