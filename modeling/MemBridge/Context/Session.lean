import MemBridge.Device.Resources

/-!
Making contexts and reading their handles.

Devices and contexts are numbered from one in the order they are made. A context's handle of
the empty key is its primary handle; a key it lacks is `HandleNotFound`. Its sessions are its
device and its display, each refused as a missing handle when absent.

`Context.derive` makes a context of another memory kind from a source context, which becomes
its parent: the new context runs on the source's device and shares the source's display or
compute context where the target needs one. A source of the target's kind is returned as it
is; a target that needs a device refuses a source without one, and some kinds cannot be
derived at all.
-/

namespace MemBridge

namespace Device

open Act

/-- Makes a device from a configuration; the pitch alignment must be a power of two. -/
def make (config : DeviceConfig) : Act Ref := do
  lift config.check
  let allocator ← newAllocator
  modify fun w => { w with devices := w.devices + 1 }
  let serial := (← get).devices
  create (.device { serial, config, allocator })

end Device

namespace Context

open Act

def deviceSerial (c : Context) : Act (Option Nat) := do
  match c.backend.device with
  | some d => return some (← device d).serial
  | none => return none

def kindOf (r : Ref) : Act MemoryKind := return (← context r).backend.kind

/-- The handle of a key; the empty key names the primary handle. -/
def handleOf (r : Ref) (key : String) : Act Int := do
  let c ← context r
  let key := if key.isEmpty then c.backend.primaryKey else key
  match c.backend.handle (← deviceSerial c) key with
  | some v => return v
  | none => throw (.handleNotFound key)

def handleOr (r : Ref) (key : String) (default : Int) : Act Int :=
  tryCatch (handleOf r key) fun _ => pure default

def keysOf (r : Ref) : Act (List String) := do
  let c ← context r
  return c.backend.keys (← deviceSerial c)

def deviceOf (r : Ref) : Act Ref := do
  match (← context r).backend.device with
  | some d => return d
  | none => throw (.handleNotFound Key.device)

def displayOf (r : Ref) : Act Int := do
  match (← context r).backend.display with
  | some v => return v
  | none => throw (.handleNotFound Key.display)

def make (parent : Option Ref) (backend : Backend) : Act Ref := do
  modify fun w => { w with contexts := w.contexts + 1 }
  let serial := (← get).contexts
  create (.context { serial, parent, backend })

def cpu (dv : Option Ref) (parent : Option Ref := none) : Act Ref := do
  if let some d := dv then retain d
  let allocator ← newAllocator
  make parent (.cpu dv allocator)

def dma (dv : Ref) (parent : Option Ref := none) : Act Ref := do
  retain dv
  make parent (.dma dv)

def vaapi (dv : Ref) (display : Int) (parent : Option Ref := none) : Act Ref := do
  retain dv
  make parent (.vaapi dv display)

def openCl (dv : Ref) (display : Option Int) (parent : Option Ref := none) : Act Ref := do
  let clContext ← Device.nextHandleOf dv
  retain dv
  make parent (.openCl dv clContext display)

def levelZero (dv : Ref) (parent : Option Ref := none) : Act Ref := do
  let zeContext ← Device.nextHandleOf dv
  retain dv
  make parent (.levelZero dv zeContext)

def remote (dv : Ref) (clContext display : Option Int) (parent : Option Ref) : Act Ref := do
  let handle ← Device.nextHandleOf dv
  retain dv
  make parent (.openVino (some dv) (some ⟨handle, clContext, display⟩))

def vaapiOn (dv : Ref) : Act Ref := do
  let display ← Device.nextHandleOf dv
  vaapi dv display

def openClOnDisplay (va : Ref) : Act Ref := do
  let dv ← deviceOf va
  let display ← displayOf va
  openCl dv (some display)

/-- An inference-runtime context on the compute context of `cl`. -/
def openVinoOnCompute (cl : Ref) : Act Ref := do
  let dv ← deviceOf cl
  let handle ← Device.nextHandleOf dv
  let clContext ← handleOf cl Key.clContext
  retain dv
  make none (.openVino (some dv) (some ⟨handle, some clContext, none⟩))

/-- An inference-runtime context sharing the display of `va`. -/
def openVinoOnDisplay (va : Ref) : Act Ref := do
  let dv ← deviceOf va
  let handle ← Device.nextHandleOf dv
  let display ← displayOf va
  retain dv
  make none (.openVino (some dv) (some ⟨handle, none, some display⟩))

/-- The device behind a source context, checked against the handle it shows. -/
def requireDevice (src : Ref) (target : MemoryKind) : Act Ref := do
  let kind ← kindOf src
  let h ← tryCatch (handleOf src Key.device) fun _ =>
    throw (.incompatibleContext kind target "source exposes no device handle")
  if h = 0 then throw (.invalidArgument s!"null device handle on {kind.name} context")
  match (← context src).backend.device with
  | some d =>
    if ((← device d).serial : Int) = h then return d
    else
      throw (.invalidContext target
        s!"device handle {Word.hexSigned h} does not name a soft device")
  | none =>
    throw (.invalidContext target s!"device handle {Word.hexSigned h} does not name a soft device")

/-- A context of kind `target` derived from `src`; the caller owns the returned reference. -/
def derive (src : Ref) (target : MemoryKind) : Act Ref := do
  let kind ← kindOf src
  if kind = target then
    retain src
    return src
  let parent := some src
  let made ← match target with
    | .cpu => do
      let hasDevice ←
        tryCatch (do let _ ← handleOf src Key.device; pure true) fun _ => pure false
      let dv ← if hasDevice then some <$> requireDevice src target else pure none
      retain src
      cpu dv parent
    | .dma => do
      let dv ← requireDevice src target
      retain src
      dma dv parent
    | .levelZero => do
      let dv ← requireDevice src target
      retain src
      levelZero dv parent
    | .vaapi => do
      let dv ← requireDevice src target
      let display ← tryCatch (displayOf src) fun _ => Device.nextHandleOf dv
      retain src
      vaapi dv display parent
    | .openCl => do
      let dv ← requireDevice src target
      let display ← if kind = .vaapi then some <$> displayOf src else pure none
      retain src
      openCl dv display parent
    | .openVino => do
      let dv ← requireDevice src target
      let cl ← tryCatch (some <$> handleOf src Key.clContext) fun _ => pure none
      match cl with
      | some c =>
        retain src
        remote dv (some c) none parent
      | none =>
        let display ← tryCatch (some <$> displayOf src) fun _ => pure none
        match display with
        | some v =>
          retain src
          remote dv none (some v) parent
        | none =>
          throw (.incompatibleContext kind target "remote context needs a cl_context or va_display")
    | _ => throw (.incompatibleContext kind target "not derivable")
  return made

end Context

end MemBridge
