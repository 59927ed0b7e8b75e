import MemBridge.Mapper.Basic
import MemBridge.Context.Session

/-!
Building direct mappers.

Each backend builds the routes that touch its own memory kind (`Backend.routeFor`). A route
needs its input and output contexts to carry the kinds it bridges, checked input first; most
routes also need a device, taken from the input context or else from the output one. Routes
between a display or compute context and the inference runtime need the runtime's remote
context to be on that very display or compute context, and a surface-to-compute route needs
the compute context to share the surface's display.

A mapper holds its input context, its output context and its device.
-/

namespace MemBridge

namespace Backend

/-- The route a backend builds from `input` memory to `output` memory, if any. -/
def routeFor : Backend → MemoryKind → MemoryKind → Option Route
  | .dma _, .dma, .cpu => some .dmaToCpu
  | .dma _, .vaapi, .dma => some .vaapiToDma
  | .dma _, .dma, .vaapi => some .dmaToVaapi
  | .vaapi .., .vaapi, .cpu => some .vaapiToCpu
  | .vaapi .., .cpu, .vaapi => some .cpuToVaapi
  | .vaapi .., .vaapi, .dma => some .vaapiToDma
  | .vaapi .., .dma, .vaapi => some .dmaToVaapi
  | .openCl .., .dma, .openCl => some .dmaToOpenCl
  | .openCl _ _ (some _), .vaapi, .openCl => some .vaapiToOpenCl
  | .openCl .., .openCl, .cpu => some .openClToCpu
  | .openCl .., .cpu, .openCl => some .cpuToOpenCl
  | .levelZero .., .dma, .levelZero => some .dmaToUsm
  | .levelZero .., .levelZero, .cpu => some .usmToCpu
  | .openVino .., .cpu, .openVino => some .cpuToOpenVino
  | .openVino .., .openVino, .cpu => some .openVinoToCpu
  | .openVino _ (some ⟨_, some _, _⟩), .openCl, .openVino => some .openClToOpenVino
  | .openVino _ (some ⟨_, _, some _⟩), .vaapi, .openVino => some .vaapiToOpenVino
  | _, _, _ => none

end Backend

namespace Mapper

open Act

def expectKind (expected actual : MemoryKind) : Act Unit :=
  if expected = actual then pure () else throw (.typeMismatch expected actual)

def checkEnds (route : Route) (input output : Ref) : Act Unit := do
  expectKind route.ends.1 (← Context.kindOf input)
  expectKind route.ends.2 (← Context.kindOf output)

def deviceOfEither (input output : Ref) : Act Ref :=
  tryCatch (Context.deviceOf input) fun _ => Context.deviceOf output

def sameHandle (input output : Ref) (key : String) (kind : MemoryKind)
    (reason : String → String) : Act Unit := do
  let v ← Context.handleOf input key
  if (← Context.handleOr output key 0) ≠ v then
    throw (.invalidContext kind (reason (Word.hexSigned v)))

/-- Builds the mapper of a route between two contexts; the caller owns the new reference. -/
def makeDirect (route : Route) (input output : Ref) : Act Ref := do
  checkEnds route input output
  let device ← match route with
    | .cpuToOpenVino => pure none
    | .openVinoToCpu => tryCatch (some <$> deviceOfEither input output) fun _ => pure none
    | _ => some <$> deviceOfEither input output
  match route with
  | .vaapiToCpu | .vaapiToDma =>
    let _ ← Context.displayOf input
  | .vaapiToOpenCl =>
    sameHandle input output Key.display .openCl fun h => s!"not created on VA display {h}"
  | .openClToOpenVino =>
    sameHandle input output Key.clContext .openVino fun h =>
      s!"remote context is not on cl_context {h}"
  | .vaapiToOpenVino =>
    sameHandle input output Key.display .openVino fun h =>
      s!"remote context is not on VA display {h}"
  | _ => pure ()
  retain input
  retain output
  if let some d := device then retain d
  create (.mapper (.direct route input output device))

def makeIdentity (ctx : Ref) : Act Ref := do
  retain ctx
  create (.mapper (.identity ctx))

/-- The input context of a mapper. -/
def inputOf (r : Ref) : Nat → Act Ref
  | 0 => broken "mapper nesting too deep"
  | fuel + 1 => do
    match ← mapper r with
    | .identity c => return c
    | .direct _ i _ _ => return i
    | .chain links _ =>
      match links with
      | l :: _ => inputOf l fuel
      | [] => broken "empty chain"
    | .cache c => inputOf c.inner fuel

/-- The output context of a mapper. -/
def outputOf (r : Ref) : Nat → Act Ref
  | 0 => broken "mapper nesting too deep"
  | fuel + 1 => do
    match ← mapper r with
    | .identity c => return c
    | .direct _ _ o _ => return o
    | .chain links _ =>
      match links.getLast? with
      | some l => outputOf l fuel
      | none => broken "empty chain"
    | .cache c => outputOf c.inner fuel

def depth : Act Nat := return (← get).nodes.size + 1

def input (r : Ref) : Act Ref := do inputOf r (← depth)

def output (r : Ref) : Act Ref := do outputOf r (← depth)

/-- The name of a mapper. -/
def nameOf (r : Ref) : Act String := do
  match ← mapper r with
  | .identity _ => return "identity"
  | .direct route .. => return route.name
  | .chain _ name => return name
  | .cache c => return c.name

end Mapper

end MemBridge
