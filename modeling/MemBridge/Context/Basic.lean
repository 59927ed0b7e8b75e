import MemBridge.Device.Basic

/-!
The state of contexts.

A context is the live session of one backend: host memory (optionally bound to a device, with
its own recycling allocator), descriptors, image surfaces on a display, compute buffers on a
compute context, unified shared memory, inference-runtime tensors (optionally on a remote
context shared with a compute context or a display), or a plain kind with no native state.
A context may hold the context it was derived from, and keeps a registry of the mappers built
for pairs of contexts, by the pair and the cache policy, without holding them.

Handles of a context: each backend has a primary key (`Backend.primaryKey`), a list of keys in
a fixed order (`Backend.keys`) and a value per key (`Backend.handle`); a device is named by its
serial number.
-/

namespace MemBridge

/-- A remote inference context: its handle and the compute context or display it shares. -/
structure Remote where
  handle : Int
  clContext : Option Int
  display : Option Int
  deriving DecidableEq, Repr, Inhabited

/-- The native session of a context. -/
inductive Backend where
  | cpu (device : Option Ref) (allocator : Nat)
  | dma (device : Ref)
  | vaapi (device : Ref) (display : Int)
  | openCl (device : Ref) (clContext : Int) (display : Option Int)
  | levelZero (device : Ref) (zeContext : Int)
  | openVino (device : Option Ref) (remote : Option Remote)
  | plain (kind : MemoryKind)
  deriving Inhabited

/-- The pair of contexts and the cache policy a registered mapper was built for. -/
structure MapperKey where
  input : Ref
  output : Ref
  cache : Option PoolPolicy
  deriving DecidableEq, Inhabited

/-- The state of a context. -/
structure Context where
  serial : Nat
  parent : Option Ref
  backend : Backend
  registry : List (MapperKey × Ref) := []
  deriving Inhabited

namespace Backend

/-- The memory kind of a backend. -/
def kind : Backend → MemoryKind
  | .cpu .. => .cpu
  | .dma .. => .dma
  | .vaapi .. => .vaapi
  | .openCl .. => .openCl
  | .levelZero .. => .levelZero
  | .openVino .. => .openVino
  | .plain k => k

/-- The key of the primary handle. -/
def primaryKey : Backend → String
  | .cpu .. | .dma .. => Key.device
  | .vaapi .. => Key.display
  | .openCl .. => Key.clContext
  | .levelZero .. => Key.zeContext
  | .openVino .. => Key.remoteContext
  | .plain _ => ""

def device : Backend → Option Ref
  | .cpu d _ => d
  | .dma d | .vaapi d _ | .openCl d _ _ | .levelZero d _ => some d
  | .openVino d _ => d
  | .plain _ => none

def display : Backend → Option Int
  | .vaapi _ v => some v
  | .openCl _ _ v => v
  | .openVino _ (some r) => r.display
  | _ => none

/-- The handle of a key, given the serial number of the backend's device. -/
def handle (b : Backend) (deviceSerial : Option Nat) (key : String) : Option Int :=
  let dev : Option Int := deviceSerial.map (fun n => (n : Int))
  match b with
  | .cpu _ _ | .dma _ => if key == Key.device then dev else none
  | .vaapi _ v =>
    if key == Key.display then some v else if key == Key.device then dev else none
  | .openCl _ c v =>
    if key == Key.clContext then some c
    else if key == Key.device then dev
    else if key == Key.display then v
    else none
  | .levelZero _ z =>
    if key == Key.zeContext then some z else if key == Key.device then dev else none
  | .openVino _ r =>
    if key == Key.remoteContext then r.map (·.handle)
    else if key == Key.clContext then r.bind (·.clContext)
    else if key == Key.display then r.bind (·.display)
    else if key == Key.device then dev
    else none
  | .plain _ => none

/-- The keys of a backend's handles, in their fixed order. -/
def keys (b : Backend) (deviceSerial : Option Nat) : List String :=
  let candidates := match b with
    | .cpu _ _ | .dma _ => [Key.device]
    | .vaapi .. => [Key.display, Key.device]
    | .openCl .. => [Key.clContext, Key.device, Key.display]
    | .levelZero .. => [Key.zeContext, Key.device]
    | .openVino .. => [Key.remoteContext, Key.clContext, Key.display, Key.device]
    | .plain _ => []
  candidates.filter fun k => (b.handle deviceSerial k).isSome

end Backend

end MemBridge
