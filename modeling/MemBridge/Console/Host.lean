import MemBridge.Console.Metadata
import MemBridge.Host.Pool
import MemBridge.Sync.Fence
import MemBridge.Audit.Ledger

/-!
Answers about host allocation, fences and copy ledgers.

Each request runs a list of operations on one fresh allocator, fence or ledger and answers one
document per operation.
-/

namespace MemBridge

namespace Console

open Json

/-- A buffer handed out by the allocator: its block and the bytes asked for. -/
structure HeldBuffer where
  block : HostBlock
  len : Nat

/-- An allocator with its heap and the buffers kept by name. -/
structure HostSession where
  pool : HostPool := {}
  heap : Heap := {}
  held : List (String × HeldBuffer) := []
  /-- Whether the allocator panicked, which ends the request. -/
  halted : Bool := false

namespace HostSession

def release (s : HostSession) (b : HeldBuffer) : HostSession :=
  { s with pool := (s.pool.recycle b.block).1 }

def find (s : HostSession) (name : String) : Decode HeldBuffer :=
  match s.held.find? (·.1 == name) with
  | some (_, b) => .ok b
  | none => refuse s!"unknown buffer '{name}'"

/-- Keeps a buffer under a name; a buffer kept there before is given back. -/
def keep (s : HostSession) (name : String) (b : HeldBuffer) : HostSession :=
  match s.held.find? (·.1 == name) with
  | some (_, old) =>
    let held := s.held.map fun (e : String × HeldBuffer) => if e.1 == name then (name, b) else e
    let s := { s with held }
    s.release old
  | none => { s with held := s.held ++ [(name, b)] }

def statsDoc (s : HostSession) : Doc :=
  Doc.record [("hits", Doc.nat s.pool.hits), ("misses", Doc.nat s.pool.misses),
    ("recycled", Doc.nat s.pool.recycled), ("overflows", Doc.nat s.pool.overflows),
    ("hit_rate", .float s.pool.hitRate), ("live_bytes", Doc.nat s.pool.liveBytes),
    ("pooled_buffers", Doc.nat s.pool.pooledBlocks), ("steady", .bool s.pool.steady)]

/-- Runs one allocator operation. -/
def step (s : HostSession) (op : Value) : Decode (Doc × HostSession) := do
  match ← getString op "op" with
  | "alloc" =>
    let size ← getWord op "size"
    let name ← getOpt op "as" asString
    let (r, pool, heap) := s.pool.alloc s.heap size
    let s := { s with pool, heap }
    match r with
    | .error e => return (Doc.fault e, { s with halted := e matches .halt _ })
    | .ok block =>
      let b : HeldBuffer := ⟨block, size⟩
      let doc := Doc.record [("len", Doc.nat size), ("capacity", Doc.nat block.size),
        ("is_empty", .bool (size == 0)), ("ptr", Doc.atom (.pointer ⟨block.id, 0⟩))]
      match name with
      | some n => return (doc, s.keep n b)
      | none => return (doc, s.release b)
  | "free" =>
    let name ← getString op "name"
    match s.held.find? (·.1 == name) with
    | some (_, b) =>
      return (.bool true, { s with held := s.held.filter (·.1 != name) }.release b)
    | none => return (.bool false, s)
  | "write" =>
    let b ← s.find (← getString op "name")
    let offset ← getWord op "offset"
    let bytes ← hexBytes (← getString op "hex")
    if offset + bytes.length > b.len then refuse "write outside buffer"
    return (.null, { s with heap := s.heap.write b.block.id offset ⟨bytes.toArray⟩ })
  | "read" =>
    let b ← s.find (← getString op "name")
    let offset ← getWord op "offset"
    let len ← getWord op "len"
    if offset + len > b.len then refuse "read outside buffer"
    return (Doc.str (hexText (s.heap.read b.block.id offset len).toList), s)
  | "stats" => return (s.statsDoc, s)
  | "steady" => return (.null, { s with pool := { s.pool with steady := true } })
  | "reset" => return (.null, { s with pool := { s.pool with steady := false } })
  | o => refuse s!"unknown host_alloc op '{o}'"

end HostSession

/-- Runs operations in order, each answering a document. -/
def runSteps {σ : Type} (step : σ → Value → Decode (Doc × σ)) :
    σ → List Value → List Doc
  | _, [] => []
  | s, op :: rest =>
    match step s op with
    | .ok (d, s) => d :: runSteps step s rest
    | .error r => r.doc :: runSteps step s rest

/-- Runs allocator operations in order, each answering a document. A panic ends the request,
which then answers the panic alone. -/
def runHostSteps : HostSession → List Value → Except Doc (List Doc)
  | _, [] => .ok []
  | s, op :: rest =>
    match s.step op with
    | .ok (d, s) => if s.halted then .error d else (d :: ·) <$> runHostSteps s rest
    | .error r => (r.doc :: ·) <$> runHostSteps s rest

def answerHostAlloc (req : Value) : Decode Doc := do
  match runHostSteps {} (← getArray req "ops") with
  | .ok docs => return .arr docs
  | .error panic => return panic

def waitCap : Nat := 50

/-- Runs one fence operation. -/
def fenceStep (f : Fence) (op : Value) : Decode (Doc × Fence) := do
  match ← getString op "op" with
  | "wait" =>
    let ms ← getWord op "ms"
    return (Doc.ofExcept (fun () => Doc.str "ok") (f.wait (min ms waitCap)), f)
  | "signal" => return (.null, { f with signaled := true })
  | "reset" => return (.null, { f with signaled := false })
  | "is_signaled" => return (.bool f.signaled, f)
  | o => refuse s!"unknown fence op '{o}'"

def answerFence (req : Value) : Decode Doc := do
  let signaled ← getOr req "signaled" asBool false
  let operation ← getOr req "operation" asString "work"
  return .arr (runSteps fenceStep ⟨operation, signaled⟩ (← getArray req "ops"))

def copyPathOf (op : Value) : Decode (Except Fault CopyPath) := do
  let mapper ← getString op "mapper"
  let input ← getString op "input"
  let output ← getString op "output"
  return do return ⟨mapper, ← memoryKind input, ← memoryKind output⟩

def totalsDoc (t : CopyTotals) : Doc :=
  Doc.record [("copies", Doc.nat t.copies), ("bytes", Doc.nat t.bytes)]

def snapshotDoc (l : Ledger) : Doc :=
  .arr (l.paths.map fun (p, t) => Doc.record [("mapper", Doc.str p.mapper),
    ("input", Doc.str p.input.name), ("output", Doc.str p.output.name),
    ("copies", Doc.nat t.copies), ("bytes", Doc.nat t.bytes)])

/-- Runs one ledger operation. -/
def ledgerStep (l : Ledger) (op : Value) : Decode (Doc × Ledger) := do
  match ← getString op "op" with
  | "record" =>
    let path ← copyPathOf op
    let bytes ← getWord op "bytes"
    match path with
    | .error e => return (Doc.fault e, l)
    | .ok p =>
      match l.record p bytes with
      | (.ok l, _) => return (.null, l)
      | (.error e, l) => return (Doc.fault e, l)
  | "totals" =>
    match ← copyPathOf op with
    | .error e => return (Doc.fault e, l)
    | .ok p => return (totalsDoc (l.totals p), l)
  | "snapshot" => return (snapshotDoc l, l)
  | "total_bytes" => return (Doc.ofExcept Doc.nat l.totalBytes, l)
  | "is_empty" => return (.bool l.isEmpty, l)
  | o => refuse s!"unknown ledger op '{o}'"

def answerLedger (req : Value) : Decode Doc := do
  return .arr (runSteps ledgerStep {} (← getArray req "ops"))

end Console

end MemBridge
