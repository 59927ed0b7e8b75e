import MemBridge.Kind
import MemBridge.Report.Piece
import MemBridge.Word

/-!
Why an operation fails.

`Fault` lists the causes; `Fault.message` words each of them, `Fault.code` gives its stable
number and `Fault.recoverable` says whether a caller may retry or fall back. A stop on an
arithmetic overflow or a broken internal assumption is the cause `halt`: it carries no code.
-/

namespace MemBridge

/-- What went wrong. -/
inductive Fault where
  | invalidArgument (msg : String)
  | typeMismatch (expected actual : MemoryKind)
  | handleNotFound (key : String)
  | notHostAddressable (kind : MemoryKind)
  | noMapper (source target : MemoryKind)
  /-- A chain whose link `index` does not read where the previous one writes. -/
  | chainBroken (index : Nat) (detail : List Piece)
  | backendFailure (backend : MemoryKind) (call : String) (status : Int)
  | timeout (operation : String) (millis : Nat)
  | invalidContext (kind : MemoryKind) (reason : String)
  | incompatibleContext (source target : MemoryKind) (reason : String)
  /-- A cached destination asked for again while still held elsewhere. -/
  | poolContract (kind : MemoryKind) (handle : List Piece) (outstanding : Nat)
  | poolExhausted (capacity : Nat)
  | config (msg : String)
  | configParse (msg : String)
  /-- An arithmetic overflow or another stop that is no error of the library. -/
  | halt (msg : String)
  deriving Repr, Inhabited

namespace Fault

/-- The name of the cause. -/
def name : Fault → String
  | .invalidArgument .. => "InvalidArgument"
  | .typeMismatch .. => "TypeMismatch"
  | .handleNotFound .. => "HandleNotFound"
  | .notHostAddressable .. => "NotHostAddressable"
  | .noMapper .. => "NoMapperAvailable"
  | .chainBroken .. => "MapperChainBroken"
  | .backendFailure .. => "BackendFailure"
  | .timeout .. => "Timeout"
  | .invalidContext .. => "InvalidContext"
  | .incompatibleContext .. => "IncompatibleContext"
  | .poolContract .. => "PoolContractViolation"
  | .poolExhausted .. => "PoolExhausted"
  | .config .. => "Config"
  | .configParse .. => "ConfigParse"
  | .halt .. => "panic"

/-- The stable number of a cause. -/
def code : Fault → Nat
  | .invalidArgument .. => 100
  | .typeMismatch .. => 101
  | .handleNotFound .. => 102
  | .notHostAddressable .. => 103
  | .noMapper .. => 200
  | .chainBroken .. => 201
  | .backendFailure .. => 300
  | .timeout .. => 301
  | .invalidContext .. => 400
  | .incompatibleContext .. => 401
  | .poolContract .. => 500
  | .poolExhausted .. => 501
  | .config .. => 600
  | .configParse .. => 601
  | .halt .. => 0

def recoverable : Fault → Bool
  | .backendFailure .. | .timeout .. | .poolExhausted .. | .poolContract .. => true
  | _ => false

/-- The text of a fault. -/
def message : Fault → List Piece
  | .invalidArgument m => [.text s!"Invalid argument: {m}"]
  | .typeMismatch e a => [.text s!"Memory type mismatch: expected {e.name}, got {a.name}"]
  | .handleNotFound k => [.text s!"Handle not found: '{k}'"]
  | .notHostAddressable k =>
    [.text s!"{k.name} memory has no host-addressable pointer; map it to CPU first"]
  | .noMapper s t => [.text s!"No mapper available from {s.name} to {t.name}"]
  | .chainBroken i d => .text s!"Mapper chain broken at link {i}: " :: d
  | .backendFailure b c s => [.text s!"{b.name} backend call {c} failed with status {s}"]
  | .timeout op ms => [.text s!"Timeout after {ms} ms waiting for {op}"]
  | .invalidContext k r => [.text s!"Invalid {k.name} context: {r}"]
  | .incompatibleContext s t r =>
    [.text s!"Cannot create {t.name} context from {s.name} context: {r}"]
  | .poolContract k h n =>
    [.text s!"Pool contract violation: cached {k.name} object for handle "] ++ h ++
      [.text s!" is still referenced ({n} outstanding)"]
  | .poolExhausted c => [.text s!"Pool exhausted: all {c} entries are in use"]
  | .config m => [.text s!"Configuration error: {m}"]
  | .configParse m => [.text s!"Configuration parse error: {m}"]
  | .halt m => [.text m]

def plainParts (ps : List Piece) : String :=
  String.join <| ps.map fun
    | .text s => s
    | .atom _ => ""

/-- The stop raised when an operation that is not expected to fail does: its text is the
fault's text. -/
def asHalt (f : Fault) : Fault :=
  .halt (plainParts f.message)

def addOverflow : Fault := .halt "attempt to add with overflow"

def mulOverflow : Fault := .halt "attempt to multiply with overflow"

def subOverflow : Fault := .halt "attempt to subtract with overflow"

end Fault

def checkedAdd (a b : Nat) : Except Fault Nat :=
  match Word.addChecked a b with
  | some c => .ok c
  | none => .error Fault.addOverflow

def checkedMul (a b : Nat) : Except Fault Nat :=
  match Word.mulChecked a b with
  | some c => .ok c
  | none => .error Fault.mulOverflow

def checkedProduct (xs : List Nat) : Except Fault Nat :=
  xs.foldlM checkedMul 1

def checkedSum (xs : List Nat) : Except Fault Nat :=
  xs.foldlM checkedAdd 0

end MemBridge
