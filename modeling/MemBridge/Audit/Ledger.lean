import MemBridge.Fault

/-!
Ledgers of copies through host memory.

A copy path is a mapper name and the memory kinds it joins. The ledger keeps, per path, the
number of copies and of bytes copied, and lists paths ordered by mapper name, then input kind,
then output kind. Counts are words: a byte total that leaves the word stops the recording
after the copy was already counted.
-/

namespace MemBridge

/-- One copying mapper: its name and the kinds it joins. -/
structure CopyPath where
  mapper : String
  input : MemoryKind
  output : MemoryKind
  deriving DecidableEq, Repr, Inhabited

/-- Copies and bytes counted along a path. -/
structure CopyTotals where
  copies : Nat := 0
  bytes : Nat := 0
  deriving DecidableEq, Repr, Inhabited

def CopyPath.lt (a b : CopyPath) : Bool :=
  if a.mapper != b.mapper then decide (a.mapper < b.mapper)
  else if a.input != b.input then a.input.lt b.input
  else a.output.lt b.output

/-- Per-path copy counters, kept in path order. -/
structure Ledger where
  paths : List (CopyPath × CopyTotals) := []
  deriving Inhabited

namespace Ledger

def totals (l : Ledger) (p : CopyPath) : CopyTotals :=
  ((l.paths.find? (·.1 == p)).map (·.2)).getD {}

/-- Replaces the totals of a path, keeping the paths ordered. -/
def put (l : Ledger) (p : CopyPath) (t : CopyTotals) : Ledger :=
  if l.paths.any (·.1 == p) then
    { paths := l.paths.map fun e => if e.1 == p then (p, t) else e }
  else
    let before := l.paths.filter (fun e => e.1.lt p)
    let after := l.paths.filter (fun e => !e.1.lt p)
    { paths := before ++ [(p, t)] ++ after }

/-- Counts one copy of `bytes` along a path. The copy is counted before the bytes; a byte
total that leaves the word stops with the copy counted. -/
def record (l : Ledger) (p : CopyPath) (bytes : Nat) : Except Fault Ledger × Ledger :=
  let t := l.totals p
  let counted := l.put p { t with copies := t.copies + 1 }
  match checkedAdd t.bytes bytes with
  | .ok total => (.ok (counted.put p { copies := t.copies + 1, bytes := total }), counted)
  | .error e => (.error e, counted)

def totalBytes (l : Ledger) : Except Fault Nat :=
  checkedSum (l.paths.map (·.2.bytes))

def isEmpty (l : Ledger) : Bool := l.paths.isEmpty

end Ledger

end MemBridge
