import MemBridge.Host.Heap
import MemBridge.Decimal.Binary

/-!
Recycling host allocation.

A `HostPool` rounds every request up to a bucket size and keeps freed blocks for the next
request of the same bucket: small requests take the next power of two of at least one page,
large ones (two MiB and up) a multiple of two MiB. Each bucket is a stack of at most 32
blocks; the most recently freed block is handed out first, and a block freed onto a full
stack goes back to the system.

The pool counts hits (requests served from a stack), misses (requests that went to the
system, whether or not the system could serve them), recycled blocks, overflows (blocks sent
back to the system) and live bytes (bytes it owns, handed out or pooled), the last in word
arithmetic.
-/

namespace MemBridge

def bucketAlignment : Nat := 2 * 1024 * 1024

def maxPerBucket : Nat := 32

def nextPowerOfTwo (n : Nat) : Nat :=
  if n ≤ 1 then 1 else Nat.pow 2 ((n - 1).log2 + 1)

/-- The bucket a request of `size` bytes is served from. Rounding a size near the top of the
word overflows. -/
def bucketFor (size : Nat) : Except Fault Nat :=
  if size = 0 then .ok pageAlignment
  else if size < bucketAlignment then .ok (nextPowerOfTwo (max size pageAlignment))
  else do
    -- (size + alignment) - 1, with the sum checked
    let up ← checkedAdd size bucketAlignment
    return (up - 1) / bucketAlignment * bucketAlignment

/-- A block of host memory: its number and its bucket size. -/
structure HostBlock where
  id : Nat
  size : Nat
  deriving DecidableEq, Repr, Inhabited

/-- The state of a recycling allocator. -/
structure HostPool where
  freeLists : List (Nat × List HostBlock) := []
  hits : Nat := 0
  misses : Nat := 0
  recycled : Nat := 0
  overflows : Nat := 0
  liveBytes : Nat := 0
  steady : Bool := false
  deriving Inhabited

namespace HostPool

def stack (p : HostPool) (bucket : Nat) : List HostBlock :=
  ((p.freeLists.find? (·.1 == bucket)).map (·.2)).getD []

def setStack (p : HostPool) (bucket : Nat) (s : List HostBlock) : HostPool :=
  let rest := p.freeLists.filter (·.1 != bucket)
  { p with freeLists := if s.isEmpty then rest else rest ++ [(bucket, s)] }

def take (p : HostPool) (bucket : Nat) : Option HostBlock × HostPool :=
  match p.stack bucket with
  | b :: rest => (some b, p.setStack bucket rest)
  | [] => (none, p)

/-- Returns a freed block to its bucket; a block that finds its stack full is given back to
be released. -/
def recycle (p : HostPool) (b : HostBlock) : HostPool × Option HostBlock :=
  let s := p.stack b.size
  if s.length ≥ maxPerBucket then
    let liveBytes := (p.liveBytes + Word.bound - b.size) % Word.bound
    ({ p with overflows := p.overflows + 1, liveBytes }, some b)
  else
    ({ p with recycled := p.recycled + 1, freeLists := (p.setStack b.size (b :: s)).freeLists },
      none)

def pooledBlocks (p : HostPool) : Nat := (p.freeLists.map (·.2.length)).foldr (· + ·) 0

/-- Serves a request of `size` bytes from the pool or from the heap. The pool is updated
even when the request fails. -/
def alloc (p : HostPool) (heap : Heap) (size : Nat) :
    Except Fault HostBlock × HostPool × Heap :=
  match bucketFor size with
  | .error e => (.error e, p, heap)
  | .ok bucket =>
    match p.take bucket with
    | (some b, p) => (.ok b, { p with hits := p.hits + 1 }, heap)
    | (none, p) =>
      let p := { p with misses := p.misses + 1 }
      match heap.allocate bucket with
      | .error e => (.error e, p, heap)
      | .ok (id, heap) =>
        (.ok ⟨id, bucket⟩, { p with liveBytes := (p.liveBytes + bucket) % Word.bound }, heap)

def hitRate (p : HostPool) : Float :=
  let h := Binary.nearest p.hits
  let m := Binary.nearest p.misses
  let total := h + m
  if total == 0.0 then 0.0 else (h / total) * 100.0

theorem pooledBlocks_setStack_le (p : HostPool) (bucket : Nat) :
    (p.setStack bucket []).pooledBlocks ≤ p.pooledBlocks := by
  simp only [setStack, List.isEmpty_nil, if_true, pooledBlocks]
  induction p.freeLists with
  | nil => simp
  | cons e rest ih =>
    simp only [List.filter_cons]
    split <;> simp <;> omega

end HostPool

end MemBridge
