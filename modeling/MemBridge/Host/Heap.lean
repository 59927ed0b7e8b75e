import MemBridge.Fault

/-!
Host memory blocks.

The `Heap` hands out page-aligned blocks, numbered in the order they are made; a block is
never handed out twice, so its number names its address. A fresh block reads as zeros. The
contents are kept sparsely: only the prefix up to the last byte ever written is stored, and
the bytes past it read as zero.

A request is refused when its size cannot be described with page alignment (more than
`2^63 - 4096` bytes), and fails with status `-12` when the system has no room for it, which
this model takes to be a block of `2^40` bytes or more.
-/

namespace MemBridge

def pageAlignment : Nat := 4096

def systemLimit : Nat := Nat.pow 2 40

/-- Host memory: the contents of every block made so far. -/
structure Heap where
  contents : Array ByteArray := #[]
  deriving Inhabited

namespace Heap

/-- Makes a zeroed block of `size` bytes and returns its number. -/
def allocate (h : Heap) (size : Nat) : Except Fault (Nat × Heap) :=
  if size > Nat.pow 2 63 - pageAlignment then
    .error (.invalidArgument
      s!"host allocation of {size} bytes: invalid parameters to Layout::from_size_align")
  else if size ≥ systemLimit then .error (.backendFailure .cpu "alloc" (-12))
  else .ok (h.contents.size, { h with contents := h.contents.push ByteArray.empty })

def read (h : Heap) (block offset len : Nat) : ByteArray :=
  let data := (h.contents[block]?).getD ByteArray.empty
  let stored := data.extract offset (offset + len)
  if stored.size = len then stored
  else stored ++ ⟨Array.replicate (len - stored.size) 0⟩

def grow (data : ByteArray) (n : Nat) : ByteArray :=
  if data.size ≥ n then data else data ++ ⟨Array.replicate (n - data.size) 0⟩

def write (h : Heap) (block offset : Nat) (bytes : ByteArray) : Heap :=
  if bytes.size = 0 then h
  else
    { h with contents := h.contents.modify block fun data =>
        bytes.copySlice 0 (grow data (offset + bytes.size)) offset bytes.size }

end Heap

end MemBridge
