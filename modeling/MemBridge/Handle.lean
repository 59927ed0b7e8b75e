import MemBridge.Fault

/-!
Native handles.

A handle is the signed word by which a backend names one of its objects: a descriptor, a
surface, a context. Some handles are host addresses; those are kept as addresses so that an
answer can name them by their page. Handles of a tensor or a context are looked up by key;
`Key` lists the keys this library uses.

Adding a byte offset to a handle adds to its value in signed word arithmetic, where leaving the
word stops the computation; an address moves within its block. The value of an address is
taken as its offset from `Addr.hostBase`: the system allocator places blocks in the lower half
of the user address space, and only a byte offset near the top of the signed word reaches the
end of the word from there.
-/

namespace MemBridge

/-- The value of a native handle: a signed word, or a host address. -/
inductive Handle where
  | num (v : Int)
  | addr (a : Addr)
  deriving DecidableEq, Repr, Inhabited

namespace Addr

def hostBase : Nat := Nat.pow 2 46

/-- The value of a host address as a signed word: an address far into its block wraps around
the word as the machine's addresses do. -/
def value (a : Addr) : Int := Word.toSigned ((hostBase + a.offset) % Word.bound)

end Addr

namespace Word

def addSigned (v : Int) (delta : Nat) : Except Fault Int :=
  let sum := v + toSigned (delta % bound)
  if isSigned sum then .ok sum else .error Fault.addOverflow

end Word

namespace Handle

def ofWord (n : Nat) : Handle := .num (Word.toSigned (n % Word.bound))

def advance (h : Handle) (delta : Nat) : Except Fault Handle :=
  match h with
  | .addr a => (Word.addSigned a.value delta).map fun _ => .addr (a.advance delta)
  | .num v => (Word.addSigned v delta).map .num

def hexPieces : Handle → List Piece
  | .num v => [.text (Word.hexSigned v)]
  | .addr a => [.atom (.pointer a)]

end Handle

/-! The keys of native handles. -/

namespace Key

def data : String := "data"
def usmPtr : String := "usm_ptr"
def offset : String := "offset"
def planeIndex : String := "plane_index"
def surface : String := "vaapi.surface"
def dmaFd : String := "dma_fd"
def drmModifier : String := "drm_modifier"
def clMem : String := "cl_mem"
def runtimeTensor : String := "ov_tensor"
def device : String := "device"
def display : String := "va_display"
def clContext : String := "cl_context"
def zeContext : String := "ze_context"
def remoteContext : String := "ov_remote_context"

end Key

end MemBridge
