/-!
The kinds that describe memory: where it lives (`MemoryKind`), what one element is
(`ElementType`), what a frame carries (`MediaType`) and how a mapping is used (`AccessMode`).
Each kind has its display name; memory kinds are ordered as the enumeration lists them, with
foreign kinds last and ordered by name.
-/

namespace MemBridge

/-- Where the bytes of a tensor live. -/
inductive MemoryKind where
  | any
  | cpu
  | dma
  | vaapi
  | openCl
  | levelZero
  | openVino
  | cuda
  /-- A kind that this library does not know, named by its owner. -/
  | other (name : String)
  deriving DecidableEq, Repr, Inhabited

namespace MemoryKind

/-- The display name of a memory kind. -/
def name : MemoryKind → String
  | .any => "Any"
  | .cpu => "CPU"
  | .dma => "DMA"
  | .vaapi => "VAAPI"
  | .openCl => "OpenCL"
  | .levelZero => "USM"
  | .openVino => "OpenVINO"
  | .cuda => "CUDA"
  | .other n => n

def hostAddressable : MemoryKind → Bool
  | .cpu | .levelZero => true
  | _ => false

/-- Position of a kind in the enumeration. -/
def rank : MemoryKind → Nat
  | .any => 0
  | .cpu => 1
  | .dma => 2
  | .vaapi => 3
  | .openCl => 4
  | .levelZero => 5
  | .openVino => 6
  | .cuda => 7
  | .other _ => 8

def lt (a b : MemoryKind) : Bool :=
  match a, b with
  | .other x, .other y => decide (x < y)
  | _, _ => decide (a.rank < b.rank)

end MemoryKind

/-- The type of one tensor element. -/
inductive ElementType where
  | uint8
  | int32
  | int64
  | float16
  | float32
  deriving DecidableEq, Repr, Inhabited

namespace ElementType

def size : ElementType → Nat
  | .uint8 => 1
  | .float16 => 2
  | .int32 | .float32 => 4
  | .int64 => 8

/-- The display name. -/
def name : ElementType → String
  | .uint8 => "uint8"
  | .int32 => "int32"
  | .int64 => "int64"
  | .float16 => "float16"
  | .float32 => "float32"

/-- The name used by structural descriptions of a layout. -/
def structName : ElementType → String
  | .uint8 => "UInt8"
  | .int32 => "Int32"
  | .int64 => "Int64"
  | .float16 => "Float16"
  | .float32 => "Float32"

theorem size_pos (e : ElementType) : 0 < e.size := by
  cases e <;> decide

end ElementType

/-- What a frame carries. -/
inductive MediaType where
  | any
  | tensors
  | image
  | audio
  deriving DecidableEq, Repr, Inhabited

def MediaType.name : MediaType → String
  | .any => "Any"
  | .tensors => "Tensors"
  | .image => "Image"
  | .audio => "Audio"

/-- How a mapped object will be used. -/
inductive AccessMode where
  | read
  | write
  | readWrite
  deriving DecidableEq, Repr, Inhabited

namespace AccessMode

def isRead : AccessMode → Bool
  | .read | .readWrite => true
  | .write => false

def isWrite : AccessMode → Bool
  | .write | .readWrite => true
  | .read => false

end AccessMode

end MemBridge
