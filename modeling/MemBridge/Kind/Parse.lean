import MemBridge.Fault
import MemBridge.Text.Blank

/-!
Reading kinds from text.

Memory kinds are read case-insensitively (ASCII) and accept the common aliases; element types
are read after trimming blanks and are case-sensitive. An unknown name is an invalid argument
that quotes the text as it was compared.
-/

namespace MemBridge

namespace MemoryKind

/-- Reads a memory kind: `cpu`/`system`, `dma`/`dmabuf`, `vaapi`/`va`, `opencl`/`cl`,
`usm`/`levelzero`/`ze`, `openvino`/`ov`, `cuda` or `any`, in any ASCII case. -/
def parse (s : String) : Except Fault MemoryKind :=
  let low := String.map Char.toLower s
  match low with
  | "any" => .ok .any
  | "cpu" | "system" => .ok .cpu
  | "dma" | "dmabuf" => .ok .dma
  | "vaapi" | "va" => .ok .vaapi
  | "opencl" | "cl" => .ok .openCl
  | "usm" | "levelzero" | "ze" => .ok .levelZero
  | "openvino" | "ov" => .ok .openVino
  | "cuda" => .ok .cuda
  | unknown => .error (.invalidArgument s!"Unknown memory type '{unknown}'")

end MemoryKind

namespace ElementType

/-- Reads an element type by its name or short name, ignoring surrounding blanks. -/
def parse (s : String) : Except Fault ElementType :=
  match Text.trimBlank s with
  | "uint8" | "u8" => .ok .uint8
  | "int32" | "i32" => .ok .int32
  | "int64" | "i64" => .ok .int64
  | "float16" | "f16" => .ok .float16
  | "float32" | "f32" => .ok .float32
  | other => .error (.invalidArgument s!"Unknown data type '{other}'")

theorem parse_name (e : ElementType) : parse e.name = .ok e := by
  cases e <;> rfl

end ElementType

end MemBridge
