import MemBridge.Layout.Text
import MemBridge.Image.Format

/-!
Descriptions of frames without their memory.

A `FrameSpec` records what a frame carries, where its memory lives (if that is known), its
format code and the layout of each tensor. `FrameSpec.image` describes an image of a pixel
format with one row-major `uint8` tensor per plane. The text form lists the media type, the
memory kind, for images the format name, then each tensor's layout text in braces.
-/

namespace MemBridge

/-- What a frame looks like, without its memory. -/
structure FrameSpec where
  media : MediaType
  memory : Option MemoryKind
  format : Nat
  tensors : List Layout

namespace FrameSpec

/-- An image of `format` at `width × height`, one row-major `uint8` tensor per plane. Plane
layouts whose size leaves the word stop the computation. -/
def image (memory : MemoryKind) (format : ImageFormat) (width height : Nat) :
    Except Fault FrameSpec := do
  let shapes := (List.range format.planes).filterMap (fun i => format.planeShape i width height)
  let tensors ← shapes.mapM fun s =>
    match Layout.ofShape s .uint8 with
    | .ok l => .ok l
    | .error e => .error e.asHalt
  return ⟨.image, some memory, format.code, tensors⟩

def nbytes (f : FrameSpec) : Except Fault Nat :=
  checkedSum (f.tensors.map Layout.nbytes)

/-- The text form: `Image, VAAPI, NV12, {uint8, 64:64:1}, {uint8, 32:32:2}`. -/
def text (f : FrameSpec) : String :=
  let memory := (f.memory.getD .any).name
  let head := s!"{f.media.name}, {memory}"
  let head :=
    if f.media = .image then
      match ImageFormat.ofCode? f.format with
      | some fmt => head ++ ", " ++ fmt.name
      | none => head ++ s!", Unknown format: {f.format}"
    else head
  f.tensors.foldl (fun acc l => acc ++ ", \x7b" ++ l.text ++ "\x7d") head

end FrameSpec

end MemBridge
