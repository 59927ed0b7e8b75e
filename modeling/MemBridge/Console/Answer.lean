import MemBridge.Console.Basic
import MemBridge.Console.Metadata
import MemBridge.Console.Config
import MemBridge.Console.Host
import MemBridge.Console.Script
import MemBridge.Json.Parse

/-!
Answering request lines.

`Console.answer` reads one request line, carries it out on a fresh state and prints the answer
document. The request names its operation in the field `op`.
-/

namespace MemBridge

namespace Console

open Json

/-- Carries out one request. -/
def dispatch (req : Value) : Decode Doc := do
  match ← getString req "op" with
  | "dtype" => answerElementType req
  | "memory_type" => answerMemoryKind req
  | "access_mode" => answerAccessMode req
  | "image_format" => answerImageFormat req
  | "tensor_info" => answerLayoutInfo req
  | "contiguous_stride" => answerContiguousStride req
  | "layout" => answerAxisOrder req
  | "frame_info_image" => answerImageFrame req
  | "frame_info_display" => answerFrameText req
  | "dict" => answerDict req
  | "record" => answerRecord req
  | "record_to_dict" => answerRecordToDict req
  | "detection_rect" => answerPixelBox req
  | "affine" => answerAffine req
  | "mapper_options" => answerMapperOptions req
  | "device_config" => answerDeviceConfig req
  | "host_alloc" => answerHostAlloc req
  | "fence" => answerFence req
  | "ledger" => answerLedger req
  | "script" => answerScript req
  | op => refuse s!"unknown op '{op}'"

/-- The answer to one request line. -/
def answer (line : String) : String :=
  let doc := match Json.parse line with
    | .ok req =>
      match dispatch req with
      | .ok d => d
      | .error r => r.doc
    | .error msg => Refusal.doc ⟨msg⟩
  Doc.print doc

end Console

end MemBridge
