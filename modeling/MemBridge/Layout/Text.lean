import MemBridge.Layout.Basic
import MemBridge.Kind.Parse
import MemBridge.Text.Blank

/-!
The text form of a layout.

A layout is written `elem, d0:d1:…` followed by `, s0:s1:…` when its strides are not the
row-major ones. Reading splits the text at commas and trims each part: the first part is the
element type, the second the shape (row-major strides when no third part follows), the third
the strides; further parts are ignored. Dimensions are unsigned words separated by colons.
-/

namespace MemBridge

namespace Layout

def text (l : Layout) : String :=
  let head := s!"{l.elem.name}, {Text.colonText l.shape}"
  if l.isContiguous then head else head ++ ", " ++ Text.colonText l.stride

/-- Reads colon-separated dimensions; an empty text has none. -/
def readDims (s : String) : Except Fault (List Nat) :=
  if s.isEmpty then .ok []
  else (Text.pieces s ':').mapM fun v =>
    match Text.readWord (Text.trimBlank v) with
    | some n => .ok n
    | none => .error (.invalidArgument s!"bad dimension '{v}'")

/-- Reads the text form of a layout. -/
def parse (s : String) : Except Fault Layout := do
  let parts := (Text.pieces s ',').map Text.trimBlank
  let elem ← ElementType.parse (parts.headD "")
  let shape ← readDims (parts.getD 1 "")
  match parts with
  | _ :: _ :: strideText :: _ => withStride shape (← readDims strideText) elem
  | _ => ofShape shape elem

end Layout

end MemBridge
