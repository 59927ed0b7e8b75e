import MemBridge.Layout.Basic

/-!
Axis orders of image tensors.

`AxisOrder.ofShape` reads the order of the axes off a shape: two dimensions are rows and
columns; with three or four, a dimension of at most four entries is a channel axis and the two
spatial axes are larger than four. A shape that fits none of these has the order `any`.
`ImageView` is a layout with a known row and column axis.
-/

namespace MemBridge

/-- The order of the axes of an image tensor. -/
inductive AxisOrder where
  | any
  | hw
  | chw
  | hwc
  | nchw
  | nhwc
  deriving DecidableEq, Repr, Inhabited

namespace AxisOrder

def maxChannels : Nat := 4

/-- Infers the axis order of a shape. -/
def ofShape (shape : List Nat) : AxisOrder :=
  let isC := fun d => decide (d ≤ maxChannels)
  let isS := fun d => decide (maxChannels < d)
  match shape with
  | [_, _] => .hw
  | [a, b, c] =>
    if isS a && isS b && isC c then .hwc
    else if isC a && isS b && isS c then .chw
    else .any
  | [_, a, b, c] =>
    if isS a && isS b && isC c then .nhwc
    else if isC a && isS b && isS c then .nchw
    else .any
  | _ => .any

/-- The name of an axis order, one letter per axis. -/
def name : AxisOrder → String
  | .any => "Any"
  | .hw => "HW"
  | .chw => "CHW"
  | .hwc => "HWC"
  | .nchw => "NCHW"
  | .nhwc => "NHWC"

def position (o : AxisOrder) (letter : Char) : Option Nat :=
  match o with
  | .any => none
  | o => o.name.toList.idxOf? letter

def rows (o : AxisOrder) : Option Nat := o.position 'H'

def cols (o : AxisOrder) : Option Nat := o.position 'W'

def channels (o : AxisOrder) : Option Nat := o.position 'C'

def batch (o : AxisOrder) : Option Nat := o.position 'N'

end AxisOrder

/-- A layout whose row and column axes are known. -/
structure ImageView where
  layout : Layout
  order : AxisOrder
  rowAxis : Nat
  colAxis : Nat

namespace ImageView

/-- The image view of a layout, when its shape has an axis order with rows and columns. -/
def ofLayout (l : Layout) : Except Fault ImageView :=
  let order := AxisOrder.ofShape l.shape
  match order.rows, order.cols with
  | some h, some w => .ok ⟨l, order, h, w⟩
  | _, _ => .error (.invalidArgument
      s!"cannot infer image layout from shape {Text.listText l.shape}")

def width (v : ImageView) : Nat := v.layout.shape.getD v.colAxis 0

def height (v : ImageView) : Nat := v.layout.shape.getD v.rowAxis 0

def channels (v : ImageView) : Nat :=
  match v.order.channels with
  | some c => v.layout.shape.getD c 0
  | none => 1

def batch (v : ImageView) : Nat :=
  match v.order.batch with
  | some n => v.layout.shape.getD n 0
  | none => 1

def rowStride (v : ImageView) : Nat := v.layout.stride.getD v.rowAxis 0

def pixelStride (v : ImageView) : Nat := v.layout.stride.getD v.colAxis 0

def channelStride (v : ImageView) : Option Nat :=
  v.order.channels.map (fun c => v.layout.stride.getD c 0)

end ImageView

end MemBridge
