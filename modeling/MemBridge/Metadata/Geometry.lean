import MemBridge.Decimal.Binary
import MemBridge.Text.Number

/-!
Rectangles and normalized coordinates.

A `Rect` is a pixel rectangle. `pixelBox` turns a box in normalized coordinates (each in
`[0, 1]`) into pixels of a frame: each coordinate is clamped to `[0, 1]`, scaled, rounded half
away from zero and converted with saturation (NaN becomes 0); the far corner is never before the
near one. An `AffineMap` maps normalized destination coordinates back to normalized source
coordinates of a crop that was resized.
-/

namespace MemBridge

/-- A pixel rectangle. -/
structure Rect where
  x : Nat
  y : Nat
  w : Nat
  h : Nat
  deriving DecidableEq, Repr, Inhabited

namespace Rect

def debugText (r : Rect) : String :=
  s!"Rect \x7b x: {r.x}, y: {r.y}, w: {r.w}, h: {r.h} \x7d"

def isEmpty (r : Rect) : Bool := r.w == 0 || r.h == 0

end Rect

def unitClamp (v : Float) : Float :=
  if v < 0.0 then 0.0 else if v > 1.0 then 1.0 else v

def toPixels (v : Float) (size : Nat) : Nat :=
  (unitClamp v * Binary.nearest size).round.toUInt64.toNat

/-- The pixel rectangle of a normalized box in a `width × height` frame. -/
def pixelBox (xMin yMin xMax yMax : Float) (width height : Nat) : Rect :=
  let x0 := toPixels xMin width
  let y0 := toPixels yMin height
  let x1 := max (toPixels xMax width) x0
  let y1 := max (toPixels yMax height) y0
  ⟨x0, y0, x1 - x0, y1 - y0⟩

theorem pixelBox_x_add_w (xMin yMin xMax yMax : Float) (width height : Nat) :
    (pixelBox xMin yMin xMax yMax width height).x + (pixelBox xMin yMin xMax yMax width height).w
      = max (toPixels xMax width) (toPixels xMin width) := by
  simp only [pixelBox]
  omega

/-- A row-major 2×3 matrix acting on normalized points. -/
structure AffineMap where
  m0 : Float
  m1 : Float
  m2 : Float
  m3 : Float
  m4 : Float
  m5 : Float
  deriving Inhabited

namespace AffineMap

def entries (a : AffineMap) : List Float := [a.m0, a.m1, a.m2, a.m3, a.m4, a.m5]

def ofEntries? : List Float → Option AffineMap
  | [a, b, c, d, e, f] => some ⟨a, b, c, d, e, f⟩
  | _ => none

/-- The map of a crop `src` of a `srcW × srcH` source resized into `dst` of a `dstW × dstH`
destination. Empty rectangles have no map. -/
def ofCrop (srcW srcH dstW dstH : Float) (src dst : Rect) : Except String AffineMap :=
  if srcW == 0.0 || srcH == 0.0 || dst.w == 0 || dst.h == 0 then
    .error "affine transform over an empty rectangle"
  else
    let sx := Binary.nearest src.x
    let sy := Binary.nearest src.y
    let sw := Binary.nearest src.w
    let sh := Binary.nearest src.h
    let dx := Binary.nearest dst.x
    let dy := Binary.nearest dst.y
    let dw := Binary.nearest dst.w
    let dh := Binary.nearest dst.h
    .ok ⟨(dstW * sw) / (srcW * dw), 0.0, sx / srcW - (dx * sw) / (dw * srcW),
      0.0, (dstH * sh) / (srcH * dh), sy / srcH - (dy * sh) / (dh * srcH)⟩

def apply (a : AffineMap) (x y : Float) : Float × Float :=
  (a.m0 * x + a.m1 * y + a.m2, a.m3 * x + a.m4 * y + a.m5)

def same (a b : AffineMap) : Bool :=
  (a.entries.zip b.entries).all fun p => p.1 == p.2

end AffineMap

end MemBridge
