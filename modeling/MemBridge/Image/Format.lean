import MemBridge.Fault
import MemBridge.Text.Blank

/-!
Pixel formats of images.

A format is named by a four-character code; `code` packs the four ASCII characters little
endian. `planeShape i w h` is the `[rows, columns, channels]` shape of plane `i` of a `w × h`
image, and `none` past the last plane (`planeShape_eq_none_iff`).
-/

namespace MemBridge

/-- The pixel formats the library knows. -/
inductive ImageFormat where
  | bgr
  | rgb
  | bgrx
  | rgbx
  | bgrp
  | rgbp
  | nv12
  | i420
  deriving DecidableEq, Repr, Inhabited

namespace ImageFormat

def all : List ImageFormat := [.bgr, .rgb, .bgrx, .rgbx, .bgrp, .rgbp, .nv12, .i420]

def fourcc (a b c d : Char) : Nat :=
  a.toNat + b.toNat * Nat.pow 2 8 + c.toNat * Nat.pow 2 16 + d.toNat * Nat.pow 2 24

/-- The numeric code of a format. -/
def code : ImageFormat → Nat
  | .bgr => fourcc 'B' 'G' 'R' ' '
  | .rgb => fourcc 'R' 'G' 'B' ' '
  | .bgrx => fourcc 'B' 'G' 'R' 'X'
  | .rgbx => fourcc 'R' 'G' 'B' 'X'
  | .bgrp => fourcc 'B' 'G' 'R' 'P'
  | .rgbp => fourcc 'R' 'G' 'B' 'P'
  | .nv12 => fourcc 'N' 'V' '1' '2'
  | .i420 => fourcc 'I' '4' '2' '0'

/-- The display name. -/
def name : ImageFormat → String
  | .bgr => "BGR"
  | .rgb => "RGB"
  | .bgrx => "BGRX"
  | .rgbx => "RGBX"
  | .bgrp => "BGRP"
  | .rgbp => "RGBP"
  | .nv12 => "NV12"
  | .i420 => "I420"

def planes : ImageFormat → Nat
  | .bgr | .rgb | .bgrx | .rgbx => 1
  | .nv12 => 2
  | .bgrp | .rgbp | .i420 => 3

def subsampled : ImageFormat → Bool
  | .nv12 | .i420 => true
  | _ => false

def ofCode? (n : Nat) : Option ImageFormat :=
  all.find? (fun f => f.code == n)

/-- The `[rows, columns, channels]` shape of plane `index` of a `width × height` image. -/
def planeShape (f : ImageFormat) (index width height : Nat) : Option (List Nat) :=
  if index < f.planes then
    some <| match f with
      | .bgr | .rgb => [height, width, 3]
      | .bgrx | .rgbx => [height, width, 4]
      | .bgrp | .rgbp => [height, width, 1]
      | .nv12 => if index = 0 then [height, width, 1] else [height / 2, width / 2, 2]
      | .i420 => if index = 0 then [height, width, 1] else [height / 2, width / 2, 1]
  else none

def parse (s : String) : Except Fault ImageFormat :=
  let up := String.map Char.toUpper (Text.trimBlank s)
  match all.find? (fun f => f.name == up) with
  | some f => .ok f
  | none => .error (.invalidArgument s!"Unknown image format '{s}'")

theorem ofCode?_code (f : ImageFormat) : ofCode? f.code = some f := by
  cases f <;> decide

theorem planeShape_eq_none_iff {f : ImageFormat} {i w h : Nat} :
    f.planeShape i w h = none ↔ f.planes ≤ i := by
  unfold planeShape
  split
  · exact iff_of_false (Option.some_ne_none _) (by omega)
  · exact iff_of_true rfl (by omega)

theorem planeShape_length {f : ImageFormat} {i w h : Nat} {s : List Nat}
    (hs : f.planeShape i w h = some s) : s.length = 3 := by
  unfold planeShape at hs
  split at hs
  · cases f <;> simp at hs <;> (try split at hs) <;> (subst hs; rfl)
  · simp at hs

end ImageFormat

end MemBridge
