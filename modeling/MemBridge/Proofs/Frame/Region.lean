import MemBridge.Proofs.Tensor.Slice
import MemBridge.Frame.Lineage
import MemBridge.Proofs.Host.Recycling

/-!
Regions of frames.

A region of a frame is a rectangle in pixels of the frame's first plane. Its checks come first:
an empty rectangle is refused; the far edges are summed in checked arithmetic, which stops the
computation when a sum leaves the word; a rectangle past the first plane is refused. Each check
that fails leaves the store as it was. Every plane is then cut at the rectangle scaled to its
size, the start rounded down and the end up. On a plane of positive size that cut is non-empty,
inside the plane and covers the scaled rectangle, and on a plane of the first plane's size it is
the rectangle itself (`Frame.axisCut`, `Frame.axisCut_self`). The scaling multiplies in checked
arithmetic too (`Frame.scaled_eq_ok_iff`).
-/

namespace MemBridge

namespace Frame

/-! ### The cut of one axis -/

section Axis

variable {x n W w : Nat}

theorem le_ceil_mul (b : Nat) (hW : 0 < W) : b ≤ (b + W - 1) / W * W := by
  have hdiv := Nat.div_add_mod (b + W - 1) W
  have hmod := Nat.mod_lt (b + W - 1) hW
  rw [Nat.mul_comm] at hdiv
  omega

/-- The cut `[lo, hi)` of an axis of `w` pixels covers the span `[x, x + n)` of an axis of `W`
pixels scaled to it: it is non-empty, inside the `w` pixels, starts at or before the scaled start
and ends at or after the scaled end. -/
structure Covers (x n W w lo hi : Nat) : Prop where
  nonempty : lo < hi
  inside : hi ≤ w
  start : lo * W ≤ x * w
  stop : (x + n) * w ≤ hi * W

theorem axisCut (hn : 0 < n) (hW : x + n ≤ W) (hw : 0 < w) :
    Covers x n W w (x * w / W) (((x + n) * w + W - 1) / W) := by
  have hWpos : 0 < W := by omega
  have hfloor : x * w / W * W ≤ x * w := Nat.div_mul_le_self _ _
  have hceil := le_ceil_mul ((x + n) * w) hWpos
  have hgrow : x * w < (x + n) * w := Nat.mul_lt_mul_of_pos_right (by omega) hw
  have hinside : (x + n) * w ≤ w * W := by
    rw [Nat.mul_comm w W]
    exact Nat.mul_le_mul_right w hW
  refine ⟨?_, ?_, hfloor, hceil⟩
  · -- the start's pixels end before the end's: `⌊a/W⌋·W ≤ a < b ≤ ⌈b/W⌉·W`
    exact Nat.lt_of_mul_lt_mul_right (Nat.lt_of_le_of_lt hfloor (Nat.lt_of_lt_of_le hgrow hceil))
  · -- `b ≤ w·W`, so `⌈b/W⌉ ≤ w`
    refine Nat.lt_succ_iff.1 ((Nat.div_lt_iff_lt_mul hWpos).2 ?_)
    rw [Nat.succ_mul]
    omega

theorem axisCut_self (hW : 0 < W) : x * W / W = x ∧ ((x + n) * W + W - 1) / W = x + n := by
  refine ⟨Nat.mul_div_cancel x hW, ?_⟩
  rw [Nat.add_sub_assoc (by omega), Nat.mul_comm, Nat.mul_add_div hW,
    Nat.div_eq_of_lt (by omega), Nat.add_zero]

end Axis

/-! ### The cut of every plane -/

section Plane

variable {rect : Rect} {W H w h : Nat}

theorem checkedMul_eq_ok {a b c : Nat} : checkedMul a b = .ok c ↔ a * b < Word.bound ∧ c = a * b := by
  unfold checkedMul
  cases h : Word.mulChecked a b with
  | none =>
    have hover : ¬a * b < Word.bound := fun hlt => by
      rw [Word.mulChecked_eq_some_iff.2 ⟨hlt, rfl⟩] at h
      cases h
    simp [hover]
  | some d =>
    obtain ⟨hlt, rfl⟩ := Word.mulChecked_eq_some_iff.1 h
    simp [hlt, eq_comm]

theorem scaled_eq_ok_iff {cut : (Nat × Nat) × (Nat × Nat)} :
    scaled rect W H w h = .ok cut ↔
      (rect.x + rect.w) * w < Word.bound ∧ (rect.y + rect.h) * h < Word.bound ∧
        cut = ((rect.y * h / H, ((rect.y + rect.h) * h + H - 1) / H),
          (rect.x * w / W, ((rect.x + rect.w) * w + W - 1) / W)) := by
  -- a far edge scaled is at least its near edge scaled, so only the far edges can overflow first
  have hx : rect.x * w ≤ (rect.x + rect.w) * w := Nat.mul_le_mul_right _ (by omega)
  have hy : rect.y * h ≤ (rect.y + rect.h) * h := Nat.mul_le_mul_right _ (by omega)
  simp only [scaled, except_bind_eq_ok, checkedMul_eq_ok]
  constructor
  · rintro ⟨_, ⟨-, rfl⟩, _, ⟨-, rfl⟩, _, ⟨hx₁, rfl⟩, _, ⟨hy₁, rfl⟩, hcut⟩
    exact ⟨hx₁, hy₁, (Except.ok.inj hcut).symm⟩
  · rintro ⟨hx₁, hy₁, rfl⟩
    exact ⟨_, ⟨by omega, rfl⟩, _, ⟨by omega, rfl⟩, _, ⟨hx₁, rfl⟩, _, ⟨hy₁, rfl⟩, rfl⟩

theorem scaled_covers (hw₀ : 0 < rect.w) (hh₀ : 0 < rect.h) (hW : rect.x + rect.w ≤ W)
    (hH : rect.y + rect.h ≤ H) (hw : 0 < w) (hh : 0 < h) {y₀ y₁ x₀ x₁ : Nat}
    (hcut : scaled rect W H w h = .ok ((y₀, y₁), (x₀, x₁))) :
    Covers rect.x rect.w W w x₀ x₁ ∧ Covers rect.y rect.h H h y₀ y₁ := by
  obtain ⟨-, -, hc⟩ := scaled_eq_ok_iff.1 hcut
  simp only [Prod.mk.injEq] at hc
  obtain ⟨⟨rfl, rfl⟩, rfl, rfl⟩ := hc
  exact ⟨axisCut hw₀ hW hw, axisCut hh₀ hH hh⟩

-- a chroma plane of half the size of a 4 × 4 plane: the middle 2 × 2 block lies in its first
-- two rows and columns
example : Covers 1 2 4 2 0 2 ∧ Covers 1 2 4 2 0 2 :=
  @scaled_covers ⟨1, 1, 2, 2⟩ 4 4 2 2 (by decide) (by decide) (by decide) (by decide) (by decide)
    (by decide) 0 2 0 2 rfl

theorem scaled_self (hW : 0 < W) (hH : 0 < H) {cut : (Nat × Nat) × (Nat × Nat)}
    (hcut : scaled rect W H W H = .ok cut) :
    cut = ((rect.y, rect.y + rect.h), (rect.x, rect.x + rect.w)) := by
  obtain ⟨-, -, rfl⟩ := scaled_eq_ok_iff.1 hcut
  obtain ⟨hx₀, hx₁⟩ := axisCut_self (x := rect.x) (n := rect.w) hW
  obtain ⟨hy₀, hy₁⟩ := axisCut_self (x := rect.y) (n := rect.h) hH
  rw [hx₀, hx₁, hy₀, hy₁]

end Plane

/-! ### The checks of a region -/

/-- A frame at `r` whose first plane, the tensor at `first`, has rows and columns: the plane the
region's rectangle is given in. -/
structure FirstPlane (w : World) (r : Ref) (f : Frame) (first : Ref) (t : Tensor)
    (base : ImageView) : Prop where
  frame : w.bodyAt r = some (.frame f)
  select : f.select (.nth 0) = .ok first
  tensor : w.bodyAt first = some (.tensor t)
  image : ImageView.ofLayout t.layout = .ok base

open Act

variable {w : World} {r first : Ref} {f : Frame} {t : Tensor} {base : ImageView} {rect : Rect}

theorem region_empty (h : rect.w = 0 ∨ rect.h = 0) :
    (region r rect).run w = .error (.invalidArgument ("empty region " ++ rect.debugText)) w := by
  have hc : (decide (rect.w = 0) || decide (rect.h = 0)) = true := by simpa using h
  simp only [region, EStateM.run_bind, hc, if_true, run_throw]
  rfl

theorem emptyTest_eq_false (hne : rect.w ≠ 0 ∧ rect.h ≠ 0) :
    (decide (rect.w = 0) || decide (rect.h = 0)) = false := by
  simpa using hne

section Checks

variable (hne : rect.w ≠ 0 ∧ rect.h ≠ 0) (hp : FirstPlane w r f first t base)
include hne hp

theorem region_wide_halts (hx : Word.bound ≤ rect.x + rect.w) :
    (region r rect).run w = .error (.halt "attempt to add with overflow") w := by
  simp only [region, EStateM.run_bind, emptyTest_eq_false hne, Bool.false_eq_true, if_false, run_frame hp.frame,
    hp.select, run_lift_ok, run_tensor hp.tensor, hp.image, checkedAdd_of_le hx, run_lift_error]
  rfl

theorem region_wide_refused (hx : rect.x + rect.w < Word.bound)
    (hW : base.width < rect.x + rect.w) :
    (region r rect).run w = .error (.invalidArgument ("region " ++ rect.debugText ++ " exceeds " ++
      toString base.width ++ "x" ++ toString base.height ++ " frame")) w := by
  simp only [region, EStateM.run_bind, emptyTest_eq_false hne, Bool.false_eq_true, if_false, run_frame hp.frame,
    hp.select, run_lift_ok, run_tensor hp.tensor, hp.image, checkedAdd_of_lt hx, gt_iff_lt, hW,
    if_true, run_throw]
  rfl

theorem region_tall_halts (hx : rect.x + rect.w < Word.bound) (hW : rect.x + rect.w ≤ base.width)
    (hy : Word.bound ≤ rect.y + rect.h) :
    (region r rect).run w = .error (.halt "attempt to add with overflow") w := by
  simp only [region, EStateM.run_bind, emptyTest_eq_false hne, Bool.false_eq_true, if_false, run_frame hp.frame,
    hp.select, run_lift_ok, run_tensor hp.tensor, hp.image, checkedAdd_of_lt hx, gt_iff_lt,
    Nat.not_lt.2 hW, if_false, checkedAdd_of_le hy, run_lift_error]
  rfl

theorem region_tall_refused (hx : rect.x + rect.w < Word.bound) (hW : rect.x + rect.w ≤ base.width)
    (hy : rect.y + rect.h < Word.bound) (hH : base.height < rect.y + rect.h) :
    (region r rect).run w = .error (.invalidArgument ("region " ++ rect.debugText ++ " exceeds " ++
      toString base.width ++ "x" ++ toString base.height ++ " frame")) w := by
  simp only [region, EStateM.run_bind, emptyTest_eq_false hne, Bool.false_eq_true, if_false, run_frame hp.frame,
    hp.select, run_lift_ok, run_tensor hp.tensor, hp.image, checkedAdd_of_lt hx, gt_iff_lt,
    Nat.not_lt.2 hW, if_false, checkedAdd_of_lt hy, hH, if_true, run_throw]
  rfl

end Checks

end Frame

end MemBridge
