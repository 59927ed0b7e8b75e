import MemBridge.Proofs.Device.Limit
import MemBridge.Proofs.Device.Rounding
import MemBridge.Proofs.Device.Adds
import MemBridge.Proofs.Frame.Carve
import MemBridge.Proofs.Layout.Extent
import MemBridge.Mapper.Transfer

/-!
The plane layout of a surface. Its format's planes are laid one after the other from byte 0,
rows padded to the device's pitch alignment (`Device.placePlane`). The checked arithmetic of
`Device.planesOf` computes the exact layout unless a padded row or the end overflows a word
(`Device.planesOf_ok_iff`). The planes are then packed, pairwise disjoint and inside the
surface's allocation (`Device.surface_planes_pitched`).
-/

namespace MemBridge

namespace Plane

def row (p : Plane) : Nat := p.shape.getD 1 0 * p.shape.getD 2 0

def stop (p : Plane) : Nat := p.offset + p.shape.getD 0 0 * p.pitch

theorem offset_le_stop (p : Plane) : p.offset ≤ p.stop := Nat.le_add_right _ _

end Plane

/-! ## Rounding a row up to the pitch alignment -/

namespace Word

theorem land_clear_low (x k : Nat) (hx : x < bound) (hk : k ≤ 64) :
    x &&& (max - (2 ^ k - 1)) = x / 2 ^ k * 2 ^ k := by
  have hpow : 2 ^ k ≤ 2 ^ 64 := Nat.pow_le_pow_right (by decide) hk
  have hmask : max - (2 ^ k - 1) = 2 ^ 64 - (2 ^ k - 1 + 1) := by
    have h1 := Nat.one_le_two_pow (n := k)
    show 2 ^ 64 - 1 - (2 ^ k - 1) = _
    omega
  have hx' : x < 2 ^ 64 := hx
  apply Nat.eq_of_testBit_eq
  intro i
  rw [hmask, Nat.testBit_and, Nat.testBit_two_pow_sub_succ (by omega), Nat.testBit_two_pow_sub_one,
    Nat.testBit_mul_two_pow, Nat.testBit_div_two_pow]
  -- the bits from `k` on are kept up to the word's top, and the bits below `k` are cleared
  by_cases hki : k ≤ i
  · rw [Nat.sub_add_cancel hki]
    by_cases hi : i < 64
    · simp [hki, hi, Nat.not_lt.2 hki]
    · have : x.testBit i = false :=
        Nat.testBit_lt_two_pow (lt_of_lt_of_le hx' (Nat.pow_le_pow_right (by decide) (by omega)))
      simp [hi, this]
  · simp [hki, Nat.lt_of_not_le hki]

end Word

theorem isPowerOfTwo_iff {a : Nat} : isPowerOfTwo a = true ↔ ∃ k, a = 2 ^ k := by
  rw [← Nat.isPowerOfTwo, ← Nat.ne_zero_and_sub_one_eq_zero_iff_isPowerOfTwo]
  simp [isPowerOfTwo]

namespace Device

def pitchFor (row align : Nat) : Nat := Nat.land (row + align - 1) (Word.max - (align - 1))

def IsLeastMultiple (a n p : Nat) : Prop := a ∣ p ∧ n ≤ p ∧ ∀ m, a ∣ m → n ≤ m → p ≤ m

theorem roundUp_isLeastMultiple {a : Nat} (ha : 0 < a) (n : Nat) :
    IsLeastMultiple a n ((n + a - 1) / a * a) := by
  refine ⟨Nat.dvd_mul_left a _, ?_, fun m ⟨t, ht⟩ hm => ?_⟩
  · have := Nat.lt_div_mul_add (a := n + a - 1) ha
    omega
  · subst ht
    -- a multiple `a * t` holding `n` has `t` at least the rounded quotient
    have hq : (n + a - 1) / a < t + 1 := by
      rw [Nat.div_lt_iff_lt_mul ha, Nat.succ_mul, Nat.mul_comm t a]
      omega
    calc (n + a - 1) / a * a ≤ t * a := Nat.mul_le_mul_right a (Nat.lt_succ_iff.1 hq)
      _ = a * t := Nat.mul_comm t a

theorem pitchFor_isLeastMultiple {row align : Nat} (ha : isPowerOfTwo align = true)
    (hfit : row + align < Word.bound) : IsLeastMultiple align row (pitchFor row align) := by
  obtain ⟨k, rfl⟩ := isPowerOfTwo_iff.1 ha
  have hb : Word.bound = 2 ^ 64 := rfl
  have hk : k ≤ 64 :=
    Nat.le_of_lt ((Nat.pow_lt_pow_iff_right (a := 2) (by decide)).1 (show 2 ^ k < 2 ^ 64 by omega))
  rw [pitchFor, Nat.land_eq, Word.land_clear_low _ k (by omega) hk]
  exact roundUp_isLeastMultiple (Nat.two_pow_pos k) row

/-! ## Checked arithmetic -/

theorem checkedMul_of_lt {a b : Nat} (h : a * b < Word.bound) : checkedMul a b = .ok (a * b) := by
  unfold checkedMul Word.mulChecked
  rw [if_pos h]

theorem checkedMul_of_le {a b : Nat} (h : Word.bound ≤ a * b) :
    checkedMul a b = .error Fault.mulOverflow := by
  unfold checkedMul Word.mulChecked
  rw [if_neg (Nat.not_lt.2 h)]

theorem checkedMul_error {a b : Nat} {e : Fault} (h : checkedMul a b = .error e) :
    e = Fault.mulOverflow := by
  by_cases hab : a * b < Word.bound
  · rw [checkedMul_of_lt hab] at h
    cases h
  · rw [checkedMul_of_le (Nat.le_of_not_lt hab)] at h
    cases h
    rfl

theorem checkedAdd_error {a b : Nat} {e : Fault} (h : checkedAdd a b = .error e) :
    e = Fault.addOverflow := by
  by_cases hab : a + b < Word.bound
  · rw [checkedAdd_of_lt hab] at h
    cases h
  · rw [checkedAdd_of_le (Nat.le_of_not_lt hab)] at h
    cases h
    rfl

theorem checkedAdd_eq_ok {a b c : Nat} :
    checkedAdd a b = .ok c ↔ a + b < Word.bound ∧ c = a + b := by
  by_cases hab : a + b < Word.bound
  · rw [checkedAdd_of_lt hab]
    simp [hab, eq_comm]
  · rw [checkedAdd_of_le (Nat.le_of_not_lt hab)]
    simp [hab]

theorem except_bind_eq_ok {α β : Type} {x : Except Fault α} {f : α → Except Fault β} {b : β} :
    x >>= f = .ok b ↔ ∃ a, x = .ok a ∧ f a = .ok b := by
  cases x <;> simp [bind, Except.bind]

theorem except_bind_eq_error {α β : Type} {x : Except Fault α} {f : α → Except Fault β}
    {e : Fault} (h : x >>= f = .error e) : x = .error e ∨ ∃ a, x = .ok a ∧ f a = .error e := by
  cases x with
  | error e' => exact .inl (by simpa [bind, Except.bind] using h)
  | ok a => exact .inr ⟨a, rfl, h⟩

/-! ## The layout in exact arithmetic -/

section Layout

variable (format : ImageFormat) (width height align : Nat)

def planeAt (index offset : Nat) : Plane :=
  let shape := (format.planeShape index width height).getD []
  ⟨offset, pitchFor (shape.getD 1 0 * shape.getD 2 0) align, shape⟩

/-- The first `n` planes of a surface laid one after the other from byte 0, and where the last
one stops, in exact arithmetic. -/
def layout : Nat → List Plane × Nat
  | 0 => ([], 0)
  | n + 1 =>
    let acc := layout n
    let p := planeAt format width height align n acc.2
    (acc.1 ++ [p], p.stop)

/-- The arithmetic of the first `n` planes stays in a word: every padded row, and the end of the
last plane. -/
def LayoutFits (n : Nat) : Prop :=
  (∀ p ∈ (layout format width height align n).1, p.row + align < Word.bound) ∧
    (layout format width height align n).2 < Word.bound

variable {format width height align}

theorem layout_succ (n : Nat) :
    layout format width height align (n + 1) =
      ((layout format width height align n).1 ++
          [planeAt format width height align n (layout format width height align n).2],
        (planeAt format width height align n (layout format width height align n).2).stop) :=
  rfl

theorem planeShape_isSome {index : Nat} (hi : index < format.planes) (width height : Nat) :
    ∃ s, format.planeShape index width height = some s := by
  simp [ImageFormat.planeShape, hi]

theorem planeAt_shape {index : Nat} (hi : index < format.planes) (offset : Nat) :
    format.planeShape index width height =
      some (planeAt format width height align index offset).shape := by
  obtain ⟨s, hs⟩ := planeShape_isSome hi width height
  simp [planeAt, hs]

theorem planeAt_pitch (index offset : Nat) :
    (planeAt format width height align index offset).pitch =
      pitchFor (planeAt format width height align index offset).row align :=
  rfl

theorem layoutFits_succ {n : Nat} :
    LayoutFits format width height align (n + 1) ↔
      LayoutFits format width height align n ∧
        (planeAt format width height align n (layout format width height align n).2).row +
          align < Word.bound ∧
        (planeAt format width height align n (layout format width height align n).2).stop <
          Word.bound := by
  -- the planes before the last one end where the last one starts, below where it stops
  have hle := Plane.offset_le_stop
    (planeAt format width height align n (layout format width height align n).2)
  simp only [LayoutFits, layout_succ, List.mem_append, List.mem_singleton]
  constructor
  · rintro ⟨hrows, hstop⟩
    exact ⟨⟨fun p hp => hrows p (.inl hp), lt_of_le_of_lt hle hstop⟩, hrows _ (.inr rfl), hstop⟩
  · rintro ⟨⟨hrows, -⟩, hrow, hstop⟩
    refine ⟨fun p hp => ?_, hstop⟩
    rcases hp with hp | rfl
    exacts [hrows p hp, hrow]

theorem length_layout (n : Nat) : (layout format width height align n).1.length = n := by
  induction n with
  | zero => rfl
  | succ n ih => simp [layout_succ, ih]

theorem getElem_layout {n i : Nat} (hi : i < (layout format width height align n).1.length) :
    (layout format width height align n).1[i] =
      planeAt format width height align i (layout format width height align i).2 := by
  induction n with
  | zero => simp [layout] at hi
  | succ n ih =>
    simp only [layout_succ, List.length_append, List.length_singleton, length_layout] at hi ⊢
    rcases Nat.lt_succ_iff_lt_or_eq.1 hi with hi | rfl
    · rw [List.getElem_append_left (by rwa [length_layout])]
      exact ih (by rwa [length_layout])
    · rw [List.getElem_append_right (by rw [length_layout])]
      simp [length_layout]

end Layout

/-! ## Packed planes -/

/-- Planes laid one after the other from byte 0: the first starts at 0, each next one where the
one before it stops, and `size` is where the last one stops. -/
structure Packed (ps : List Plane) (size : Nat) : Prop where
  first : ∀ h : 0 < ps.length, ps[0].offset = 0
  next : ∀ i (h : i + 1 < ps.length), ps[i + 1].offset = ps[i].stop
  last : size = (ps.getLast?.map Plane.stop).getD 0

namespace Packed

variable {ps : List Plane} {size : Nat}

theorem nil : Packed [] 0 where
  first h := absurd h (Nat.lt_irrefl 0)
  next _ h := absurd h (by simp)
  last := rfl

theorem push (h : Packed ps size) (p : Plane) (hp : p.offset = size) :
    Packed (ps ++ [p]) p.stop where
  first h₀ := by
    cases ps with
    | nil => simpa [h.last] using hp
    | cons q qs =>
      have h₀ := h.first (by simp)
      simp only [List.getElem_cons_zero] at h₀
      simpa using h₀
  next i hi := by
    simp only [List.length_append, List.length_singleton] at hi
    rcases Nat.lt_succ_iff_lt_or_eq.1 hi with hi | hi
    · rw [List.getElem_append_left hi, List.getElem_append_left (by omega)]
      exact h.next i hi
    · -- the new plane starts where the last packed one stops
      rw [List.getElem_append_right (by omega), List.getElem_append_left (by omega)]
      have hlast : ps.getLast? = some ps[i] := by
        rw [List.getLast?_eq_getElem?, List.getElem?_eq_getElem (by omega)]
        simp [← hi]
      simp [hp, h.last, hlast]
  last := by simp

theorem stop_le_offset (h : Packed ps size) {i j : Nat} (hij : i < j) (hj : j < ps.length) :
    ps[i].stop ≤ ps[j].offset := by
  induction j with
  | zero => exact absurd hij (Nat.not_lt_zero i)
  | succ j ih =>
    rw [h.next j hj]
    rcases Nat.lt_succ_iff_lt_or_eq.1 hij with hij | rfl
    · exact le_trans (ih hij (by omega)) (Plane.offset_le_stop _)
    · exact Nat.le_refl _

theorem stop_le_size (h : Packed ps size) {i : Nat} (hi : i < ps.length) : ps[i].stop ≤ size := by
  have hlast : ps.getLast? = some ps[ps.length - 1] := by
    rw [List.getLast?_eq_getElem?, List.getElem?_eq_getElem (by omega)]
  have hsize : size = ps[ps.length - 1].stop := by simp [h.last, hlast]
  rw [hsize]
  rcases Nat.lt_or_ge i (ps.length - 1) with hlt | hge
  · exact le_trans (h.stop_le_offset hlt (by omega)) (Plane.offset_le_stop _)
  · have : i = ps.length - 1 := by omega
    subst this
    exact Nat.le_refl _

end Packed

theorem packed_layout (format : ImageFormat) (width height align n : Nat) :
    Packed (layout format width height align n).1 (layout format width height align n).2 := by
  induction n with
  | zero => exact .nil
  | succ n ih => exact ih.push _ rfl

/-! ## Checked layout -/

section Checked

variable {format : ImageFormat} {width height align : Nat}

theorem placePlane_ok_iff {index : Nat} (hi : index < format.planes) (ps : List Plane)
    (offset : Nat) {r : List Plane × Nat} :
    placePlane format width height align (ps, offset) index = .ok r ↔
      ((planeAt format width height align index offset).row + align < Word.bound ∧
        (planeAt format width height align index offset).stop < Word.bound) ∧
      r = (ps ++ [planeAt format width height align index offset],
        (planeAt format width height align index offset).stop) := by
  obtain ⟨s, hs⟩ := planeShape_isSome hi width height
  have hp : planeAt format width height align index offset =
      ⟨offset, pitchFor (s.getD 1 0 * s.getD 2 0) align, s⟩ := by
    simp [planeAt, hs]
  rw [hp]
  simp only [placePlane, hs, pure_bind, Plane.row, Plane.stop, Plane.nbytes]
  constructor
  · -- each checked product and sum went through, so each is exact and a word
    intro h
    obtain ⟨row, hrow, h⟩ := except_bind_eq_ok.1 h
    obtain ⟨padded, hpad, h⟩ := except_bind_eq_ok.1 h
    obtain ⟨bytes, hbytes, h⟩ := except_bind_eq_ok.1 h
    obtain ⟨offset', hoff, h⟩ := except_bind_eq_ok.1 h
    obtain ⟨-, rfl⟩ := Frame.checkedMul_eq_ok.1 hrow
    obtain ⟨hpadded, rfl⟩ := checkedAdd_eq_ok.1 hpad
    obtain ⟨-, rfl⟩ := Frame.checkedMul_eq_ok.1 hbytes
    obtain ⟨hend, rfl⟩ := checkedAdd_eq_ok.1 hoff
    simp only [pure, Except.pure, Except.ok.injEq] at h
    exact ⟨⟨hpadded, hend⟩, h.symm⟩
  · rintro ⟨⟨hpad, hoff⟩, rfl⟩
    unfold pitchFor at hoff ⊢
    have hrow : s.getD 1 0 * s.getD 2 0 < Word.bound := by omega
    have hbytes : s.getD 0 0 * Nat.land (s.getD 1 0 * s.getD 2 0 + align - 1)
        (Word.max - (align - 1)) < Word.bound := by omega
    simp only [checkedMul_of_lt hrow, checkedAdd_of_lt hpad, checkedMul_of_lt hbytes,
      checkedAdd_of_lt hoff, bind, Except.bind, pure, Except.pure]

theorem placePlane_error {index : Nat} (hi : index < format.planes) (acc : List Plane × Nat)
    {e : Fault} (h : placePlane format width height align acc index = .error e) :
    e = Fault.addOverflow ∨ e = Fault.mulOverflow := by
  obtain ⟨s, hs⟩ := planeShape_isSome hi width height
  simp only [placePlane, hs] at h
  -- the shape is there; each later step is a checked product or sum
  rcases except_bind_eq_error h with h | ⟨s', -, h⟩
  · cases h
  rcases except_bind_eq_error h with h | ⟨row, -, h⟩
  · exact .inr (checkedMul_error h)
  rcases except_bind_eq_error h with h | ⟨padded, -, h⟩
  · exact .inl (checkedAdd_error h)
  rcases except_bind_eq_error h with h | ⟨bytes, -, h⟩
  · exact .inr (checkedMul_error h)
  rcases except_bind_eq_error h with h | ⟨offset, -, h⟩
  · exact .inl (checkedAdd_error h)
  · cases h

theorem foldlM_placePlane_ok_iff {n : Nat} (hn : n ≤ format.planes) {r : List Plane × Nat} :
    (List.range n).foldlM (placePlane format width height align) ([], 0) = .ok r ↔
      LayoutFits format width height align n ∧ r = layout format width height align n := by
  induction n generalizing r with
  | zero =>
    simp only [List.range_zero, List.foldlM_nil]
    exact ⟨fun h => by cases h; exact ⟨⟨by simp [layout], show 0 < Word.bound by decide⟩, rfl⟩,
      fun ⟨_, h⟩ => by rw [h]; rfl⟩
  | succ n ih =>
    rw [List.range_succ, List.foldlM_append, except_bind_eq_ok, layoutFits_succ]
    simp only [List.foldlM_cons, List.foldlM_nil, bind_pure]
    constructor
    · rintro ⟨acc, hacc, hstep⟩
      obtain ⟨hfits, rfl⟩ := (ih (by omega)).1 hacc
      obtain ⟨hok, rfl⟩ := (placePlane_ok_iff (by omega) _ _).1 hstep
      exact ⟨⟨hfits, hok⟩, rfl⟩
    · rintro ⟨⟨hfits, hok⟩, rfl⟩
      exact ⟨_, (ih (by omega)).2 ⟨hfits, rfl⟩, (placePlane_ok_iff (by omega) _ _).2 ⟨hok, rfl⟩⟩

theorem foldlM_placePlane_error {n : Nat} (hn : n ≤ format.planes) {e : Fault}
    (h : (List.range n).foldlM (placePlane format width height align) ([], 0) = .error e) :
    e = Fault.addOverflow ∨ e = Fault.mulOverflow := by
  induction n with
  | zero => cases h
  | succ n ih =>
    rw [List.range_succ, List.foldlM_append] at h
    simp only [List.foldlM_cons, List.foldlM_nil, bind_pure] at h
    rcases except_bind_eq_error h with h | ⟨acc, -, h⟩
    · exact ih (by omega) h
    · exact placePlane_error (by omega) acc h

theorem planesOf_ok_iff {r : List Plane × Nat} :
    planesOf format width height align = .ok r ↔
      LayoutFits format width height align format.planes ∧
        r = layout format width height align format.planes :=
  foldlM_placePlane_ok_iff (Nat.le_refl _)

theorem planesOf_error {e : Fault} (h : planesOf format width height align = .error e) :
    e = Fault.addOverflow ∨ e = Fault.mulOverflow :=
  foldlM_placePlane_error (Nat.le_refl _) h

end Checked

/-! ## Plane views -/

theorem planeShape_pos {format : ImageFormat} {index width height : Nat} {s : List Nat}
    (hw : 0 < width) (hh : 0 < height)
    (heven : format.subsampled = true → width % 2 = 0 ∧ height % 2 = 0)
    (hs : format.planeShape index width height = some s) : ∀ x ∈ s, 0 < x := by
  unfold ImageFormat.planeShape at hs
  split at hs
  · cases format
    all_goals simp only [ImageFormat.subsampled, Option.some.injEq, forall_const] at hs heven
    all_goals first
      | (subst hs; simp; omega)
      | (split at hs <;> subst hs <;> simp <;> omega)
  · cases hs

theorem planeShape_length {format : ImageFormat} {index width height : Nat} {s : List Nat}
    (hs : format.planeShape index width height = some s) : s.length = 3 := by
  unfold ImageFormat.planeShape at hs
  split at hs
  · cases format <;> simp only [Option.some.injEq] at hs
    all_goals first
      | (subst hs; rfl)
      | (split at hs <;> subst hs <;> rfl)
  · cases hs

theorem planeLayout_within {p : Plane} (hpos : ∀ x ∈ p.shape, 0 < x) (hlen : p.shape.length = 3)
    (hrow : p.row ≤ p.pitch) (hfit : p.stop < Word.bound) :
    ∃ l, Mapper.planeLayout p = .ok l ∧ l.span ≤ l.nbytes ∧ l.nbytes ≤ p.shape.getD 0 0 * p.pitch := by
  obtain ⟨shape, pitch⟩ := p
  obtain ⟨r, c, k, rfl⟩ := List.length_eq_three.1 hlen
  simp only [List.mem_cons, List.not_mem_nil, or_false, forall_eq_or_imp, forall_eq] at hpos
  obtain ⟨hr, hc, hk⟩ := hpos
  simp only [Plane.row, Plane.stop, List.getD_cons_zero, List.getD_cons_succ] at hrow hfit ⊢
  -- the rows before the last at the pitch, then one row: within the rows at the pitch
  obtain ⟨r', rfl⟩ : ∃ r', r = r' + 1 := ⟨r - 1, by omega⟩
  have hrows : (r' + 1) * pitch = r' * pitch + pitch := Nat.succ_mul r' pitch
  have hck : k ≤ c * k := Nat.le_mul_of_pos_left k hc
  have hnests : Layout.nests [r' + 1, c, k] [pitch, k, 1] ElementType.uint8.size = true := by
    simp [Layout.nests, ElementType.size, hrow]
  have hfits : Layout.fits [r' + 1, c, k] [pitch, k, 1] .uint8 = true := by
    have hspan : (c - 1) * k + (k - 1) + 1 = c * k := by
      obtain ⟨c', rfl⟩ : ∃ c', c = c' + 1 := ⟨c - 1, by omega⟩
      simp only [Nat.add_sub_cancel, Nat.succ_mul]
      omega
    simp only [Layout.fits, List.zip_cons_cons, List.zip_nil_right, List.all_cons, List.all_nil,
      List.map_cons, List.map_nil, List.foldr_cons, List.foldr_nil, ElementType.size,
      decide_eq_true_eq, Bool.and_true, Bool.and_eq_true, Nat.add_sub_cancel, Nat.mul_one]
    omega
  refine ⟨⟨[r' + 1, c, k], [pitch, k, 1], .uint8⟩,
    Layout.withStride_eq_ok.2 ⟨rfl, hfits, rfl⟩, Layout.span_le_nbytes_of_nests rfl hnests, ?_⟩
  simp only [Layout.nbytes, List.isEmpty_cons, Bool.false_eq_true, ↓reduceIte,
    List.contains_iff_mem, List.mem_cons, List.not_mem_nil, or_false, List.zip_cons_cons,
    List.zip_nil_right, List.map_cons, List.map_nil, List.foldl_cons, List.foldl_nil, Nat.mul_one]
  split
  · exact Nat.zero_le _
  · simp only [Nat.max_le, Nat.zero_le, true_and]
    omega

theorem planesOf_laid_out {format : ImageFormat} {width height align : Nat}
    (ha : isPowerOfTwo align = true) (hw : 0 < width) (hh : 0 < height)
    (heven : format.subsampled = true → width % 2 = 0 ∧ height % 2 = 0)
    {ps : List Plane} {size : Nat} (h : planesOf format width height align = .ok (ps, size)) :
    ps.length = format.planes ∧
    (∀ i (hi : i < ps.length), format.planeShape i width height = some ps[i].shape ∧
      IsLeastMultiple align ps[i].row ps[i].pitch) ∧
    Packed ps size ∧
    (∀ i j (hi : i < ps.length) (hj : j < ps.length), i < j → ps[i].stop ≤ ps[j].offset) ∧
    ∀ i (hi : i < ps.length), ∃ l, Mapper.planeLayout ps[i] = .ok l ∧
      ps[i].offset + l.span ≤ size ∧ ps[i].offset + l.nbytes ≤ size := by
  obtain ⟨⟨hrows, hend⟩, hr⟩ := planesOf_ok_iff.1 h
  obtain ⟨rfl, rfl⟩ := Prod.mk.inj hr
  have hpacked := packed_layout format width height align format.planes
  have hlen : (layout format width height align format.planes).1.length = format.planes :=
    length_layout _
  -- each plane is the format's plane at its index, at the pitch of its row
  have hplane : ∀ i (hi : i < (layout format width height align format.planes).1.length),
      format.planeShape i width height =
        some (layout format width height align format.planes).1[i].shape ∧
      (layout format width height align format.planes).1[i].pitch =
        pitchFor (layout format width height align format.planes).1[i].row align := by
    intro i hi
    rw [getElem_layout hi]
    exact ⟨planeAt_shape (by omega) _, planeAt_pitch _ _⟩
  have hleast : ∀ i (hi : i < (layout format width height align format.planes).1.length),
      IsLeastMultiple align (layout format width height align format.planes).1[i].row
        (layout format width height align format.planes).1[i].pitch := by
    intro i hi
    rw [(hplane i hi).2]
    exact pitchFor_isLeastMultiple ha (hrows _ (List.getElem_mem hi))
  refine ⟨hlen, fun i hi => ⟨(hplane i hi).1, hleast i hi⟩, hpacked,
    fun i j _ hj hij => hpacked.stop_le_offset hij hj, fun i hi => ?_⟩
  -- the view of a plane lies within the plane, which stops within the surface
  have hstop := hpacked.stop_le_size hi
  obtain ⟨l, hl, hspan, hbytes⟩ := planeLayout_within
    (planeShape_pos hw hh heven (hplane i hi).1) (planeShape_length (hplane i hi).1)
    (hleast i hi).2.1 (lt_of_le_of_lt hstop hend)
  refine ⟨l, hl, ?_, ?_⟩ <;> unfold Plane.stop at hstop <;> omega

/-! ## Making a surface -/

section Make

open Act World

variable {w w' : World} {dv : Ref} {d : Device}

theorem call_run_ok {backend : MemoryKind} {name : String} {u : Unit}
    (hd : w.bodyAt dv = some (.device d)) (h : (call dv backend name).run w = .ok u w') :
    w' = w ∧ d.faults.lookup name = none := by
  simp only [call, EStateM.run_bind, run_device hd] at h
  split at h
  · simp [EStateM.run_bind, run_modifyDevice hd] at h
  · next hnone =>
    cases h
    exact ⟨rfl, hnone⟩

theorem registerSurface_run_ok {format : Option ImageFormat} {width height : Nat}
    {planes : List Plane} {memory s : Ref} (hd : w.bodyAt dv = some (.device d))
    (h : (registerSurface dv format width height planes memory).run w = .ok s w') :
    w'.bodyAt s = some (.surface ⟨d.nextHandle, format, width, height, planes, memory, dv⟩) ∧
      ∀ r, r ≠ dv → r < w.nodes.size → w'.bodyAt r = w.bodyAt r := by
  have hlt := lt_size_of_bodyAt hd
  simp only [registerSurface] at h
  obtain ⟨id, w₁, hid, h⟩ := bind_ok h
  simp only [nextHandleOf, EStateM.run_bind, run_device hd, run_modifyDevice hd] at hid
  cases hid
  obtain ⟨s', w₂, hc, h⟩ := bind_ok h
  rw [run_create] at hc
  cases hc
  have hne : w.nodes.size ≠ dv := Nat.ne_of_gt hlt
  set w₂ := (w.setBody dv (.device { d with nextHandle := d.nextHandle + 1 })).push
    ⟨1, .surface ⟨d.nextHandle, format, width, height, planes, memory, dv⟩⟩ with hw₂
  have hd₂ : w₂.bodyAt dv = some (.device { d with nextHandle := d.nextHandle + 1 }) := by
    rw [hw₂, bodyAt_push, if_neg (by rw [setBody_size]; exact hne.symm),
      bodyAt_setBody_of_lt _ hlt]
  obtain ⟨d₂, w₃, hdev, h⟩ := bind_ok h
  rw [run_device hd₂] at hdev
  cases hdev
  -- the walk over the surface table only reads which surfaces are alive
  obtain ⟨table, w₄, hloop, h⟩ := bind_ok h
  obtain ⟨rfl, -⟩ := forIn_filter_ok (p := fun e => decide (0 < w₂.strongAt e.2)) (by
    intro q acc s w₅ hs
    obtain ⟨b, w₆, hb, hret⟩ := bind_ok hs
    obtain ⟨rfl, rfl⟩ := alive_run_ok hb
    cases hdec : decide (0 < w₂.strongAt q.2) <;>
      simp only [hdec, ↓reduceIte, Bool.false_eq_true] at hret <;> cases hret <;> simp)
    _ _ _ _ hloop
  obtain ⟨_, w₅, hmod, h⟩ := bind_ok h
  rw [run_modifyDevice hd₂] at hmod
  cases hmod
  cases h
  refine ⟨?_, fun r hr hrlt => ?_⟩
  · rw [bodyAt_setBody_of_ne _ (by simpa using hne), hw₂, bodyAt_push, if_pos (by simp)]
  · rw [bodyAt_setBody_of_ne _ hr, hw₂, bodyAt_push,
      if_neg (by rw [setBody_size]; exact Nat.ne_of_lt hrlt), bodyAt_setBody_of_ne _ hr]

theorem createSurface_run_ok {format : ImageFormat} {width height : Nat} {s : Ref}
    (hd : w.bodyAt dv = some (.device d))
    (h : (createSurface dv format width height).run w = .ok s w') :
    (0 < width ∧ 0 < height ∧ (format.subsampled = true → width % 2 = 0 ∧ height % 2 = 0)) ∧
    ∃ sf a, w'.bodyAt s = some (.surface sf) ∧ w'.bodyAt sf.memory = some (.allocation a) ∧
      sf.format = some format ∧ sf.width = width ∧ sf.height = height ∧ sf.device = dv ∧
      planesOf format width height d.config.pitchAlignment = .ok (sf.planes, a.buffer.len) := by
  simp only [createSurface] at h
  obtain ⟨u, w₁, hcall, h₁⟩ := bind_ok h
  obtain ⟨rfl, -⟩ := call_run_ok hd hcall
  clear h
  by_cases hbad : (decide (width = 0) || decide (height = 0) ||
      format.subsampled && (width % 2 != 0 || height % 2 != 0)) = true
  · -- a surface of bad geometry is refused before anything is made
    rw [if_pos hbad, EStateM.run_bind] at h₁
    cases h₁
  · rw [if_neg hbad] at h₁
    refine ⟨?_, ?_⟩
    · simp only [Bool.or_eq_true, decide_eq_true_eq, Bool.and_eq_true, bne_iff_ne, ne_eq,
        not_or, not_and] at hbad
      obtain ⟨⟨hw, hh⟩, heven⟩ := hbad
      exact ⟨Nat.pos_of_ne_zero hw, Nat.pos_of_ne_zero hh, fun hs => by
        have := heven hs
        omega⟩
    obtain ⟨d', w₂, hdev, h₂⟩ := bind_ok h₁
    rw [run_device hd] at hdev
    cases hdev
    obtain ⟨⟨planes, size⟩, w₃, hlift, h₃⟩ := bind_ok h₂
    obtain ⟨hplanes, rfl⟩ := lift_run_ok hlift
    obtain ⟨m, w₄, halloc, h₄⟩ := bind_ok h₃
    obtain ⟨-, a, d₄, hm, hd₄, -, hlen, -⟩ := allocate_admitted hd halloc
    obtain ⟨hs, hkeep⟩ := registerSurface_run_ok hd₄ h₄
    -- the allocation is no device, so registering the surface keeps it
    have hmd : m ≠ dv := fun e => by rw [e, hd₄] at hm; cases hm
    refine ⟨_, a, hs, ?_, rfl, rfl, rfl, rfl, by rw [hlen]; exact hplanes⟩
    rw [hkeep m hmd (lt_size_of_bodyAt hm), hm]

end Make

/-- The plane layout of a surface. At any pitch alignment, the checked arithmetic computes the
layout of the format's planes one after the other exactly when every padded row and the end of the
last plane are words, and otherwise stops on an overflow. At a power-of-two alignment, a surface
that is made has as many planes as its format, in index order, each with the format's shape at
its index and the least multiple of the alignment holding its row as pitch; the first starts at
byte 0, each next one where the one before it stops, and the allocation made for them holds
exactly up to where the last one stops; so the planes are pairwise disjoint, and the view of each
plane, at its offset, lies within the allocation. -/
theorem surface_planes_pitched {w w' : World} {dv : Ref} {d : Device} {format : ImageFormat}
    {width height : Nat} (hd : w.bodyAt dv = some (.device d))
    (ha : isPowerOfTwo d.config.pitchAlignment = true) :
    (∀ r, planesOf format width height d.config.pitchAlignment = .ok r ↔
      LayoutFits format width height d.config.pitchAlignment format.planes ∧
        r = layout format width height d.config.pitchAlignment format.planes) ∧
    (∀ e, planesOf format width height d.config.pitchAlignment = .error e →
      e = Fault.addOverflow ∨ e = Fault.mulOverflow) ∧
    ∀ s, (createSurface dv format width height).run w = .ok s w' →
      ∃ sf a, w'.bodyAt s = some (.surface sf) ∧ w'.bodyAt sf.memory = some (.allocation a) ∧
        sf.format = some format ∧ sf.planes.length = format.planes ∧
        (∀ i (hi : i < sf.planes.length),
          format.planeShape i width height = some sf.planes[i].shape ∧
          IsLeastMultiple d.config.pitchAlignment sf.planes[i].row sf.planes[i].pitch) ∧
        Packed sf.planes a.buffer.len ∧
        (∀ i j (hi : i < sf.planes.length) (hj : j < sf.planes.length), i < j →
          sf.planes[i].stop ≤ sf.planes[j].offset) ∧
        ∀ i (hi : i < sf.planes.length), ∃ l, Mapper.planeLayout sf.planes[i] = .ok l ∧
          sf.planes[i].offset + l.span ≤ a.buffer.len ∧
          sf.planes[i].offset + l.nbytes ≤ a.buffer.len := by
  refine ⟨fun _ => planesOf_ok_iff, fun _ => planesOf_error, fun s h => ?_⟩
  obtain ⟨⟨hw, hh, heven⟩, sf, a, hs, hm, hf, -, -, -, hplanes⟩ := createSurface_run_ok hd h
  obtain ⟨hlen, hshape, hpacked, hdisj, hviews⟩ := planesOf_laid_out ha hw hh heven hplanes
  exact ⟨sf, a, hs, hm, hf, hlen, hshape, hpacked, hdisj, hviews⟩

/-- An NV12 surface of 100 × 50 on a device without a memory limit, at the default alignment of
64 bytes: made, with its two planes packed over its allocation. -/
theorem nv12_surface_planes_packed :
    ∃ s w' sf a, (createSurface 0 .nv12 100 50).run unlimitedWorld = .ok s w' ∧
      w'.bodyAt s = some (.surface sf) ∧ w'.bodyAt sf.memory = some (.allocation a) ∧
      sf.planes.length = 2 ∧ Packed sf.planes a.buffer.len := by
  obtain ⟨s, w', h⟩ : ∃ s w', (createSurface 0 .nv12 100 50).run unlimitedWorld = .ok s w' :=
    ⟨_, _, rfl⟩
  obtain ⟨sf, a, hs, hm, -, hlen, -, hpacked, -⟩ :=
    (surface_planes_pitched (show unlimitedWorld.bodyAt 0 = some (.device unlimitedDevice) from rfl)
      (by decide)).2.2 s h
  exact ⟨s, w', sf, a, h, hs, hm, hlen, hpacked⟩

end Device

end MemBridge
