import Mathlib
import MemBridge.Proofs.Layout.Elements

/-!
Extents of accepted layouts: what fits in a word, and what an allocation of `nbytes` covers.

`withStride` checks that every `dim * stride` and the total extent fit in a word. For every
accepted layout this keeps `nbytes`, `span` and the ends of all runs in a word
(`accepted_layout_arithmetic`). It does not bound the number of elements: with zero strides, or
with an empty dimension inside large ones, the running product of the dimensions can leave the
word, and `size` stops exactly when one of its partial products does (`size_ok_iff`). Row-major
strides exist only when all the element bytes fit in a word, so layouts built by `ofShape` with
no empty dimension always have a size.

`nbytes` is the largest `dim * stride`, which is what host and shared allocations request. When
each stride steps over everything inside it (`nests`), the elements end within the first
dimension's extent, so `span ≤ nbytes` and every run lies inside such an allocation
(`nested_runs_within_nbytes`); row-major strides nest (`nests_rowMajor`). Overlapping strides do
not, and there `span` can pass `nbytes`.
-/

namespace MemBridge

namespace Layout

/-! ### Products of dimensions -/

theorem foldlM_checkedMul_ok_iff (xs : List Nat) (a : Nat) :
    (∃ n, xs.foldlM checkedMul a = .ok n) ↔
      ∀ k < xs.length, a * (xs.take (k + 1)).foldr (· * ·) 1 < Word.bound := by
  induction xs generalizing a with
  | nil => exact ⟨fun _ k hk => absurd hk (Nat.not_lt_zero k), fun _ => ⟨a, rfl⟩⟩
  | cons x xs ih =>
    simp only [List.foldlM_cons, List.length_cons]
    unfold checkedMul Word.mulChecked
    by_cases hx : a * x < Word.bound
    · rw [if_pos hx]
      show (∃ n, xs.foldlM checkedMul (a * x) = .ok n) ↔ _
      rw [ih]
      constructor
      · intro h k hk
        cases k with
        | zero => simpa using hx
        | succ k =>
          simpa [Nat.mul_assoc] using h k (by omega)
      · intro h k hk
        simpa [Nat.mul_assoc] using h (k + 1) (by omega)
    · rw [if_neg hx]
      constructor
      · rintro ⟨n, hn⟩
        cases hn
      · intro h
        exact absurd (h 0 (by omega)) (by simpa using hx)

theorem foldlM_checkedMul_error {xs : List Nat} {a : Nat} {e : Fault}
    (h : xs.foldlM checkedMul a = .error e) : e = Fault.mulOverflow := by
  induction xs generalizing a with
  | nil => cases h
  | cons x xs ih =>
    simp only [List.foldlM_cons] at h
    unfold checkedMul at h
    split at h
    · exact ih h
    · cases h
      rfl

theorem size_ok_iff (l : Layout) :
    (∃ n, l.size = .ok n) ↔
      ∀ k < l.shape.length, (l.shape.take (k + 1)).foldr (· * ·) 1 < Word.bound := by
  have h := foldlM_checkedMul_ok_iff l.shape 1
  simp only [Nat.one_mul] at h
  exact h

theorem size_error {l : Layout} {e : Fault} (h : l.size = .error e) : e = Fault.mulOverflow :=
  foldlM_checkedMul_error h

theorem foldr_mul_reverse (xs : List Nat) : xs.reverse.foldr (· * ·) 1 = xs.foldr (· * ·) 1 := by
  induction xs with
  | nil => rfl
  | cons x xs ih =>
    rw [List.reverse_cons, List.foldr_append, List.foldr_cons, List.foldr_nil, Nat.mul_one,
      foldr_mul_eq, ih, List.foldr_cons, Nat.mul_comm]

theorem foldr_mul_pos {xs : List Nat} (h : 0 ∉ xs) : 0 < xs.foldr (· * ·) 1 := by
  induction xs with
  | nil => simp
  | cons x xs ih =>
    simp only [List.mem_cons, not_or] at h
    exact Nat.mul_pos (Nat.pos_of_ne_zero (Ne.symm h.1)) (ih h.2)

theorem foldr_mul_take_le {xs : List Nat} (h : 0 ∉ xs) (k : Nat) :
    (xs.take k).foldr (· * ·) 1 ≤ xs.foldr (· * ·) 1 := by
  conv_rhs => rw [← List.take_append_drop k xs, List.foldr_append, foldr_mul_eq]
  exact Nat.le_mul_of_pos_right _ (foldr_mul_pos fun h0 => h (List.mem_of_mem_drop h0))

theorem contiguousStride_go_fits {ds : List Nat} {acc : Nat} {out s : List Nat}
    (h : contiguousStride.go ds acc out = some s) (hacc : acc < Word.bound) :
    acc * ds.foldr (· * ·) 1 < Word.bound := by
  induction ds generalizing acc out with
  | nil => simpa using hacc
  | cons d ds ih =>
    simp only [contiguousStride.go] at h
    split at h
    · next next hnext =>
      obtain ⟨hlt, rfl⟩ := Word.mulChecked_eq_some_iff.1 hnext
      simpa [Nat.mul_assoc] using ih h hlt
    · cases h

theorem contiguousStride_fits {shape : List Nat} {elem : ElementType} {s : List Nat}
    (h : contiguousStride shape elem = .ok s) :
    shape.foldr (· * ·) 1 * elem.size < Word.bound := by
  unfold contiguousStride at h
  split at h
  · next hgo =>
    have := contiguousStride_go_fits hgo (by cases elem <;> decide)
    rwa [foldr_mul_reverse, Nat.mul_comm] at this
  · cases h

theorem size_of_contiguousStride {l : Layout} (h : contiguousStride l.shape l.elem = .ok l.stride)
    (h0 : 0 ∉ l.shape) :
    l.size = .ok (l.shape.foldr (· * ·) 1) ∧ l.shape.foldr (· * ·) 1 * l.elem.size < Word.bound := by
  have hfit := contiguousStride_fits h
  have hprod : l.shape.foldr (· * ·) 1 < Word.bound :=
    lt_of_le_of_lt (Nat.le_mul_of_pos_right _ l.elem.size_pos) hfit
  obtain ⟨n, hn⟩ := (size_ok_iff l).2 fun k _ =>
    lt_of_le_of_lt (foldr_mul_take_le h0 (k + 1)) hprod
  exact ⟨hn.trans (congrArg _ (size_eq_ok hn)), hfit⟩

/-! ### Extents -/

theorem le_foldl_max {xs : List Nat} {y : Nat} (init : Nat) (h : y ∈ xs) :
    y ≤ xs.foldl Nat.max init := by
  induction xs generalizing init with
  | nil => simp at h
  | cons x xs ih =>
    rw [List.foldl_cons]
    rcases List.mem_cons.1 h with rfl | h
    · have hmono : ∀ (zs : List Nat) (m : Nat), m ≤ zs.foldl Nat.max m := by
        intro zs
        induction zs with
        | nil => intro m; exact Nat.le_refl m
        | cons z zs ihz => intro m; exact le_trans (Nat.le_max_left m z) (ihz _)
      exact le_trans (Nat.le_max_right init y) (hmono xs _)
    · exact ih _ h

theorem foldl_max_lt {xs : List Nat} {init b : Nat} (hinit : init < b) (h : ∀ y ∈ xs, y < b) :
    xs.foldl Nat.max init < b := by
  induction xs generalizing init with
  | nil => exact hinit
  | cons x xs ih =>
    rw [List.foldl_cons]
    exact ih (Nat.max_lt.2 ⟨hinit, h x (by simp)⟩) fun y hy => h y (by simp [hy])

theorem of_fits {shape stride : List Nat} {elem : ElementType} (h : fits shape stride elem = true) :
    (∀ p ∈ shape.zip stride, p.1 * p.2 < Word.bound) ∧
      elem.size + ((shape.zip stride).map fun p => (p.1 - 1) * p.2).foldr (· + ·) 0 <
        Word.bound := by
  simpa [fits] using h

theorem nbytes_lt {shape stride : List Nat} {elem : ElementType} {l : Layout}
    (hl : withStride shape stride elem = .ok l) : l.nbytes < Word.bound := by
  obtain ⟨-, hfit, rfl⟩ := withStride_eq_ok.1 hl
  have hext := (of_fits hfit).1
  unfold nbytes
  split
  · have hsize : elem.size < Word.bound := by cases elem <;> decide
    exact hsize
  · split
    · decide
    · refine foldl_max_lt (by decide) fun y hy => ?_
      obtain ⟨p, hp, rfl⟩ := List.mem_map.1 hy
      exact hext p hp

theorem span_lt {shape stride : List Nat} {elem : ElementType} {l : Layout}
    (hl : withStride shape stride elem = .ok l) : l.span < Word.bound := by
  obtain ⟨-, hfit, rfl⟩ := withStride_eq_ok.1 hl
  have htotal := (of_fits hfit).2
  unfold span
  split
  · decide
  · simp only at htotal ⊢
    omega

/-- The arithmetic of an accepted layout. Every `dim * stride`, `nbytes`, `span` and the end of
every run are words, so no sum or product behind them overflows. The element count exists
exactly when every running product of the dimensions is a word, and otherwise `size` stops with
a multiplication overflow; with row-major strides and no empty dimension the count exists and
so do the element bytes. -/
theorem accepted_layout_arithmetic {shape stride : List Nat} {elem : ElementType} {l : Layout}
    (hl : withStride shape stride elem = .ok l) :
    (∀ p ∈ l.shape.zip l.stride, p.1 * p.2 < Word.bound) ∧ l.nbytes < Word.bound ∧
    l.span < Word.bound ∧ (∀ run ∈ l.runs, run.1 + run.2 < Word.bound) ∧
    ((∃ n, l.size = .ok n) ↔
      ∀ k < l.shape.length, (l.shape.take (k + 1)).foldr (· * ·) 1 < Word.bound) ∧
    (∀ e, l.size = .error e → e = Fault.mulOverflow) ∧
    (contiguousStride shape elem = .ok stride → 0 ∉ shape →
      ∃ n, l.size = .ok n ∧ n * elem.size < Word.bound) := by
  have hnbytes := nbytes_lt hl
  have hspan := span_lt hl
  obtain ⟨hrank, hfit, rfl⟩ := withStride_eq_ok.1 hl
  refine ⟨(of_fits hfit).1, hnbytes, hspan,
    fun run hrun => lt_of_le_of_lt (runs_end_within_span hrank run hrun) hspan, size_ok_iff _,
    fun _ => size_error, fun hrow h0 => ?_⟩
  obtain ⟨hsize, hbytes⟩ := size_of_contiguousStride (l := ⟨shape, stride, elem⟩) hrow h0
  exact ⟨_, hsize, hbytes⟩

/-- Rows of 40 bytes kept 100 bytes apart: their extents are words. -/
theorem strided_rows_extents_fit :
    (⟨[30, 40], [100, 1], .uint8⟩ : Layout).nbytes < Word.bound ∧
      (⟨[30, 40], [100, 1], .uint8⟩ : Layout).span < Word.bound :=
  let h := accepted_layout_arithmetic
    (show withStride [30, 40] [100, 1] .uint8 = .ok ⟨[30, 40], [100, 1], .uint8⟩ from rfl)
  ⟨h.2.1, h.2.2.1⟩

/-- `ofShape` accepts two dimensions of `2^40` around an empty innermost one, yet the running
product of the dimensions leaves the word before it reaches the empty one, so the element count
overflows. -/
theorem empty_inner_dimension_overflows_size :
    ofShape [Nat.pow 2 40, Nat.pow 2 40, 0] .uint8 =
      .ok ⟨[Nat.pow 2 40, Nat.pow 2 40, 0], [0, 0, 1], .uint8⟩ ∧
    (⟨[Nat.pow 2 40, Nat.pow 2 40, 0], [0, 0, 1], .uint8⟩ : Layout).size =
      .error Fault.mulOverflow :=
  ⟨rfl, rfl⟩

/-! ### Nesting strides -/

/-- Whether each stride steps over everything inside it: the innermost stride over an element,
every other stride over the whole extent of the dimension inside it. -/
def nests : List Nat → List Nat → Nat → Bool
  | [], [], _ => true
  | [_], [s], size => decide (size ≤ s)
  | _ :: d :: ds, s :: s' :: ss, size => decide (d * s' ≤ s) && nests (d :: ds) (s' :: ss) size
  | _, _, _ => false

theorem spanTerms_add_le_of_nests {size : Nat} : ∀ {d s : Nat} {ds ss : List Nat},
    nests (d :: ds) (s :: ss) size = true → 0 < d → 0 ∉ ds →
    (((d :: ds).zip (s :: ss)).map fun p => (p.1 - 1) * p.2).foldr (· + ·) 0 + size ≤ d * s
  | d, s, [], [], hn, hd, _ => by
    simp only [nests, decide_eq_true_eq] at hn
    obtain ⟨d', rfl⟩ : ∃ d', d = d' + 1 := ⟨d - 1, by omega⟩
    simp only [List.zip_cons_cons, List.zip_nil_left, List.map_cons, List.map_nil,
      List.foldr_cons, List.foldr_nil, Nat.add_sub_cancel, Nat.add_mul, Nat.one_mul]
    omega
  | _, _, [], _ :: _, hn, _, _ => by simp [nests] at hn
  | _, _, _ :: _, [], hn, _, _ => by simp [nests] at hn
  | d, s, e :: ds, s' :: ss, hn, hd, h0 => by
    simp only [nests, Bool.and_eq_true, decide_eq_true_eq] at hn
    simp only [List.mem_cons, not_or] at h0
    -- the dimensions inside end within one step of the outer stride
    have hrest := spanTerms_add_le_of_nests hn.2 (Nat.pos_of_ne_zero (Ne.symm h0.1)) h0.2
    have hstep := hn.1
    obtain ⟨d', rfl⟩ : ∃ d', d = d' + 1 := ⟨d - 1, by omega⟩
    simp only [List.zip_cons_cons, List.map_cons, List.foldr_cons] at hrest ⊢
    simp only [Nat.add_sub_cancel, Nat.add_mul, Nat.one_mul]
    omega

theorem span_le_nbytes_of_nests {l : Layout} (hrank : l.stride.length = l.shape.length)
    (hn : nests l.shape l.stride l.elem.size = true) : l.span ≤ l.nbytes := by
  obtain ⟨shape, stride, elem⟩ := l
  simp only at hrank hn ⊢
  by_cases h0 : 0 ∈ shape
  · simp [span, h0]
  cases shape with
  | nil =>
    rw [List.length_nil, List.length_eq_zero_iff] at hrank
    subst hrank
    simp [span, nbytes]
  | cons d ds =>
    cases stride with
    | nil => simp at hrank
    | cons s ss =>
      simp only [List.mem_cons, not_or] at h0
      have hspan := spanTerms_add_le_of_nests hn (Nat.pos_of_ne_zero (Ne.symm h0.1)) h0.2
      have hmax : d * s ≤ nbytes ⟨d :: ds, s :: ss, elem⟩ := by
        simp only [nbytes, List.isEmpty_cons, Bool.false_eq_true, ↓reduceIte,
          List.contains_iff_mem, List.mem_cons, not_or.2 h0, List.zip_cons_cons, List.map_cons]
        exact le_foldl_max 0 (List.mem_cons_self)
      simp only [span, List.contains_iff_mem, List.mem_cons, not_or.2 h0, ↓reduceIte]
      omega

theorem nests_rowMajor (shape : List Nat) (size : Nat) :
    nests shape (rowMajor shape size) size = true := by
  induction shape with
  | nil => rfl
  | cons d ds ih =>
    cases ds with
    | nil => simp [nests, rowMajor]
    | cons e es =>
      simp only [rowMajor] at ih ⊢
      simp [nests, ih, Nat.mul_assoc]

theorem span_le_nbytes_of_isContiguous {l : Layout} (h : l.isContiguous = true) :
    l.span ≤ l.nbytes := by
  have hrow := contiguousStride_eq_ok (isContiguous_iff.1 h)
  apply span_le_nbytes_of_nests
  · exact contiguousStride_length (isContiguous_iff.1 h)
  · rw [hrow]
    exact nests_rowMajor _ _

/-- When the strides of an accepted layout nest, an allocation of `nbytes` bytes holds every
element: the layout spans at most `nbytes`, and every run ends within them. -/
theorem nested_runs_within_nbytes {shape stride : List Nat} {elem : ElementType} {l : Layout}
    (hl : withStride shape stride elem = .ok l) (hn : nests shape stride elem.size = true) :
    l.span ≤ l.nbytes ∧ ∀ run ∈ l.runs, run.1 + run.2 ≤ l.nbytes := by
  obtain ⟨hrank, -, rfl⟩ := withStride_eq_ok.1 hl
  have hspan := span_le_nbytes_of_nests (l := ⟨shape, stride, elem⟩) hrank hn
  exact ⟨hspan, fun run hrun => le_trans (runs_end_within_span hrank run hrun) hspan⟩

/-- The luma plane of a 2 × 2 image with rows 64 bytes apart lies within the 128 bytes it
covers. -/
theorem padded_plane_within_nbytes :
    (⟨[2, 2, 1], [64, 1, 1], .uint8⟩ : Layout).span ≤
      (⟨[2, 2, 1], [64, 1, 1], .uint8⟩ : Layout).nbytes ∧
    ∀ run ∈ (⟨[2, 2, 1], [64, 1, 1], .uint8⟩ : Layout).runs,
      run.1 + run.2 ≤ (⟨[2, 2, 1], [64, 1, 1], .uint8⟩ : Layout).nbytes :=
  nested_runs_within_nbytes
    (show withStride [2, 2, 1] [64, 1, 1] .uint8 = .ok ⟨[2, 2, 1], [64, 1, 1], .uint8⟩ from rfl) rfl

/-- Two rows of two bytes that overlap in one byte: `withStride` accepts them, the layout covers
two bytes but spans three, and its second row runs past the two bytes an allocation of `nbytes`
holds. -/
theorem overlapping_rows_outrun_nbytes :
    withStride [2, 2] [1, 1] .uint8 = .ok ⟨[2, 2], [1, 1], .uint8⟩ ∧
    (⟨[2, 2], [1, 1], .uint8⟩ : Layout).nbytes = 2 ∧
    (⟨[2, 2], [1, 1], .uint8⟩ : Layout).span = 3 ∧
    (⟨[2, 2], [1, 1], .uint8⟩ : Layout).runs = [(0, 2), (1, 2)] :=
  ⟨rfl, rfl, rfl, rfl⟩

end Layout

end MemBridge
