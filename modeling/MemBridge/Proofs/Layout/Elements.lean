import Mathlib
import MemBridge.Layout.Runs

/-!
The elements of a layout and the runs that cover them.

An element of a shape is an index below it, dimension by dimension (`mem_indices`). Under byte
strides it starts `offsetOf index stride` bytes after the first element and takes the element
size from there; `bytePositions` lists those bytes, element after element in row-major order.

The main statement is `runBytes_runs`: the runs of a layout, read one after another, are the
bytes of its elements in row-major order, for every rank and all strides. `runs_cases` says once
which of its four forms the list of runs takes. A contiguous layout is one run because its
strides are the row-major ones (`contiguousStride_eq_ok`), under which the elements lie back to
back (`bytePositions_rowMajor`); a layout with dense rows is one run per row because the
elements of a row lie back to back (`flatMap_range'_mul`). Every run ends within the layout's
span (`runs_end_within_span`), since every element does (`lt_span_of_mem_bytePositions`).
-/

namespace MemBridge

namespace Layout

/-- The bytes of the elements of a shape under byte strides, `size` bytes from each element's
offset, element after element in row-major order. -/
def bytePositions (shape stride : List Nat) (size : Nat) : List Nat :=
  (indices shape).flatMap fun i => List.range' (offsetOf i stride) size

def runBytes (rs : List (Nat × Nat)) : List Nat :=
  rs.flatMap fun r => List.range' r.1 r.2

@[simp] theorem runBytes_nil : runBytes [] = [] := rfl

@[simp] theorem runBytes_cons (r : Nat × Nat) (rs : List (Nat × Nat)) :
    runBytes (r :: rs) = List.range' r.1 r.2 ++ runBytes rs := rfl

/-- Row-major strides of a shape: the stride of a dimension is `size` times the dimensions
inside it. -/
def rowMajor : List Nat → Nat → List Nat
  | [], _ => []
  | _ :: ds, size => (ds.foldr (· * ·) 1 * size) :: rowMajor ds size

theorem withStride_eq_ok {shape stride : List Nat} {elem : ElementType} {l : Layout} :
    withStride shape stride elem = .ok l ↔
      stride.length = shape.length ∧ fits shape stride elem = true ∧ l = ⟨shape, stride, elem⟩ := by
  unfold withStride
  by_cases hr : stride.length = shape.length
  · by_cases hf : fits shape stride elem = true
    · simp [hr, hf, eq_comm]
    · simp [hr, hf]
  · simp [hr]

/-! ### Indices and offsets -/

theorem mem_indices {i shape : List Nat} :
    i ∈ indices shape ↔ List.Forall₂ (· < ·) i shape := by
  induction shape generalizing i with
  | nil => simp [indices]
  | cons d ds ih =>
    simp only [indices, List.mem_flatMap, List.mem_range, List.mem_map, ih,
      List.forall₂_cons_right_iff]
    constructor
    · rintro ⟨k, hk, j, hj, rfl⟩
      exact ⟨k, j, hk, hj, rfl⟩
    · rintro ⟨k, j, hk, hj, rfl⟩
      exact ⟨k, hk, j, hj, rfl⟩

theorem indices_eq_nil {shape : List Nat} (h : 0 ∈ shape) : indices shape = [] := by
  induction shape with
  | nil => simp at h
  | cons d ds ih =>
    rcases List.mem_cons.1 h with rfl | h
    · simp [indices]
    · simp [indices, ih h]

theorem indices_append_single (xs : List Nat) (d : Nat) :
    indices (xs ++ [d]) = (indices xs).flatMap fun i => (List.range d).map fun k => i ++ [k] := by
  induction xs with
  | nil => simp [indices, List.map_eq_flatMap]
  | cons x xs ih =>
    simp [indices, ih, List.flatMap_assoc, List.map_flatMap, List.flatMap_map, Function.comp_def]

@[simp] theorem offsetOf_nil (stride : List Nat) : offsetOf [] stride = 0 := rfl

@[simp] theorem offsetOf_cons (k : Nat) (i : List Nat) (s : Nat) (ss : List Nat) :
    offsetOf (k :: i) (s :: ss) = k * s + offsetOf i ss := rfl

theorem offsetOf_append_right {i ss : List Nat} (h : i.length = ss.length) (extra : List Nat) :
    offsetOf i (ss ++ extra) = offsetOf i ss := by
  induction i generalizing ss with
  | nil => rfl
  | cons k i ih =>
    cases ss with
    | nil => simp at h
    | cons s ss => simp [ih (by simpa using h)]

theorem offsetOf_append_single {i ss : List Nat} (h : i.length = ss.length) (k s : Nat) :
    offsetOf (i ++ [k]) (ss ++ [s]) = offsetOf i ss + k * s := by
  induction i generalizing ss with
  | nil => cases ss <;> simp_all
  | cons j i ih =>
    cases ss with
    | nil => simp at h
    | cons t ss =>
      simp only [List.cons_append, offsetOf_cons, ih (by simpa using h)]
      omega

theorem offsetOf_le_extent {i shape : List Nat} (h : List.Forall₂ (· < ·) i shape)
    (stride : List Nat) :
    offsetOf i stride ≤ ((shape.zip stride).map fun p => (p.1 - 1) * p.2).foldr (· + ·) 0 := by
  induction h generalizing stride with
  | nil => simp
  | @cons k d i ds hk _ ih =>
    cases stride with
    | nil => simp [offsetOf]
    | cons s ss =>
      have hks : k * s ≤ (d - 1) * s := Nat.mul_le_mul_right s (by omega)
      have := ih ss
      simp only [offsetOf_cons, List.zip_cons_cons, List.map_cons, List.foldr_cons]
      omega

/-! ### Runs of consecutive bytes -/

theorem flatMap_range'_mul (o n m : Nat) :
    (List.range n).flatMap (fun k => List.range' (o + k * m) m) = List.range' o (n * m) := by
  induction n with
  | zero => simp
  | succ n ih =>
    rw [List.range_succ, List.flatMap_append, ih, Nat.succ_mul, ← List.range'_append]
    simp

@[simp] theorem bytePositions_nil (stride : List Nat) (size : Nat) :
    bytePositions [] stride size = List.range' 0 size := by
  simp [bytePositions, indices]

theorem bytePositions_cons (d : Nat) (ds : List Nat) (s : Nat) (ss : List Nat) (size : Nat) :
    bytePositions (d :: ds) (s :: ss) size =
      (List.range d).flatMap fun k => (bytePositions ds ss size).map (k * s + ·) := by
  simp [bytePositions, indices, List.flatMap_assoc, List.flatMap_map, List.map_flatMap,
    List.map_add_range']

theorem bytePositions_eq_nil {shape : List Nat} (h : 0 ∈ shape) (stride : List Nat)
    (size : Nat) : bytePositions shape stride size = [] := by
  simp [bytePositions, indices_eq_nil h]

theorem length_bytePositions (shape stride : List Nat) (size : Nat) :
    (bytePositions shape stride size).length = shape.foldr (· * ·) 1 * size := by
  simp [bytePositions, List.length_flatMap, length_indices]

theorem foldlM_checkedMul_eq_ok {xs : List Nat} {a n : Nat}
    (h : xs.foldlM checkedMul a = .ok n) : n = a * xs.foldr (· * ·) 1 := by
  induction xs generalizing a with
  | nil =>
    simp only [List.foldlM_nil] at h
    cases h
    simp
  | cons x xs ih =>
    simp only [List.foldlM_cons] at h
    unfold checkedMul at h
    split at h
    · next c hc =>
      obtain ⟨-, rfl⟩ := Word.mulChecked_eq_some_iff.1 hc
      rw [ih h, List.foldr_cons, Nat.mul_assoc]
    · cases h

theorem size_eq_ok {l : Layout} {n : Nat} (h : l.size = .ok n) :
    n = l.shape.foldr (· * ·) 1 := by
  simpa using foldlM_checkedMul_eq_ok h

/-! ### Row-major strides -/

theorem foldr_mul_eq (xs : List Nat) (a : Nat) :
    xs.foldr (· * ·) a = xs.foldr (· * ·) 1 * a := by
  induction xs with
  | nil => simp
  | cons x xs ih => simp [ih, Nat.mul_assoc]

theorem rowMajor_append_single (ds : List Nat) (d size : Nat) :
    rowMajor (ds ++ [d]) size = rowMajor ds (size * d) ++ [size] := by
  induction ds with
  | nil => simp [rowMajor]
  | cons x xs ih =>
    simp only [List.cons_append, rowMajor, ih, List.foldr_append, List.foldr_cons,
      List.foldr_nil, List.cons.injEq, and_true]
    rw [foldr_mul_eq xs (d * 1)]
    ring

theorem contiguousStride_go_eq {xs : List Nat} {acc : Nat} {out s : List Nat}
    (h : contiguousStride.go xs acc out = some s) : s = rowMajor xs.reverse acc ++ out := by
  induction xs generalizing acc out with
  | nil =>
    simp only [contiguousStride.go, Option.some.injEq] at h
    simp [h, rowMajor]
  | cons d ds ih =>
    simp only [contiguousStride.go] at h
    split at h
    · next next hnext =>
      obtain ⟨-, rfl⟩ := Word.mulChecked_eq_some_iff.1 hnext
      rw [ih h, List.reverse_cons, rowMajor_append_single]
      simp
    · cases h

theorem contiguousStride_eq_ok {shape : List Nat} {elem : ElementType} {s : List Nat}
    (h : contiguousStride shape elem = .ok s) : s = rowMajor shape elem.size := by
  unfold contiguousStride at h
  split at h
  · next hgo =>
    cases h
    simpa using contiguousStride_go_eq hgo
  · cases h

theorem isContiguous_iff {l : Layout} :
    l.isContiguous = true ↔ contiguousStride l.shape l.elem = .ok l.stride := by
  unfold isContiguous
  split
  · next s hs => simp [hs]
  · next hs =>
    constructor
    · intro h; cases h
    · intro h; simp_all

theorem bytePositions_rowMajor (shape : List Nat) (size : Nat) :
    bytePositions shape (rowMajor shape size) size =
      List.range' 0 (shape.foldr (· * ·) 1 * size) := by
  induction shape with
  | nil => simp [rowMajor]
  | cons d ds ih =>
    rw [rowMajor, bytePositions_cons, ih, List.foldr_cons, Nat.mul_assoc]
    conv_rhs => rw [← flatMap_range'_mul 0]
    simp [List.map_add_range']

theorem foldr_mul_eq_zero {xs : List Nat} (h : 0 ∈ xs) : xs.foldr (· * ·) 1 = 0 := by
  induction xs with
  | nil => simp at h
  | cons x xs ih =>
    rcases List.mem_cons.1 h with rfl | h
    · simp
    · simp [ih h]

theorem extent_le_rowMajor {shape : List Nat} (h : 0 ∉ shape) (size : Nat) :
    ∀ p ∈ shape.zip (rowMajor shape size), p.1 * p.2 ≤ shape.foldr (· * ·) 1 * size := by
  induction shape with
  | nil => simp
  | cons d ds ih =>
    have hd : 0 < d := Nat.pos_of_ne_zero fun e => h (by simp [e])
    intro p hp
    simp only [rowMajor, List.zip_cons_cons, List.mem_cons] at hp
    rcases hp with rfl | hp
    · simp [Nat.mul_assoc]
    · calc p.1 * p.2 ≤ ds.foldr (· * ·) 1 * size := ih (fun h0 => h (by simp [h0])) p hp
        _ ≤ d * (ds.foldr (· * ·) 1 * size) := Nat.le_mul_of_pos_left _ hd
        _ = (d :: ds).foldr (· * ·) 1 * size := by simp [Nat.mul_assoc]

theorem foldl_max_of_le {x : Nat} {rest : List Nat} (h : ∀ y ∈ rest, y ≤ x) :
    rest.foldl Nat.max x = x := by
  induction rest with
  | nil => rfl
  | cons y ys ih =>
    rw [List.foldl_cons, show Nat.max x y = x from Nat.max_eq_left (h y (by simp))]
    exact ih fun z hz => h z (by simp [hz])

theorem nbytes_of_rowMajor {l : Layout} (h : l.stride = rowMajor l.shape l.elem.size) :
    l.nbytes = l.shape.foldr (· * ·) 1 * l.elem.size := by
  obtain ⟨shape, stride, elem⟩ := l
  simp only at h ⊢
  subst h
  cases shape with
  | nil => simp [nbytes]
  | cons d ds =>
    by_cases h0 : 0 ∈ d :: ds
    · simp [nbytes, h0, foldr_mul_eq_zero h0]
    · have hle := extent_le_rowMajor h0 elem.size
      simp only [rowMajor, List.zip_cons_cons, List.mem_cons, forall_eq_or_imp] at hle
      simp only [nbytes, List.isEmpty_cons, Bool.false_eq_true, ↓reduceIte, List.contains_iff_mem, h0,
        rowMajor, List.zip_cons_cons, List.map_cons, List.foldl_cons]
      rw [show Nat.max 0 _ = _ from Nat.max_eq_right (Nat.zero_le _), foldl_max_of_le]
      · simp [Nat.mul_assoc]
      · simp only [List.mem_map]
        rintro _ ⟨p, hp, rfl⟩
        simpa [Nat.mul_assoc] using hle.2 p hp

/-! ### The runs of a layout -/

theorem runs_cases (l : Layout) (h : l.stride.length = l.shape.length) :
    ((l.isContiguous = true ∨ l.shape = []) ∧ l.runs = [(0, l.nbytes)]) ∨
    (0 ∈ l.shape ∧ l.runs = []) ∨
    (0 ∉ l.shape ∧ ∃ init d ss, l.shape = init ++ [d] ∧ l.stride = ss ++ [l.elem.size] ∧
      ss.length = init.length ∧
      l.runs = (indices init).map fun i => (offsetOf i ss, d * l.elem.size)) ∨
    (0 ∉ l.shape ∧ l.runs = (indices l.shape).map fun i => (offsetOf i l.stride, l.elem.size)) := by
  unfold runs
  by_cases hc : (l.isContiguous || l.shape.isEmpty) = true
  · left
    exact ⟨by simpa [List.isEmpty_iff] using hc, by simp [hc]⟩
  rw [if_neg hc]
  by_cases h0 : 0 ∈ l.shape
  · right; left
    simp [h0]
  rw [if_neg (by simpa using h0)]
  right; right
  have hne : l.shape ≠ [] := fun e => hc (by simp [e])
  obtain ⟨init, d, hsh⟩ : ∃ init d, l.shape = init ++ [d] :=
    ⟨_, _, (List.dropLast_append_getLast hne).symm⟩
  have hsne : l.stride ≠ [] := fun e => by simp [e, hsh] at h
  obtain ⟨ss, s, hst⟩ : ∃ ss s, l.stride = ss ++ [s] :=
    ⟨_, _, (List.dropLast_append_getLast hsne).symm⟩
  have hlen : ss.length = init.length := by simpa [hsh, hst] using h
  have hrank : l.rank - 1 = init.length := by simp [rank, hsh]
  have hget : l.stride.getD (l.rank - 1) 0 = s := by simp [hrank, hst, ← hlen]
  by_cases hrow : s = l.elem.size
  · left
    refine ⟨h0, init, d, ss, hsh, hrow ▸ hst, hlen, ?_⟩
    simp only [hget, hrow, if_true]
    rw [hrank, hsh, List.take_left' rfl, List.getD_append_right _ _ _ _ (Nat.le_refl _)]
    apply List.map_congr_left
    intro i hi
    rw [hst, offsetOf_append_right (by rw [(mem_indices.1 hi).length_eq, hlen])]
    simp
  · right
    refine ⟨h0, ?_⟩
    simp only [hget, hrow, if_false]
    rw [rank, List.take_length]

theorem runBytes_runs {l : Layout} (h : l.stride.length = l.shape.length) :
    runBytes l.runs = bytePositions l.shape l.stride l.elem.size := by
  rcases runs_cases l h with ⟨hc | he, hr⟩ | ⟨h0, hr⟩ | ⟨-, init, d, ss, hsh, hst, hlen, hr⟩ |
      ⟨-, hr⟩
  · -- contiguous: the strides are row-major, so the elements lie back to back
    have hs := contiguousStride_eq_ok (isContiguous_iff.1 hc)
    rw [hr, nbytes_of_rowMajor hs, hs, bytePositions_rowMajor]
    simp [runBytes]
  · rw [hr, he]
    simp [runBytes, nbytes, he]
  · rw [hr, bytePositions_eq_nil h0]
    rfl
  · -- one run per row: the elements of a row lie back to back
    rw [hr, hsh, hst, bytePositions, indices_append_single, List.flatMap_assoc]
    simp only [runBytes, List.flatMap_map]
    apply List.flatMap_congr
    intro i hi
    have hi' : i.length = ss.length := by rw [(mem_indices.1 hi).length_eq, hlen]
    simp only [offsetOf_append_single hi']
    exact (flatMap_range'_mul _ _ _).symm
  · rw [hr]
    simp [runBytes, bytePositions, List.flatMap_map]

theorem lt_span_of_mem_bytePositions {l : Layout} {p : Nat}
    (hp : p ∈ bytePositions l.shape l.stride l.elem.size) : p < l.span := by
  obtain ⟨i, hi, hp⟩ := List.mem_flatMap.1 hp
  have h0 : 0 ∉ l.shape := fun h0 => by simp [indices_eq_nil h0] at hi
  obtain ⟨j, hj, rfl⟩ := List.mem_range'.1 hp
  have := offsetOf_le_extent (mem_indices.1 hi) l.stride
  simp only [span, List.contains_iff_mem, h0, if_false]
  omega

theorem runs_end_within_span {l : Layout} (h : l.stride.length = l.shape.length) :
    ∀ r ∈ l.runs, r.1 + r.2 ≤ l.span := by
  -- a run of positive length ends on a byte of an element
  have hlast : ∀ r ∈ l.runs, 0 < r.2 → r.1 + r.2 ≤ l.span := by
    intro r hr hpos
    have hmem : r.1 + (r.2 - 1) ∈ runBytes l.runs :=
      List.mem_flatMap.2 ⟨r, hr, List.mem_range'.2 ⟨r.2 - 1, by omega, by omega⟩⟩
    rw [runBytes_runs h] at hmem
    have := lt_span_of_mem_bytePositions hmem
    omega
  have hsize := l.elem.size_pos
  intro r hr
  rcases runs_cases l h with ⟨-, hrs⟩ | ⟨-, hrs⟩ | ⟨h0, init, d, ss, hsh, -, -, hrs⟩ | ⟨-, hrs⟩
  · by_cases hn : r.2 = 0
    · rw [hrs, List.mem_singleton] at hr
      subst hr
      simp only at hn ⊢
      omega
    · exact hlast r hr (Nat.pos_of_ne_zero hn)
  · simp [hrs] at hr
  · have hd : 0 < d := Nat.pos_of_ne_zero fun e => h0 (by simp [hsh, e])
    apply hlast r hr
    rw [hrs, List.mem_map] at hr
    obtain ⟨i, -, rfl⟩ := hr
    exact Nat.mul_pos hd hsize
  · apply hlast r hr
    rw [hrs, List.mem_map] at hr
    obtain ⟨i, -, rfl⟩ := hr
    exact hsize

theorem nodup_bytePositions {shape stride : List Nat} {size : Nat}
    (h : (indices shape).Pairwise fun i j =>
      (List.range' (offsetOf i stride) size).Disjoint (List.range' (offsetOf j stride) size)) :
    (bytePositions shape stride size).Nodup :=
  List.nodup_flatMap.2 ⟨fun _ _ => List.nodup_range', h⟩

end Layout

end MemBridge
