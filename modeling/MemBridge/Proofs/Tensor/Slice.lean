import Mathlib
import MemBridge.Tensor.View
import MemBridge.Proofs.Device.Limit
import MemBridge.Proofs.Layout.Elements

/-!
Views of tensors.

A slice checks its ranges one dimension after another, in a loop that reads nothing of the store;
such a loop is the fold of its step (`Act.run_forIn_of_pure`), and the fold of the slice's step
is the cut of the layout (`Layout.cut_eq_ok_iff`): each range fits its dimension, the view's
shape is the ranges' lengths followed by the dimensions left whole, and its start lies
`offsetOf starts stride` bytes further on.
-/

namespace MemBridge

open Act World

theorem except_bind_eq_ok {ε α β : Type} {x : Except ε α} {f : α → Except ε β} {b : β} :
    (x >>= f) = .ok b ↔ ∃ a, x = .ok a ∧ f a = .ok b := by
  cases x with
  | error e => simp [bind, Except.bind]
  | ok a => simp [bind, Except.bind]

namespace Act

@[simp] theorem run_lift_ok {α : Type} (a : α) (w : World) :
    (lift (.ok a) : Act α).run w = .ok a w := rfl

@[simp] theorem run_lift_error {α : Type} (e : Fault) (w : World) :
    (lift (.error e) : Act α).run w = .error e w := rfl

theorem run_forIn_of_pure {α β : Type} {f : α → β → Act (ForInStep β)}
    {g : β → α → Except Fault β}
    (hf : ∀ a b w, (f a b).run w = (ForInStep.yield <$> lift (g b a)).run w)
    (xs : List α) (b : β) (w : World) :
    (forIn xs b f).run w = (lift (xs.foldlM g b)).run w := by
  induction xs generalizing b with
  | nil => rfl
  | cons a xs ih =>
    rw [List.forIn_cons, List.foldlM_cons, EStateM.run_bind, hf]
    cases g b a with
    | ok b' => exact ih b'
    | error e => rfl

end Act

namespace Layout

/-- One range of a slice at its dimension: checked against the dimension, its length put in the
shape and the bytes before its start added to the offset. -/
def cutStep (l : Layout) (acc : List Nat × Nat) (p : (Nat × Nat) × Nat) :
    Except Fault (List Nat × Nat) :=
  let start := p.1.1
  let stop := p.1.2
  let dim := p.2
  let n := l.shape.getD dim 0
  if start ≥ stop || stop > n then
    .error (.invalidArgument s!"slice {start}..{stop} out of bounds for dimension {dim} of size {n}")
  else
    match Word.mulChecked start (l.stride.getD dim 0) >>= Word.addChecked acc.2 with
    | some d => .ok (acc.1.set dim (stop - start), d)
    | none => .error (.invalidArgument "slice offset overflows usize")

theorem mulChecked_bind_addChecked {a b c d : Nat} :
    (Word.mulChecked a b >>= Word.addChecked c) = some d ↔ c + a * b < Word.bound ∧ d = c + a * b := by
  simp only [Option.bind_eq_bind, Option.bind_eq_some_iff, Word.mulChecked_eq_some_iff,
    Word.addChecked_eq_some_iff]
  constructor
  · rintro ⟨_, ⟨-, rfl⟩, h, rfl⟩
    exact ⟨h, rfl⟩
  · rintro ⟨h, rfl⟩
    exact ⟨a * b, ⟨by omega, rfl⟩, h, rfl⟩

theorem cutStep_eq_ok {l : Layout} {acc : List Nat × Nat} {p : (Nat × Nat) × Nat}
    {acc' : List Nat × Nat} :
    l.cutStep acc p = .ok acc' ↔
      p.1.1 < p.1.2 ∧ p.1.2 ≤ l.shape.getD p.2 0 ∧
        acc.2 + p.1.1 * l.stride.getD p.2 0 < Word.bound ∧
        acc' = (acc.1.set p.2 (p.1.2 - p.1.1), acc.2 + p.1.1 * l.stride.getD p.2 0) := by
  dsimp only [cutStep]
  split
  · next hbad =>
    simp only [Bool.or_eq_true, decide_eq_true_eq] at hbad
    simp only [reduceCtorEq, false_iff]
    omega
  · next hgood =>
    simp only [Bool.or_eq_true, decide_eq_true_eq, not_or, not_le, not_lt] at hgood
    cases h : Word.mulChecked p.1.1 (l.stride.getD p.2 0) >>= Word.addChecked acc.2 with
    | none =>
      have hover : ¬acc.2 + p.1.1 * l.stride.getD p.2 0 < Word.bound := fun hlt => by
        rw [mulChecked_bind_addChecked.2 ⟨hlt, rfl⟩] at h
        cases h
      simp only [reduceCtorEq, false_iff, not_and]
      exact fun _ _ hlt => absurd hlt hover
    | some d =>
      obtain ⟨hlt, rfl⟩ := mulChecked_bind_addChecked.1 h
      simp only [Except.ok.injEq]
      constructor
      · rintro rfl
        exact ⟨hgood.1, hgood.2, hlt, rfl⟩
      · rintro ⟨-, -, -, rfl⟩
        rfl

def RangesFit : List Nat → List (Nat × Nat) → Prop
  | _, [] => True
  | [], _ :: _ => False
  | n :: shape, r :: rs => r.1 < r.2 ∧ r.2 ≤ n ∧ RangesFit shape rs

instance decidableRangesFit : (shape : List Nat) → (rs : List (Nat × Nat)) →
    Decidable (RangesFit shape rs)
  | [], [] => isTrue trivial
  | _ :: _, [] => isTrue trivial
  | [], _ :: _ => isFalse id
  | n :: shape, r :: rs =>
    have := decidableRangesFit shape rs
    inferInstanceAs (Decidable (r.1 < r.2 ∧ r.2 ≤ n ∧ RangesFit shape rs))

theorem RangesFit.length_le {shape : List Nat} {rs : List (Nat × Nat)} (h : RangesFit shape rs) :
    rs.length ≤ shape.length := by
  induction shape generalizing rs with
  | nil => cases rs with
    | nil => rfl
    | cons r rs => exact h.elim
  | cons n shape ih => cases rs with
    | nil => simp
    | cons r rs => simpa using ih h.2.2

theorem offsetOf_cons_drop (k : Nat) (i stride : List Nat) (dim : Nat) :
    offsetOf (k :: i) (stride.drop dim) =
      k * stride.getD dim 0 + offsetOf i (stride.drop (dim + 1)) := by
  by_cases h : dim < stride.length
  · rw [List.drop_eq_getElem_cons h, offsetOf_cons, List.getD_eq_getElem _ _ h]
  · have h₁ : stride.drop dim = [] := List.drop_eq_nil_of_le (by omega)
    have h₂ : stride.drop (dim + 1) = [] := List.drop_eq_nil_of_le (by omega)
    rw [h₁, h₂, List.getD_eq_default _ _ (Nat.le_of_not_lt h)]
    simp [offsetOf]

theorem take_set_succ {l : List Nat} {n x : Nat} (h : n < l.length) :
    (l.set n x).take (n + 1) = l.take n ++ [x] := by
  rw [List.take_add_one, List.take_set_of_le (Nat.le_refl n), List.getElem?_set_self h]
  rfl

theorem foldlM_cutStep_eq_ok {l : Layout} (rs : List (Nat × Nat)) {dim delta : Nat}
    {acc : List Nat} (hacc : acc.length = l.shape.length) (hdelta : delta < Word.bound)
    {s : List Nat} {d : Nat} :
    (rs.zipIdx dim).foldlM l.cutStep (acc, delta) = .ok (s, d) ↔
      RangesFit (l.shape.drop dim) rs ∧
        delta + offsetOf (rs.map Prod.fst) (l.stride.drop dim) < Word.bound ∧
        s = acc.take dim ++ rs.map (fun r => r.2 - r.1) ++ acc.drop (dim + rs.length) ∧
        d = delta + offsetOf (rs.map Prod.fst) (l.stride.drop dim) := by
  induction rs generalizing dim acc delta with
  | nil => simp [RangesFit, hdelta, pure, Except.pure, eq_comm]
  | cons r rs ih =>
    rw [List.zipIdx_cons, List.foldlM_cons, except_bind_eq_ok]
    simp only [cutStep_eq_ok]
    by_cases hdim : dim < l.shape.length
    · have hn : l.shape.getD dim 0 = l.shape[dim] := by simp [hdim]
      have hset : (acc.set dim (r.2 - r.1)).length = l.shape.length := by simpa using hacc
      rw [List.drop_eq_getElem_cons hdim, List.map_cons, offsetOf_cons_drop, hn]
      constructor
      · rintro ⟨_, ⟨hlt, hle, hword, rfl⟩, hrest⟩
        obtain ⟨hfits, hbound, rfl, rfl⟩ := (ih hset hword).1 hrest
        refine ⟨⟨hlt, hle, hfits⟩, by omega, ?_, by omega⟩
        rw [take_set_succ (by omega), List.drop_set_of_lt (by omega : dim < dim + 1 + rs.length)]
        simp [Nat.add_assoc, Nat.add_comm 1]
      · rintro ⟨⟨hlt, hle, hfits⟩, hbound, rfl, rfl⟩
        refine ⟨_, ⟨hlt, hle, by omega, rfl⟩, (ih hset (by omega)).2 ⟨hfits, by omega, ?_, by omega⟩⟩
        rw [take_set_succ (by omega), List.drop_set_of_lt (by omega : dim < dim + 1 + rs.length)]
        simp [Nat.add_assoc, Nat.add_comm 1]
    · have hn : l.shape.getD dim 0 = 0 := List.getD_eq_default _ _ (Nat.le_of_not_lt hdim)
      rw [List.drop_eq_nil_of_le (Nat.le_of_not_lt hdim), hn]
      simp only [RangesFit, false_and, iff_false, not_exists, not_and]
      intro _ hlt hle
      omega

def cutShape (shape : List Nat) (rs : List (Nat × Nat)) : List Nat :=
  rs.map (fun r => r.2 - r.1) ++ shape.drop rs.length

@[simp] theorem reshape_shape (l : Layout) (s : List Nat) : (l.reshape s).shape = s := rfl

@[simp] theorem reshape_stride (l : Layout) (s : List Nat) : (l.reshape s).stride = l.stride := rfl

@[simp] theorem reshape_elem (l : Layout) (s : List Nat) : (l.reshape s).elem = l.elem := rfl

@[simp] theorem reshape_reshape (l : Layout) (s s' : List Nat) :
    (l.reshape s).reshape s' = l.reshape s' := rfl

@[simp] theorem cutShape_nil (shape : List Nat) : cutShape shape [] = shape := by
  simp [cutShape]

@[simp] theorem cutShape_cons (n : Nat) (shape : List Nat) (r : Nat × Nat) (rs : List (Nat × Nat)) :
    cutShape (n :: shape) (r :: rs) = (r.2 - r.1) :: cutShape shape rs := by
  simp [cutShape]

/-! ### Indices and ranges of views -/

/-- An index of a view taken back to the tensor it views: each coordinate plus the start of the
range over its dimension. -/
def addIndex : List Nat → List Nat → List Nat
  | [], j => j
  | s, [] => s
  | s :: ss, k :: j => (s + k) :: addIndex ss j

@[simp] theorem addIndex_nil_left (j : List Nat) : addIndex [] j = j := by
  cases j <;> rfl

@[simp] theorem addIndex_nil_right (s : List Nat) : addIndex s [] = s := by
  cases s <;> rfl

@[simp] theorem addIndex_cons_cons (s k : Nat) (ss j : List Nat) :
    addIndex (s :: ss) (k :: j) = (s + k) :: addIndex ss j := rfl

theorem offsetOf_addIndex (a b stride : List Nat) :
    offsetOf (addIndex a b) stride = offsetOf a stride + offsetOf b stride := by
  induction a generalizing b stride with
  | nil => simp
  | cons x a ih =>
    cases b with
    | nil => simp
    | cons y b =>
      cases stride with
      | nil => simp [offsetOf]
      | cons s ss =>
        simp only [addIndex_cons_cons, offsetOf_cons, ih, Nat.add_mul]
        omega

theorem forall₂_addIndex {shape : List Nat} {rs : List (Nat × Nat)} {j : List Nat}
    (hfit : RangesFit shape rs) (hj : List.Forall₂ (· < ·) j (cutShape shape rs)) :
    List.Forall₂ (· < ·) (addIndex (rs.map Prod.fst) j) shape := by
  induction rs generalizing shape j with
  | nil => simpa using hj
  | cons r rs ih =>
    cases shape with
    | nil => exact hfit.elim
    | cons n shape =>
      obtain ⟨hlt, hle, hfit⟩ := hfit
      rw [cutShape_cons] at hj
      obtain ⟨k, j', hk, hj', rfl⟩ := List.forall₂_cons_right_iff.1 hj
      exact List.Forall₂.cons (by omega) (ih hfit hj')

/-- Ranges over a view taken back to the tensor it views: a range of the second list moved by the
start of the first list's range over its dimension; a dimension that only one list cuts keeps
that list's range. -/
def composeRanges : List (Nat × Nat) → List (Nat × Nat) → List (Nat × Nat)
  | rs, [] => rs
  | [], qs => qs
  | r :: rs, q :: qs => (r.1 + q.1, r.1 + q.2) :: composeRanges rs qs

@[simp] theorem composeRanges_nil_left (qs : List (Nat × Nat)) : composeRanges [] qs = qs := by
  cases qs <;> rfl

@[simp] theorem composeRanges_nil_right (rs : List (Nat × Nat)) : composeRanges rs [] = rs := by
  cases rs <;> rfl

@[simp] theorem composeRanges_cons_cons (r q : Nat × Nat) (rs qs : List (Nat × Nat)) :
    composeRanges (r :: rs) (q :: qs) = (r.1 + q.1, r.1 + q.2) :: composeRanges rs qs := rfl

theorem map_fst_composeRanges (rs qs : List (Nat × Nat)) :
    (composeRanges rs qs).map Prod.fst = addIndex (rs.map Prod.fst) (qs.map Prod.fst) := by
  induction rs generalizing qs with
  | nil => simp
  | cons r rs ih => cases qs with
    | nil => simp
    | cons q qs => simp [ih]

theorem RangesFit.composeRanges {shape : List Nat} {rs qs : List (Nat × Nat)}
    (h₁ : RangesFit shape rs) (h₂ : RangesFit (cutShape shape rs) qs) :
    RangesFit shape (composeRanges rs qs) := by
  induction rs generalizing shape qs with
  | nil => simpa using h₂
  | cons r rs ih =>
    cases qs with
    | nil => simpa using h₁
    | cons q qs =>
      cases shape with
      | nil => exact h₁.elim
      | cons n shape =>
        rw [cutShape_cons] at h₂
        obtain ⟨hlt, hle, h₁⟩ := h₁
        obtain ⟨hlt', hle', h₂⟩ := h₂
        exact ⟨by omega, by omega, ih h₁ h₂⟩

theorem cutShape_composeRanges {shape : List Nat} {rs qs : List (Nat × Nat)}
    (h₁ : RangesFit shape rs) (h₂ : RangesFit (cutShape shape rs) qs) :
    cutShape (cutShape shape rs) qs = cutShape shape (composeRanges rs qs) := by
  induction rs generalizing shape qs with
  | nil => simp
  | cons r rs ih =>
    cases qs with
    | nil => simp
    | cons q qs =>
      cases shape with
      | nil => exact h₁.elim
      | cons n shape =>
        rw [cutShape_cons] at h₂
        obtain ⟨hlt, -, h₁⟩ := h₁
        obtain ⟨-, hle', h₂⟩ := h₂
        simp only [cutShape_cons, composeRanges_cons_cons, ih h₁ h₂, List.cons.injEq, and_true]
        omega

theorem cut_eq_ok_iff {l : Layout} {rs : List (Nat × Nat)} {s : List Nat} {d : Nat} :
    rs.zipIdx.foldlM l.cutStep (l.shape, 0) = .ok (s, d) ↔
      RangesFit l.shape rs ∧ offsetOf (rs.map Prod.fst) l.stride < Word.bound ∧
        s = cutShape l.shape rs ∧ d = offsetOf (rs.map Prod.fst) l.stride := by
  have h := @foldlM_cutStep_eq_ok l rs 0 0 l.shape rfl (by decide) s d
  simpa [cutShape] using h

end Layout

/-! ### Moving handles -/

namespace Word

theorem signedBound_eq : signedBound = 9223372036854775808 := rfl

theorem bound_eq : bound = 18446744073709551616 := rfl

theorem isSigned_iff {v : Int} :
    isSigned v = true ↔ -9223372036854775808 ≤ v ∧ v < 9223372036854775808 := by
  unfold isSigned
  rw [signedBound_eq]
  simp

theorem toSigned_eq (n : Nat) :
    toSigned n = if n < 9223372036854775808 then (n : Int) else (n : Int) - 18446744073709551616 := by
  simp only [toSigned, bound_eq]
  rfl

theorem addSigned_eq_ok {v v' : Int} {d : Nat} :
    addSigned v d = .ok v' ↔ isSigned (v + toSigned (d % bound)) = true ∧
      v' = v + toSigned (d % bound) := by
  dsimp only [addSigned]
  split
  · next h => simp [h, eq_comm]
  · next h => simp [h]

theorem toSigned_add_mod {x d : Nat}
    (h : isSigned (toSigned (x % bound) + toSigned (d % bound)) = true) :
    toSigned ((x + d) % bound) = toSigned (x % bound) + toSigned (d % bound) := by
  rw [isSigned_iff] at h
  simp only [toSigned_eq, bound_eq] at h ⊢
  split_ifs at h ⊢ <;> omega

theorem addSigned_add {v v₁ v₂ : Int} {d₁ d₂ : Nat} (hv : 0 ≤ v) (hd : d₁ + d₂ < bound)
    (h₁ : addSigned v d₁ = .ok v₁) (h₂ : addSigned v₁ d₂ = .ok v₂) :
    addSigned v (d₁ + d₂) = .ok v₂ := by
  rw [addSigned_eq_ok, isSigned_iff] at h₁ h₂ ⊢
  obtain ⟨hs₁, rfl⟩ := h₁
  obtain ⟨hs₂, rfl⟩ := h₂
  rw [bound_eq] at hd
  simp only [toSigned_eq, bound_eq] at hs₁ hs₂ ⊢
  split_ifs at hs₁ hs₂ ⊢ <;> omega

end Word

namespace Handle

def value : Handle → Int
  | .num v => v
  | .addr a => a.value

theorem advance_num (v : Int) (d : Nat) :
    (Handle.num v).advance d = (Word.addSigned v d).map .num := rfl

theorem advance_addr (a : Addr) (d : Nat) :
    (Handle.addr a).advance d = (Word.addSigned a.value d).map fun _ => .addr (a.advance d) := rfl

theorem except_map_eq_ok {ε α β : Type} {x : Except ε α} {f : α → β} {b : β} :
    x.map f = .ok b ↔ ∃ a, x = .ok a ∧ f a = b := by
  cases x <;> simp [Except.map]

theorem addSigned_value_of_advance {h h' : Handle} {d : Nat} (hadv : h.advance d = .ok h') :
    Word.addSigned h.value d = .ok h'.value := by
  cases h with
  | num v =>
    obtain ⟨v', hv', rfl⟩ := except_map_eq_ok.1 hadv
    exact hv'
  | addr a =>
    obtain ⟨v', hv', rfl⟩ := except_map_eq_ok.1 hadv
    obtain ⟨hs, rfl⟩ := Word.addSigned_eq_ok.1 hv'
    refine Word.addSigned_eq_ok.2 ⟨hs, ?_⟩
    simp only [value, Addr.value, Addr.advance_offset, ← Nat.add_assoc]
    exact Word.toSigned_add_mod hs

theorem advance_add {h h₁ h₂ : Handle} {d₁ d₂ : Nat} (hv : 0 ≤ h.value)
    (hd : d₁ + d₂ < Word.bound) (hadv₁ : h.advance d₁ = .ok h₁) (hadv₂ : h₁.advance d₂ = .ok h₂) :
    h.advance (d₁ + d₂) = .ok h₂ := by
  have hsum := Word.addSigned_add hv hd (addSigned_value_of_advance hadv₁)
    (addSigned_value_of_advance hadv₂)
  cases h with
  | num v =>
    obtain ⟨v₁, -, rfl⟩ := except_map_eq_ok.1 hadv₁
    obtain ⟨v₂, -, rfl⟩ := except_map_eq_ok.1 hadv₂
    simp only [value] at hsum
    rw [advance_num, hsum]
    rfl
  | addr a =>
    obtain ⟨-, -, rfl⟩ := except_map_eq_ok.1 hadv₁
    obtain ⟨-, -, rfl⟩ := except_map_eq_ok.1 hadv₂
    simp only [value] at hsum
    rw [advance_addr, hsum, Addr.advance_advance]
    rfl

end Handle

namespace Tensor

theorem lookup_setHandle_self (hs : List (String × Handle)) (k : String) (v : Handle) :
    (setHandle hs k v).lookup k = some v := by
  unfold setHandle
  split
  · next hany =>
    -- the key is there already: its first entry now holds the new handle
    induction hs with
    | nil => simp at hany
    | cons e hs ih =>
      obtain ⟨k₀, x⟩ := e
      by_cases he : k₀ = k
      · subst he
        simp only [List.map_cons, beq_self_eq_true, if_true, List.lookup_cons]
      · have hk : (k₀ == k) = false := beq_false_of_ne he
        have hk' : (k == k₀) = false := beq_false_of_ne (Ne.symm he)
        have hrest : hs.any (·.1 == k) = true := by
          simpa only [List.any_cons, hk, Bool.false_or] using hany
        simp only [List.map_cons, hk, Bool.false_eq_true, if_false, List.lookup_cons, hk']
        exact ih hrest
  · next hany =>
    -- the key is new: nothing before its place holds it
    have hbefore : (hs.filter fun e => decide (e.1 < k)).lookup k = none := by
      refine List.lookup_eq_none_iff.2 fun e he => ?_
      have hne : e.1 ≠ k := fun h =>
        hany (List.any_eq_true.2 ⟨e, (List.mem_filter.1 he).1, beq_iff_eq.2 h⟩)
      exact bne_iff_ne.2 (Ne.symm hne)
    rw [List.append_assoc, List.singleton_append, List.lookup_append, hbefore,
      List.lookup_cons, beq_self_eq_true]
    rfl

theorem any_setHandle (hs : List (String × Handle)) (k : String) (v : Handle) :
    (setHandle hs k v).any (·.1 == k) = true := by
  by_contra hno
  have hnone := List.lookup_eq_none_iff.2 fun e he =>
    bne_iff_ne.2 fun h => hno (List.any_eq_true.2 ⟨e, he, beq_iff_eq.2 h.symm⟩)
  rw [lookup_setHandle_self] at hnone
  cases hnone

theorem setHandle_setHandle (hs : List (String × Handle)) (k : String) (v v' : Handle) :
    setHandle (setHandle hs k v) k v' = setHandle hs k v' := by
  rw [setHandle, if_pos (any_setHandle hs k v)]
  unfold setHandle
  split
  · rw [List.map_map]
    refine List.map_congr_left fun e _ => ?_
    by_cases he : (e.1 == k) = true
    · simp only [Function.comp_apply, he, if_true, beq_self_eq_true]
    · simp only [Function.comp_apply, he, if_false, Bool.false_eq_true]
  · next hany =>
    dsimp only
    -- the entries around the new one hold other keys, which the second setting leaves
    have hkeep : ∀ l : List (String × Handle), (∀ e ∈ l, e ∈ hs) →
        l.map (fun e => if (e.1 == k) = true then (k, v') else e) = l := by
      intro l hl
      refine List.map_congr_left (fun e he => ?_) |>.trans (List.map_id l)
      have hne : (e.1 == k) = false := Bool.eq_false_iff.2 fun h =>
        hany (List.any_eq_true.2 ⟨e, hl e he, h⟩)
      simp only [hne, Bool.false_eq_true, if_false, id]
    rw [List.map_append, List.map_append, hkeep _ fun e he => (List.mem_filter.1 he).1,
      hkeep _ fun e he => (List.mem_filter.1 he).1]
    simp only [List.map_cons, List.map_nil, beq_self_eq_true, if_true]

def sliceDelta (t : Tensor) (ranges : List (Nat × Nat)) : Nat :=
  Layout.offsetOf (ranges.map Prod.fst) t.layout.stride

/-- When a tensor has a view over ranges: the ranges fit its shape, the view's offset is a word,
and a primary handle of host memory, moved by the view's start, stays a signed word. -/
structure Sliceable (t : Tensor) (ranges : List (Nat × Nat)) : Prop where
  fit : Layout.RangesFit t.layout.shape ranges
  offset : t.offset + t.sliceDelta ranges < Word.bound
  handle : ∀ a h, t.host = some a → t.handles.lookup t.primary = some h →
    ∃ h', h.advance (t.sliceDelta ranges) = .ok h'

/-- `v` is the view of the tensor `t`, stored at `r`, over ranges: the same kind, strides, element
type, context and primary key; the ranges' lengths in its shape; its start the bytes before the
ranges' starts further on, in its offset and its host address; for host memory the primary
handle moved with the address, for other memory the handle `offset` recording the view's offset;
`t` as its parent, and nothing of its own. -/
structure IsView (v : Tensor) (r : Ref) (t : Tensor) (ranges : List (Nat × Nat)) : Prop where
  kind : v.kind = t.kind
  layout : v.layout = t.layout.reshape (Layout.cutShape t.layout.shape ranges)
  context : v.context = t.context
  parent : v.parent = some r
  primary : v.primary = t.primary
  offset : v.offset = t.offset + t.sliceDelta ranges
  host : v.host = t.host.map fun a => a.advance (t.sliceDelta ranges)
  handles_moved : ∀ a h, t.host = some a → t.handles.lookup t.primary = some h →
    ∃ h', h.advance (t.sliceDelta ranges) = .ok h' ∧ v.handles = setHandle t.handles t.primary h'
  handles_kept : ∀ a, t.host = some a → t.handles.lookup t.primary = none → v.handles = t.handles
  handles_offset : t.host = none → v.handles = setHandle t.handles Key.offset (Handle.ofWord v.offset)
  holding : v.holding = none

variable {w : World} {r : Ref} {t : Tensor}

theorem run_retain_create {b : Body} (hr : r < w.nodes.size) :
    ∃ w', (do retain r; create b : Act Ref).run w = .ok w.nodes.size w' ∧
      w'.bodyAt w.nodes.size = some b ∧ w'.nodes.size = w.nodes.size + 1 := by
  obtain ⟨n, hn⟩ : ∃ n, w.nodes[r]? = some n := ⟨w.nodes[r], Array.getElem?_eq_getElem hr⟩
  refine ⟨(w.setStrong r n (n.strong + 1)).push ⟨1, b⟩, ?_, ?_, by simp⟩
  · simp only [EStateM.run_bind, run_retain hn, run_create, setStrong_size]
  · simpa using bodyAt_push_size (w.setStrong r n (n.strong + 1)) ⟨1, b⟩

/-- What a slice that succeeds leaves: a new tensor at the end of the store, the view of `t`
over the ranges. -/
def SliceDone (w : World) (r : Ref) (t : Tensor) (ranges : List (Nat × Nat))
    (res : EStateM.Result Fault World Ref) : Prop :=
  ∃ v w', res = .ok w.nodes.size w' ∧ w'.bodyAt w.nodes.size = some (.tensor v) ∧
    v.IsView r t ranges ∧ w'.nodes.size = w.nodes.size + 1

theorem sliceDone_hold {v : Tensor} {ranges : List (Nat × Nat)} (hr : r < w.nodes.size)
    (hctx : ∀ c, t.context = .strong c → c < w.nodes.size) (hv : v.IsView r t ranges) :
    SliceDone w r t ranges ((match t.context with
      | .strong c => do retain c; retain r; create (.tensor v)
      | _ => do retain r; create (.tensor v) : Act Ref).run w) := by
  cases hcx : t.context with
  | strong c =>
    have hc := hctx c hcx
    obtain ⟨n, hn⟩ : ∃ n, w.nodes[c]? = some n := ⟨w.nodes[c], Array.getElem?_eq_getElem hc⟩
    obtain ⟨w', hrun, hb, hsize⟩ :=
      run_retain_create (w := w.setStrong c n (n.strong + 1)) (b := .tensor v) (by simpa using hr)
    refine ⟨v, w', ?_, by simpa using hb, hv, by simpa using hsize⟩
    rw [EStateM.run_bind, run_retain hn]
    simpa using hrun
  | none =>
    obtain ⟨w', hrun, hb, hsize⟩ := run_retain_create (w := w) (b := .tensor v) hr
    exact ⟨v, w', hrun, hb, hv, hsize⟩
  | weak c =>
    obtain ⟨w', hrun, hb, hsize⟩ := run_retain_create (w := w) (b := .tensor v) hr
    exact ⟨v, w', hrun, hb, hv, hsize⟩

theorem run_slice (hr : w.bodyAt r = some (.tensor t))
    (hctx : ∀ c, t.context = .strong c → c < w.nodes.size) (ranges : List (Nat × Nat)) :
    (t.Sliceable ranges ∧ SliceDone w r t ranges ((slice r ranges).run w)) ∨
      (¬t.Sliceable ranges ∧ ∃ e, (slice r ranges).run w = .error e w) := by
  generalize hres : (slice r ranges).run w = res
  simp only [slice, EStateM.run_bind, run_tensor hr] at hres
  split at hres
  · rw [EStateM.run_bind, run_throw] at hres
    exact .inr ⟨fun hs => by have := hs.fit.length_le; omega, _, hres.symm⟩
  · rw [EStateM.run_bind, Act.run_forIn_of_pure (g := t.layout.cutStep)] at hres
    · -- the loop is the cut of the layout
      cases hcut : ranges.zipIdx.foldlM t.layout.cutStep (t.layout.shape, 0) with
      | error e =>
        rw [hcut] at hres
        refine .inr ⟨fun hs => ?_, e, hres.symm⟩
        have hok := Layout.cut_eq_ok_iff.2 ⟨hs.fit, by have := hs.offset; unfold sliceDelta at this; omega, rfl, rfl⟩
        rw [hcut] at hok
        cases hok
      | ok sd =>
        obtain ⟨s, d⟩ := sd
        obtain ⟨hfit, -, rfl, rfl⟩ := Layout.cut_eq_ok_iff.1 hcut
        rw [hcut, run_lift_ok] at hres
        simp only at hres
        have hrlt := lt_size_of_bodyAt hr
        cases ho : Word.addChecked t.offset (t.sliceDelta ranges) with
        | none =>
          rw [sliceDelta] at ho
          simp only [ho, EStateM.run_bind, run_throw] at hres
          refine .inr ⟨fun hs => ?_, _, hres.symm⟩
          have hsome := Word.addChecked_eq_some_iff.2 ⟨hs.offset, rfl⟩
          rw [sliceDelta, ho] at hsome
          cases hsome
        | some o =>
          obtain ⟨hoff, rfl⟩ := Word.addChecked_eq_some_iff.1 ho
          rw [sliceDelta] at ho
          simp only [ho, EStateM.run_bind, EStateM.run_pure] at hres
          cases hh : t.host with
          | none =>
            simp only [hh, EStateM.run_bind, EStateM.run_pure] at hres
            subst hres
            refine .inl ⟨⟨hfit, hoff, by simp [hh]⟩, sliceDone_hold hrlt hctx ?_⟩
            exact ⟨rfl, rfl, rfl, rfl, rfl, rfl, by simp [hh], by simp [hh], by simp [hh],
              fun _ => rfl, rfl⟩
          | some a =>
            simp only [hh] at hres
            cases hl : t.handles.lookup t.primary with
            | none =>
              simp only [hl, EStateM.run_bind, EStateM.run_pure] at hres
              subst hres
              refine .inl ⟨⟨hfit, hoff, by simp [hl]⟩, sliceDone_hold hrlt hctx ?_⟩
              exact ⟨rfl, rfl, rfl, rfl, rfl, rfl, by simp [hh, sliceDelta], by simp [hl],
                fun _ _ _ => rfl, by simp [hh], rfl⟩
            | some h =>
              simp only [hl, EStateM.run_bind] at hres
              cases hadv : h.advance (t.sliceDelta ranges) with
              | error e =>
                have hadv' := hadv
                rw [sliceDelta] at hadv'
                simp only [hadv', run_lift_error] at hres
                refine .inr ⟨fun hs => ?_, e, hres.symm⟩
                obtain ⟨h', hh'⟩ := hs.handle a h hh hl
                rw [hadv] at hh'
                cases hh'
              | ok h' =>
                have hadv' := hadv
                rw [sliceDelta] at hadv'
                simp only [hadv', run_lift_ok, EStateM.run_pure] at hres
                subst hres
                have hmoved : ∀ a h'', t.host = some a → t.handles.lookup t.primary = some h'' →
                    ∃ h₁, h''.advance (t.sliceDelta ranges) = .ok h₁ ∧
                      setHandle t.handles t.primary h' = setHandle t.handles t.primary h₁ := by
                  intro _ h'' _ hl'
                  rw [hl] at hl'
                  cases hl'
                  exact ⟨h', hadv, rfl⟩
                refine .inl ⟨⟨hfit, hoff, fun a h'' ha hl' => ?_⟩, sliceDone_hold hrlt hctx ?_⟩
                · obtain ⟨h₁, hh₁, -⟩ := hmoved a h'' ha hl'
                  exact ⟨h₁, hh₁⟩
                · exact ⟨rfl, rfl, rfl, rfl, rfl, rfl, by simp [hh, sliceDelta], hmoved, by simp [hl],
                    by simp [hh], rfl⟩
    · intro a b w
      dsimp only [Layout.cutStep]
      split
      · rfl
      · cases hm : Word.mulChecked a.1.1 (t.layout.stride.getD a.2 0) with
        | none => rfl
        | some step =>
          have hb : (some step >>= Word.addChecked b.2) = Word.addChecked b.2 step := rfl
          rw [hb]
          dsimp only
          cases Word.addChecked b.2 step <;> rfl

theorem sliceDelta_composeRanges (t : Tensor) (rs qs : List (Nat × Nat)) :
    t.sliceDelta (Layout.composeRanges rs qs) =
      t.sliceDelta rs + Layout.offsetOf (qs.map Prod.fst) t.layout.stride := by
  simp only [sliceDelta, Layout.map_fst_composeRanges, Layout.offsetOf_addIndex]

namespace IsView

variable {v v₁ v₂ v₃ : Tensor} {r₁ r₂ : Ref} {ranges rs qs : List (Nat × Nat)}

theorem element (hv : v.IsView r t ranges) (hfit : Layout.RangesFit t.layout.shape ranges)
    {j : List Nat} (hj : j ∈ Layout.indices v.layout.shape) :
    Layout.addIndex (ranges.map Prod.fst) j ∈ Layout.indices t.layout.shape ∧
      v.offset + Layout.offsetOf j v.layout.stride =
        t.offset + Layout.offsetOf (Layout.addIndex (ranges.map Prod.fst) j) t.layout.stride := by
  rw [hv.layout, Layout.reshape_shape] at hj
  refine ⟨Layout.mem_indices.2 (Layout.forall₂_addIndex hfit (Layout.mem_indices.1 hj)), ?_⟩
  rw [hv.offset, hv.layout, Layout.reshape_stride, Layout.offsetOf_addIndex, sliceDelta]
  omega

theorem sliceDelta_eq (hv₁ : v₁.IsView r t rs) (qs : List (Nat × Nat)) :
    v₁.sliceDelta qs = Layout.offsetOf (qs.map Prod.fst) t.layout.stride := by
  rw [sliceDelta, hv₁.layout, Layout.reshape_stride]

theorem handles_compose (hv₁ : v₁.IsView r t rs) (hv₂ : v₂.IsView r₁ v₁ qs)
    (hv₃ : v₃.IsView r₂ t (Layout.composeRanges rs qs))
    (hval : ∀ a h, t.host = some a → t.handles.lookup t.primary = some h → 0 ≤ h.value)
    (hd : t.sliceDelta rs + v₁.sliceDelta qs < Word.bound) :
    v₂.handles = v₃.handles := by
  have hdelta : t.sliceDelta (Layout.composeRanges rs qs) = t.sliceDelta rs + v₁.sliceDelta qs := by
    rw [sliceDelta_composeRanges, hv₁.sliceDelta_eq]
  cases hh : t.host with
  | none =>
    -- other memory: both record the view's offset, which is the same
    have hh₁ : v₁.host = none := by rw [hv₁.host, hh]; rfl
    rw [hv₂.handles_offset hh₁, hv₁.handles_offset hh, setHandle_setHandle, hv₃.handles_offset hh,
      hv₂.offset, hv₁.offset, hv₃.offset, hdelta, Nat.add_assoc]
  | some a =>
    have hh₁ : v₁.host = some (a.advance (t.sliceDelta rs)) := by rw [hv₁.host, hh]; rfl
    cases hl : t.handles.lookup t.primary with
    | none =>
      have hl₁ : v₁.handles.lookup v₁.primary = none := by
        rw [hv₁.handles_kept a hh hl, hv₁.primary, hl]
      rw [hv₂.handles_kept _ hh₁ hl₁, hv₁.handles_kept a hh hl, hv₃.handles_kept a hh hl]
    | some h =>
      -- host memory: the primary handle moves twice, as it moves once by the sum
      obtain ⟨h₁, hadv₁, hs₁⟩ := hv₁.handles_moved a h hh hl
      have hl₁ : v₁.handles.lookup v₁.primary = some h₁ := by
        rw [hs₁, hv₁.primary, lookup_setHandle_self]
      obtain ⟨h₂, hadv₂, hs₂⟩ := hv₂.handles_moved _ h₁ hh₁ hl₁
      obtain ⟨h₃, hadv₃, hs₃⟩ := hv₃.handles_moved a h hh hl
      have hsum := Handle.advance_add (hval a h hh hl) hd hadv₁ hadv₂
      rw [← hdelta, hadv₃] at hsum
      cases hsum
      rw [hs₂, hs₁, hv₁.primary, setHandle_setHandle, hs₃]

end IsView

theorem slice_ok_iff (hr : w.bodyAt r = some (.tensor t))
    (hctx : ∀ c, t.context = .strong c → c < w.nodes.size) (ranges : List (Nat × Nat)) :
    (∃ r' w', (slice r ranges).run w = .ok r' w') ↔ t.Sliceable ranges := by
  rcases run_slice hr hctx ranges with ⟨hs, v, w', hrun, -⟩ | ⟨hs, e, hrun⟩
  · exact ⟨fun _ => hs, fun _ => ⟨_, w', hrun⟩⟩
  · simp [hrun, hs]

theorem slice_view (hr : w.bodyAt r = some (.tensor t))
    (hctx : ∀ c, t.context = .strong c → c < w.nodes.size) {ranges : List (Nat × Nat)}
    {r' : Ref} {w' : World} (h : (slice r ranges).run w = .ok r' w') :
    r' = w.nodes.size ∧ w'.nodes.size = w.nodes.size + 1 ∧
      ∃ v, w'.bodyAt r' = some (.tensor v) ∧ v.IsView r t ranges := by
  rcases run_slice hr hctx ranges with ⟨-, v, w'', hrun, hb, hv, hsize⟩ | ⟨-, e, hrun⟩
  · rw [h] at hrun
    cases hrun
    exact ⟨rfl, hsize, v, hb, hv⟩
  · rw [h] at hrun
    cases hrun

theorem slice_error (hr : w.bodyAt r = some (.tensor t))
    (hctx : ∀ c, t.context = .strong c → c < w.nodes.size) {ranges : List (Nat × Nat)}
    {e : Fault} {w' : World} (h : (slice r ranges).run w = .error e w') : w' = w := by
  rcases run_slice hr hctx ranges with ⟨-, v, w'', hrun, -⟩ | ⟨-, e', hrun⟩
  · rw [h] at hrun
    cases hrun
  · rw [h] at hrun
    cases hrun
    rfl

theorem slice_slice (hr : w.bodyAt r = some (.tensor t))
    (hctx : ∀ c, t.context = .strong c → c < w.nodes.size)
    (hval : ∀ a h, t.host = some a → t.handles.lookup t.primary = some h → 0 ≤ h.value)
    {rs qs : List (Nat × Nat)} {r₁ r₂ : Ref} {w₁ w₂ : World}
    (h₁ : (slice r rs).run w = .ok r₁ w₁) (h₂ : (slice r₁ qs).run w₁ = .ok r₂ w₂) :
    ∃ r₃ w₃ v₂ v₃, (slice r (Layout.composeRanges rs qs)).run w = .ok r₃ w₃ ∧
      w₂.bodyAt r₂ = some (.tensor v₂) ∧ w₃.bodyAt r₃ = some (.tensor v₃) ∧
      v₂.layout = v₃.layout ∧ v₂.offset = v₃.offset ∧ v₂.host = v₃.host ∧
      v₂.handles = v₃.handles := by
  obtain ⟨rfl, hsize₁, v₁, hb₁, hv₁⟩ := slice_view hr hctx h₁
  have hctx₁ : ∀ c, v₁.context = .strong c → c < w₁.nodes.size := by
    intro c hc
    rw [hsize₁]
    exact Nat.lt_succ_of_lt (hctx c (hv₁.context ▸ hc))
  obtain ⟨rfl, -, v₂, hb₂, hv₂⟩ := slice_view hb₁ hctx₁ h₂
  have hs₁ := (slice_ok_iff hr hctx rs).1 ⟨_, _, h₁⟩
  have hs₂ := (slice_ok_iff hb₁ hctx₁ qs).1 ⟨_, _, h₂⟩
  have hfit₂ : Layout.RangesFit (Layout.cutShape t.layout.shape rs) qs := by
    simpa [hv₁.layout] using hs₂.fit
  have hoff₂ := hs₂.offset
  rw [hv₁.offset, Nat.add_assoc] at hoff₂
  have hdelta : t.sliceDelta (Layout.composeRanges rs qs) = t.sliceDelta rs + v₁.sliceDelta qs := by
    rw [sliceDelta_composeRanges, hv₁.sliceDelta_eq]
  -- the composed ranges fit the tensor, and its primary handle moves by their start at once
  have hs₃ : t.Sliceable (Layout.composeRanges rs qs) := by
    refine ⟨hs₁.fit.composeRanges hfit₂, by omega, fun a h hh hl => ?_⟩
    obtain ⟨h₁, hadv₁, hs₁'⟩ := hv₁.handles_moved a h hh hl
    have hh₁ : v₁.host = some (a.advance (t.sliceDelta rs)) := by rw [hv₁.host, hh]; rfl
    have hl₁ : v₁.handles.lookup v₁.primary = some h₁ := by
      rw [hs₁', hv₁.primary, lookup_setHandle_self]
    obtain ⟨h₂, hadv₂⟩ := hs₂.handle _ h₁ hh₁ hl₁
    exact ⟨h₂, hdelta ▸ Handle.advance_add (hval a h hh hl) (by omega) hadv₁ hadv₂⟩
  obtain ⟨r₃, w₃, h₃⟩ := (slice_ok_iff hr hctx _).2 hs₃
  obtain ⟨-, -, v₃, hb₃, hv₃⟩ := slice_view hr hctx h₃
  refine ⟨r₃, w₃, v₂, v₃, h₃, hb₂, hb₃, ?_, ?_, ?_,
    hv₁.handles_compose hv₂ hv₃ hval (by omega)⟩
  · rw [hv₂.layout, hv₁.layout, hv₃.layout, Layout.reshape_reshape, Layout.reshape_shape,
      Layout.cutShape_composeRanges hs₁.fit hfit₂]
  · rw [hv₂.offset, hv₁.offset, hv₃.offset, hdelta, Nat.add_assoc]
  · rw [hv₂.host, hv₁.host, hv₃.host, hdelta]
    cases t.host <;> simp [Addr.advance_advance]

theorem sliceRegion_eq (hr : w.bodyAt r = some (.tensor t)) {rows cols : Nat}
    (hrows : (AxisOrder.ofShape t.layout.shape).rows = some rows)
    (hcols : (AxisOrder.ofShape t.layout.shape).cols = some cols) (y x : Nat × Nat) :
    (sliceRegion r y x).run w =
      (slice r (((t.layout.shape.map fun d => (0, d)).set rows y).set cols x)).run w := by
  have himg : ImageView.ofLayout t.layout =
      .ok ⟨t.layout, AxisOrder.ofShape t.layout.shape, rows, cols⟩ := by
    simp [ImageView.ofLayout, hrows, hcols]
  simp only [sliceRegion, EStateM.run_bind, run_tensor hr, himg, run_lift_ok]

theorem sliceRegion_error (hr : w.bodyAt r = some (.tensor t))
    (himage : (AxisOrder.ofShape t.layout.shape).rows = none ∨
      (AxisOrder.ofShape t.layout.shape).cols = none) (y x : Nat × Nat) :
    ∃ e, (sliceRegion r y x).run w = .error e w := by
  obtain ⟨e, he⟩ : ∃ e, ImageView.ofLayout t.layout = .error e := by
    unfold ImageView.ofLayout
    rcases himage with h | h <;> simp [h]
  exact ⟨e, by simp only [sliceRegion, EStateM.run_bind, run_tensor hr, he, run_lift_error]⟩

/-- A host tensor of two rows of three bytes at the start of its block. -/
def hostRows : Tensor where
  kind := .cpu
  layout := ⟨[2, 3], [3, 1], .uint8⟩
  handles := [(Key.data, .addr ⟨0, 0⟩)]
  primary := Key.data
  host := some ⟨0, 0⟩

def hostRowsWorld : World where
  nodes := #[⟨1, .tensor hostRows⟩]

/-- A host tensor of two empty rows that lie almost half the word apart. -/
def farRows : Tensor where
  kind := .cpu
  layout := ⟨[2, 0], [Nat.pow 2 63 - 1, 1], .uint8⟩
  handles := [(Key.data, .addr ⟨0, 0⟩)]
  primary := Key.data
  host := some ⟨0, 0⟩

def farRowsWorld : World where
  nodes := #[⟨1, .tensor farRows⟩]

end Tensor

open Tensor in
/-- Slicing selects sub-blocks. A slice succeeds exactly when the ranges fit, the offset is a
word and a host tensor's primary handle stays a signed word; it then stores the view of the
tensor and otherwise changes nothing. Element `j` of a view is element `start + j` of the tensor.
Slicing a view is slicing the tensor by the composed ranges. A region is the slice with its rows
and columns placed at the layout's row and column axes. -/
theorem slice_selects_subblocks (w : World) (r : Ref) (t : Tensor)
    (hr : w.bodyAt r = some (.tensor t)) (hctx : ∀ c, t.context = .strong c → c < w.nodes.size) :
    (∀ ranges : List (Nat × Nat),
      ((∃ r' w', (slice r ranges).run w = .ok r' w') ↔ t.Sliceable ranges) ∧
      (∀ r' w', (slice r ranges).run w = .ok r' w' →
        r' = w.nodes.size ∧ ∃ v, w'.bodyAt r' = some (.tensor v) ∧ v.IsView r t ranges) ∧
      (∀ e w', (slice r ranges).run w = .error e w' → w' = w)) ∧
    (∀ (v : Tensor) (ranges : List (Nat × Nat)), v.IsView r t ranges →
      t.Sliceable ranges → ∀ j ∈ Layout.indices v.layout.shape,
        Layout.addIndex (ranges.map Prod.fst) j ∈ Layout.indices t.layout.shape ∧
        v.offset + Layout.offsetOf j v.layout.stride =
          t.offset + Layout.offsetOf (Layout.addIndex (ranges.map Prod.fst) j) t.layout.stride) ∧
    ((∀ a h, t.host = some a → t.handles.lookup t.primary = some h → 0 ≤ h.value) →
      ∀ (rs qs : List (Nat × Nat)) (r₁ r₂ : Ref) (w₁ w₂ : World),
        (slice r rs).run w = .ok r₁ w₁ → (slice r₁ qs).run w₁ = .ok r₂ w₂ →
        ∃ r₃ w₃ v₂ v₃, (slice r (Layout.composeRanges rs qs)).run w = .ok r₃ w₃ ∧
          w₂.bodyAt r₂ = some (.tensor v₂) ∧ w₃.bodyAt r₃ = some (.tensor v₃) ∧
          v₂.layout = v₃.layout ∧ v₂.offset = v₃.offset ∧ v₂.host = v₃.host ∧
          v₂.handles = v₃.handles) ∧
    (∀ rows cols, (AxisOrder.ofShape t.layout.shape).rows = some rows →
      (AxisOrder.ofShape t.layout.shape).cols = some cols → ∀ y x : Nat × Nat,
        (sliceRegion r y x).run w =
          (slice r (((t.layout.shape.map fun d => (0, d)).set rows y).set cols x)).run w) := by
  refine ⟨fun ranges => ⟨slice_ok_iff hr hctx ranges, ?_, ?_⟩,
    fun v ranges hv hs j hj => hv.element hs.fit hj,
    fun hval rs qs r₁ r₂ w₁ w₂ h₁ h₂ => slice_slice hr hctx hval h₁ h₂,
    fun rows cols hrows hcols y x => sliceRegion_eq hr hrows hcols y x⟩
  · intro r' w' h
    obtain ⟨hr', -, v, hb, hv⟩ := slice_view hr hctx h
    exact ⟨hr', v, hb, hv⟩
  · intro e w' h
    exact slice_error hr hctx h

/-- The middle row of a host tensor is a view of it. -/
theorem middle_row_slice_exists :
    ∃ r' w', (Tensor.slice 0 [(1, 2)]).run Tensor.hostRowsWorld = .ok r' w' := by
  refine ((slice_selects_subblocks Tensor.hostRowsWorld 0 Tensor.hostRows rfl
    (fun c h => by cases h)).1 [(1, 2)]).1.2 ⟨by decide, by decide, ?_⟩
  intro a h _ hl
  cases hl
  exact ⟨_, rfl⟩

/-- A slice whose ranges fit and whose offset is a word still stops when moving the primary
handle of host memory passes the top of the signed word. -/
theorem far_row_slice_halts :
    Layout.RangesFit Tensor.farRows.layout.shape [(1, 2)] ∧
      Tensor.farRows.offset + Tensor.farRows.sliceDelta [(1, 2)] < Word.bound ∧
      (Tensor.slice 0 [(1, 2)]).run Tensor.farRowsWorld =
        .error (.halt "attempt to add with overflow") Tensor.farRowsWorld :=
  ⟨by decide, by decide, rfl⟩

end MemBridge
