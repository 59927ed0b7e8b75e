import Mathlib
import MemBridge.Layout.Text
import MemBridge.Proofs.Layout.Elements

/-!
The text form of a layout reads back as the layout.

Every layout that `withStride` accepts reads back from its text form (`parse_text`), at every
rank, for empty dimensions, for every element type and for strides that are not row-major, as
long as its dimensions and strides are words. The text is cut at commas into the element name,
the dimensions and, for strides that are not the row-major ones, the strides
(`pieces_text`); no piece carries a comma or a blank at its ends, so cutting and trimming give
the pieces back. Dimensions come back through `readDims_colonText`, each one through
`readWord_natText`. A text without strides is read with the row-major strides, which are the
layout's own exactly when `isContiguous` holds.
-/

namespace MemBridge

namespace Text

/-! ### Digits -/

theorem foldlM_digits {cs : List Char} (h : ∀ c ∈ cs, c.isDigit = true) (acc : Nat) :
    cs.foldlM (fun acc c => if c.isDigit then some (acc * 10 + (c.toNat - '0'.toNat)) else none)
      acc = some (Nat.ofDigitChars 10 cs acc) := by
  induction cs generalizing acc with
  | nil => rfl
  | cons c cs ih =>
    simp only [List.foldlM_cons, h c List.mem_cons_self, if_true, Option.bind_eq_bind,
      Option.bind_some, ih fun d hd => h d (List.mem_cons_of_mem c hd)]
    rw [Nat.mul_comm]
    rfl

theorem readWord_natText {n : Nat} (h : n < Word.bound) : readWord (natText n) = some n := by
  have hdig : ∀ c ∈ Nat.toDigits 10 n, c.isDigit = true := fun _ hc =>
    Nat.isDigit_of_mem_toDigits (by decide) (by decide) hc
  obtain ⟨d, ds, hds⟩ := List.exists_cons_of_ne_nil (Nat.toDigits_ne_nil (n := n) (b := 10))
  have hd : d ≠ '+' := fun e => by simpa [e] using hdig d (by simp [hds])
  have hvalue : digitsValue (Nat.toDigits 10 n) = some n := by
    unfold digitsValue
    split
    · next he => exact absurd he Nat.toDigits_ne_nil
    · rw [foldlM_digits hdig, Nat.ofDigitChars_ten_toDigits]
  -- digits carry no sign to drop
  unfold readWord natText
  simp only [String.toList_ofList, hds]
  simp only [List.cons.injEq, hd, false_and, imp_false, not_false_eq_true, implies_true]
  rw [← hds, hvalue]
  exact if_pos h

/-! ### Blanks and separators -/

theorem dimChar_not_blank {c : Char} (h : c.isDigit = true ∨ c = ':') :
    isBlank c = false ∧ c ≠ ',' := by
  rcases h with h | rfl
  · simp [Char.isDigit, UInt32.le_iff_toNat_le] at h
    constructor
    · simp [isBlank]
      omega
    · rintro rfl
      simp at h
  · decide

theorem forall_mem_intercalate {α : Type} {p : α → Prop} {sep : List α} {xs : List (List α)}
    (hs : ∀ c ∈ sep, p c) (hx : ∀ l ∈ xs, ∀ c ∈ l, p c) : ∀ c ∈ sep.intercalate xs, p c := by
  induction xs with
  | nil => simp
  | cons l xs ih =>
    cases xs with
    | nil => simpa using hx
    | cons l' xs =>
      rw [List.intercalate_cons_cons]
      intro c hc
      rcases List.mem_append.1 hc with hc | hc
      · rcases List.mem_append.1 hc with hc | hc
        · exact hx l List.mem_cons_self c hc
        · exact hs c hc
      · exact ih (fun l hl => hx l (List.mem_cons_of_mem _ hl)) c hc

theorem toList_colonText (ds : List Nat) :
    (colonText ds).toList = [':'].intercalate ((ds.map natText).map String.toList) := by
  simp [colonText, String.toList_intercalate]

theorem mem_colonText {ds : List Nat} {c : Char} (h : c ∈ (colonText ds).toList) :
    c.isDigit = true ∨ c = ':' := by
  rw [toList_colonText] at h
  refine forall_mem_intercalate (p := fun c => c.isDigit = true ∨ c = ':') (by simp) ?_ c h
  simp only [List.map_map, List.mem_map, Function.comp_apply, forall_exists_index, and_imp,
    forall_apply_eq_imp_iff₂]
  intro n _ c hc
  rw [natText, String.toList_ofList] at hc
  exact Or.inl (Nat.isDigit_of_mem_toDigits (by decide) (by decide) hc)

theorem dropBlank_of_forall {cs : List Char} (h : ∀ c ∈ cs, isBlank c = false) :
    dropBlank cs = cs := by
  cases cs with
  | nil => rfl
  | cons c cs => simp [dropBlank, h c List.mem_cons_self]

theorem trimBlank_of_forall {s : String} (h : ∀ c ∈ s.toList, isBlank c = false) :
    trimBlank s = s := by
  rw [trimBlank, dropBlank_of_forall h, dropBlank_of_forall (by simpa using h),
    List.reverse_reverse, String.ofList_toList]

theorem trimBlank_space_append {s : String} (h : ∀ c ∈ s.toList, isBlank c = false) :
    trimBlank (" " ++ s) = s := by
  have hfront : dropBlank (" " ++ s).toList = s.toList := by
    rw [String.toList_append, show " ".toList = [' '] by simp, List.singleton_append, dropBlank,
      List.dropWhile_cons_of_pos (by decide)]
    exact dropBlank_of_forall h
  rw [trimBlank, hfront, dropBlank_of_forall (by simpa using h), List.reverse_reverse,
    String.ofList_toList]

theorem pieces_of_toList {s : String} {ss : List String} {sep : Char}
    (h : s.toList = [sep].intercalate (ss.map String.toList)) (hs : ∀ t ∈ ss, sep ∉ t.toList)
    (hne : ss ≠ []) : pieces s sep = ss := by
  rw [pieces, h, List.splitOn_intercalate sep (by simpa using hs) (by simpa using hne),
    List.map_map]
  simp

end Text

theorem mapM_map_eq_ok {α β γ ε : Type} {f : β → Except ε γ} {k : α → β} {g : α → γ}
    {xs : List α} (h : ∀ x ∈ xs, f (k x) = .ok (g x)) : (xs.map k).mapM f = .ok (xs.map g) := by
  induction xs with
  | nil => rfl
  | cons x xs ih =>
    rw [List.map_cons, List.mapM_cons, h x List.mem_cons_self,
      ih fun y hy => h y (List.mem_cons_of_mem x hy)]
    rfl

namespace Layout

open Text

theorem readDims_colonText {ds : List Nat} (h : ∀ d ∈ ds, d < Word.bound) :
    readDims (colonText ds) = .ok ds := by
  cases ds with
  | nil => rfl
  | cons d ds =>
    have hne : (colonText (d :: ds)).toList ≠ [] := by
      rw [toList_colonText]
      cases ds <;> simp [natText, Nat.toDigits_ne_nil]
    have hnat : ∀ n, ∀ c ∈ (natText n).toList, isBlank c = false ∧ c ≠ ':' := by
      intro n c hc
      rw [natText, String.toList_ofList] at hc
      have hdig := Nat.isDigit_of_mem_toDigits (by decide) (by decide) hc
      refine ⟨(dimChar_not_blank (Or.inl hdig)).1, ?_⟩
      rintro rfl
      simp at hdig
    unfold readDims
    have hsep : ∀ t ∈ (d :: ds).map natText, ':' ∉ t.toList := by
      intro t ht hc
      obtain ⟨n, -, rfl⟩ := List.mem_map.1 ht
      exact (hnat n ':' hc).2 rfl
    rw [if_neg (by simpa using hne), pieces_of_toList (toList_colonText _) hsep (by simp)]
    conv_rhs => rw [← List.map_id (d :: ds)]
    apply mapM_map_eq_ok
    intro n hn
    simp only [trimBlank_of_forall fun c hc => (hnat n c hc).1, readWord_natText (h n hn), id]

theorem name_not_blank (e : ElementType) : ∀ c ∈ e.name.toList, isBlank c = false ∧ c ≠ ',' := by
  cases e <;> simp [ElementType.name, isBlank]

theorem pieces_text (l : Layout) :
    pieces l.text ',' = [l.elem.name, " " ++ colonText l.shape] ++
      (if l.isContiguous then [] else [" " ++ colonText l.stride]) := by
  have hdims : ∀ ds : List Nat, ',' ∉ (" " ++ colonText ds).toList := by
    intro ds hc
    rw [String.toList_append, show " ".toList = [' '] by simp, List.singleton_append,
      List.mem_cons] at hc
    rcases hc with hc | hc
    · exact absurd hc (by decide)
    · exact (dimChar_not_blank (mem_colonText hc)).2 rfl
  have htoString : ∀ s : String, toString s = s := fun _ => rfl
  apply pieces_of_toList
  · unfold text
    split <;> simp [htoString]
  · intro t ht
    rw [List.mem_append, List.mem_cons, List.mem_singleton] at ht
    rcases ht with (rfl | rfl) | ht
    · exact fun hc => (name_not_blank _ ',' hc).2 rfl
    · exact hdims _
    · split at ht
      · simp at ht
      · rw [List.mem_singleton] at ht
        subst ht
        exact hdims _
  · simp

/-- Every layout that `withStride` accepts, with dimensions and strides that are words, reads back
from its text form. -/
theorem parse_text {shape stride : List Nat} {elem : ElementType} {l : Layout}
    (hl : withStride shape stride elem = .ok l) (hw : ∀ d ∈ shape ++ stride, d < Word.bound) :
    parse l.text = .ok l := by
  obtain ⟨-, -, rfl⟩ := withStride_eq_ok.1 hl
  have hshape : ∀ d ∈ shape, d < Word.bound := fun d hd => hw d (List.mem_append_left _ hd)
  have hstride : ∀ d ∈ stride, d < Word.bound := fun d hd => hw d (List.mem_append_right _ hd)
  have hdims : ∀ ds : List Nat, trimBlank (" " ++ colonText ds) = colonText ds := fun ds =>
    trimBlank_space_append fun c hc => (dimChar_not_blank (mem_colonText hc)).1
  have hname : trimBlank elem.name = elem.name :=
    trimBlank_of_forall fun c hc => (name_not_blank elem c hc).1
  unfold parse
  rw [pieces_text]
  by_cases hc : isContiguous ⟨shape, stride, elem⟩ = true
  · -- the strides are left out and come back as the row-major ones
    have hrow : contiguousStride shape elem = .ok stride := isContiguous_iff.1 hc
    simp [hc, hdims, hname, ElementType.parse_name, readDims_colonText hshape, ofShape, bind,
      Except.bind, hrow, hl]
  · simp [hc, hdims, hname, ElementType.parse_name, readDims_colonText hshape,
      readDims_colonText hstride, bind, Except.bind, hl]

/-- Rows of 40 bytes kept 100 bytes apart read back from their text. -/
theorem strided_rows_text_round_trip :
    parse (⟨[30, 40], [100, 1], .uint8⟩ : Layout).text = .ok ⟨[30, 40], [100, 1], .uint8⟩ :=
  parse_text (show withStride [30, 40] [100, 1] .uint8 = .ok ⟨[30, 40], [100, 1], .uint8⟩ from rfl)
    (by decide)

example : (⟨[30, 40], [100, 1], .uint8⟩ : Layout).text = "uint8, 30:40, 100:1" := by decide

end Layout

end MemBridge
