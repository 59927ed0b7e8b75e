import Mathlib.Data.Finset.Card
import MemBridge.Console.Metadata
import MemBridge.Proofs.Metadata.Records

/-!
A dictionary is an insertion-ordered finite map.

A dictionary changes only by setting a key, removing a key and renaming it (`Dictionary.Edit`).
Over any history of edits from an empty dictionary (`Dictionary.edited`) its keys stay distinct:
setting a key that is there keeps every key where it is, setting a new one appends it, and
removing one drops it. So the value the dictionary has for a key is the value of the last edit
that set it, unless a later edit removed it (`Dictionary.lastSet`), and its length is the number
of such keys. Typed reads agree with each other: `get` succeeds exactly when the value is of the
type asked for (a 32-bit read also needs the integer to fit 32 bits), `tryGet` is `get` with
the reason dropped, and `getOr` falls back to its default where `tryGet` has nothing. The data
form has one member per entry.

Main statement: `Dictionary.edited_is_ordered_map`.
-/

namespace MemBridge

namespace Dictionary

/-- The calls that change a dictionary. -/
inductive Edit where
  | set (key : String) (v : MetaValue)
  | remove (key : String)
  | rename (name : String)

def edit (d : Dictionary) : Edit → Dictionary
  | .set k v => d.set k v
  | .remove k => (d.remove k).2
  | .rename n => { d with name := n }

def edited (name : String) (es : List Edit) : Dictionary :=
  es.foldl edit (empty name)

def Edit.key? : Edit → Option String
  | .set k _ | .remove k => some k
  | .rename _ => none

def Edit.view (f : String → Option MetaValue) : Edit → String → Option MetaValue
  | .set k v => Function.update f k (some v)
  | .remove k => Function.update f k none
  | .rename _ => f

def lastSet (es : List Edit) : String → Option MetaValue :=
  es.foldl Edit.view fun _ => none

def liveKeys (es : List Edit) : Finset String :=
  (es.filterMap Edit.key?).toFinset.filter fun k => (lastSet es k).isSome

/-! ## Keys and values -/

theorem contains_iff_mem_keys {d : Dictionary} {k : String} :
    d.contains k = true ↔ k ∈ d.keys := by
  simp [contains, value?, keys, List.find?_isSome]

theorem nodup_keys_set {d : Dictionary} (h : d.keys.Nodup) (k : String) (v : MetaValue) :
    (d.set k v).keys.Nodup := by
  cases hc : d.contains k
  · rw [keys_set_of_not_contains v hc]
    have hk : k ∉ d.keys := fun hm => by simp [contains_iff_mem_keys.2 hm] at hc
    exact h.append (List.nodup_singleton k) (by simpa using hk)
  · rwa [keys_set_of_contains v hc]

theorem keys_remove_sublist (d : Dictionary) (k : String) :
    List.Sublist (d.remove k).2.keys d.keys := by
  unfold remove
  split
  · exact (List.eraseP_sublist).map _
  · exact List.Sublist.refl _

theorem find?_eraseP_key {es : List (String × MetaValue)} (h : (es.map (·.1)).Nodup)
    (k k' : String) :
    (es.eraseP (·.1 == k)).find? (·.1 == k') = if k' = k then none else es.find? (·.1 == k') := by
  induction es with
  | nil => simp
  | cons e rest ih =>
    obtain ⟨he, hrest⟩ := List.nodup_cons.1 h
    by_cases hk : e.1 = k
    · rw [List.eraseP_cons_of_pos (by simpa using hk)]
      -- the first entry is the one removed, and no later entry has its key
      have hnone : rest.find? (·.1 == k) = none := by
        rw [List.find?_eq_none]
        intro x hx hxk
        exact he (List.mem_map.2 ⟨x, hx, by simpa [hk] using hxk⟩)
      by_cases hk' : k' = k
      · subst hk'
        simp [hnone]
      · have hne : (e.1 == k') = false := by simpa [hk] using Ne.symm hk'
        simp [hk', hne]
    · rw [List.eraseP_cons_of_neg (by simpa using hk), List.find?_cons, List.find?_cons, ih hrest]
      by_cases hk' : k' = k
      · subst hk'
        have hne : (e.1 == k') = false := by simpa using hk
        simp [hne]
      · simp [hk']

theorem value?_remove {d : Dictionary} (h : d.keys.Nodup) (k k' : String) :
    (d.remove k).2.value? k' = if k' = k then none else d.value? k' := by
  unfold remove
  split
  · simp only [value?, find?_eraseP_key h]
    split <;> rfl
  · next hv =>
    split
    · next hk => subst hk; exact hv
    · rfl

/-! ## One edit, then a whole history -/

theorem nodup_keys_edit {d : Dictionary} (h : d.keys.Nodup) (e : Edit) : (d.edit e).keys.Nodup := by
  cases e with
  | set k v => exact nodup_keys_set h k v
  | remove k => exact (keys_remove_sublist d k).nodup h
  | rename n => exact h

theorem value?_edit {d : Dictionary} (h : d.keys.Nodup) (e : Edit) :
    (d.edit e).value? = e.view d.value? := by
  funext k'
  cases e with
  | set k v => simp [edit, Edit.view, Function.update_apply]
  | remove k => simp [edit, Edit.view, Function.update_apply, value?_remove h]
  | rename n => rfl

theorem edits_run {d : Dictionary} (h : d.keys.Nodup) (es : List Edit) :
    (es.foldl edit d).keys.Nodup ∧ (es.foldl edit d).value? = es.foldl Edit.view d.value? := by
  induction es generalizing d with
  | nil => exact ⟨h, rfl⟩
  | cons e es ih =>
    have hstep := ih (nodup_keys_edit h e)
    rw [value?_edit h e] at hstep
    exact hstep

theorem nodup_keys_empty (name : String) : (empty name).keys.Nodup := List.nodup_nil

theorem nodup_keys_edited (name : String) (es : List Edit) : (edited name es).keys.Nodup :=
  (edits_run (nodup_keys_empty name) es).1

theorem value?_edited (name : String) (es : List Edit) : (edited name es).value? = lastSet es :=
  (edits_run (nodup_keys_empty name) es).2

theorem key_of_view_isSome (es : List Edit) (f : String → Option MetaValue) (k : String)
    (h : (es.foldl Edit.view f k).isSome) : (f k).isSome ∨ k ∈ es.filterMap Edit.key? := by
  induction es generalizing f with
  | nil => exact .inl h
  | cons e es ih =>
    rcases ih (e.view f) h with hk | hk
    · cases e with
      | set k' v =>
        by_cases hkk : k = k'
        · exact .inr (by simp [Edit.key?, hkk])
        · exact .inl (by simpa [Edit.view, hkk] using hk)
      | remove k' =>
        by_cases hkk : k = k'
        · simp [Edit.view, hkk] at hk
        · exact .inl (by simpa [Edit.view, hkk] using hk)
      | rename n => exact .inl hk
    · exact .inr (List.mem_filterMap.2 (by
        obtain ⟨x, hx, hxk⟩ := List.mem_filterMap.1 hk
        exact ⟨x, List.mem_cons_of_mem e hx, hxk⟩))

theorem keys_toFinset_edited (name : String) (es : List Edit) :
    (edited name es).keys.toFinset = liveKeys es := by
  ext k
  have hval := congrFun (value?_edited name es) k
  constructor
  · intro hk
    have hsome : (lastSet es k).isSome := by
      rw [← hval, ← contains]
      exact contains_iff_mem_keys.2 (List.mem_toFinset.1 hk)
    have hmem := (key_of_view_isSome es _ k hsome).resolve_left (by simp)
    exact Finset.mem_filter.2 ⟨List.mem_toFinset.2 hmem, hsome⟩
  · intro hk
    have hsome := (Finset.mem_filter.1 hk).2
    rw [← hval, ← contains] at hsome
    exact List.mem_toFinset.2 (contains_iff_mem_keys.1 hsome)

theorem size_edited (name : String) (es : List Edit) :
    (edited name es).size = (liveKeys es).card := by
  rw [← keys_toFinset_edited, List.toFinset_card_of_nodup (nodup_keys_edited name es)]
  simp [size, keys]

/-! ## Typed reads -/

theorem fits_iff (v : MetaValue) (t : ValueType) :
    v.fits t = true ↔
      if t = .i32 then ∃ n, v = .int n ∧ Word.isSigned32 n = true else Console.typeOf v = t := by
  cases v <;> cases t <;> simp [MetaValue.fits, Console.typeOf, Word.isSigned32]

theorem get_eq_ok_iff (d : Dictionary) (k : String) (t : ValueType) (v : MetaValue) :
    d.get k t = .ok v ↔ d.value? k = some v ∧ v.fits t = true := by
  unfold get
  cases hv : d.value? k with
  | none => simp
  | some x =>
    by_cases hx : x.fits t = true
    · simp only [hx, if_true, Except.ok.injEq, Option.some.injEq]
      exact ⟨fun h => ⟨h, h ▸ hx⟩, And.left⟩
    · simp only [hx, if_false, reduceCtorEq, Option.some.injEq, false_iff, not_and]
      rintro rfl
      exact hx

theorem tryGet_eq_toOption (d : Dictionary) (k : String) (t : ValueType) :
    d.tryGet k t = (d.get k t).toOption := by
  unfold tryGet get
  cases d.value? k with
  | none => rfl
  | some x => by_cases hx : x.fits t = true <;> simp [hx, Option.filter, Except.toOption]

theorem getOr_eq_get (d : Dictionary) (k : String) (t : ValueType) (dflt : MetaValue) :
    d.getOr k t dflt = ((d.get k t).toOption).getD dflt := by
  rw [getOr, tryGet_eq_toOption]

theorem toData_members (d : Dictionary) :
    ∃ ms, d.toData = .obj ms ∧ ms.Perm (d.entries.map fun e => (e.1, e.2.toData)) :=
  ⟨_, rfl, List.mergeSort_perm _ _⟩

/-- Any history of sets, removals and renamings from an empty dictionary leaves an
insertion-ordered finite map. Its keys are distinct and as many as the keys set and not removed
since, and each key answers the value it was last set to. Setting a key that is there keeps the
keys in place and changes only that key's value; setting a new key appends its entry. `get`
succeeds exactly with a value of the type asked for (for a 32-bit read, an integer that fits 32
bits), `tryGet` and `getOr` agree with it, and the data form has one member per entry. -/
theorem edited_is_ordered_map (name : String) (es : List Edit) :
    let d := edited name es
    d.keys.Nodup ∧ d.size = (liveKeys es).card ∧ (∀ k, d.value? k = lastSet es k) ∧
    (∀ k v, d.contains k = true → (d.set k v).keys = d.keys ∧
      ∀ k', (d.set k v).value? k' = if k' = k then some v else d.value? k') ∧
    (∀ k v, d.contains k = false → (d.set k v).entries = d.entries ++ [(k, v)]) ∧
    (∀ v t, v.fits t = true ↔
      if t = .i32 then ∃ n, v = .int n ∧ Word.isSigned32 n = true else Console.typeOf v = t) ∧
    (∀ k t v, d.get k t = .ok v ↔ lastSet es k = some v ∧ v.fits t = true) ∧
    (∀ k t, d.tryGet k t = (d.get k t).toOption) ∧
    (∀ k t dflt, d.getOr k t dflt = ((d.get k t).toOption).getD dflt) ∧
    ∃ ms, d.toData = .obj ms ∧ ms.Perm (d.entries.map fun e => (e.1, e.2.toData)) := by
  intro d
  have hval : ∀ k, d.value? k = lastSet es k := congrFun (value?_edited name es)
  refine ⟨nodup_keys_edited name es, size_edited name es, hval, ?_, ?_, fits_iff, ?_,
    tryGet_eq_toOption d, getOr_eq_get d, toData_members d⟩
  · intro k v hc
    exact ⟨keys_set_of_contains v hc, fun k' => value?_set d k k' v⟩
  · intro k v hc
    simp [set, hc]
  · intro k t v
    rw [get_eq_ok_iff, hval]

/-- Setting a key again keeps its place; removing it drops it. -/
example : (edited "r" [.set "a" (.int 1), .set "b" (.int 2), .set "a" (.int 10)]).keys =
      ["a", "b"] ∧
    (edited "r" [.set "a" (.int 1), .set "b" (.int 2), .set "a" (.int 10), .remove "a"]).keys =
      ["b"] := by
  decide

end Dictionary

end MemBridge
