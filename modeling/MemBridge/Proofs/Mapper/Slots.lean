import Mathlib
import MemBridge.Mapper.Run

/-!
The slots of a cache as a memo table.

A cache's slots, read through `Mapper.lookup`, are a table from a handle and an access mode to
the destination cached for them. Making the slot of a key (`slotFor`) changes no answer of the
table; filling it (`fillSlot`) answers the key with the new destination and leaves every other
key as it was. No two slots share a key (`Mapper.KeysUnique`), and both operations keep it so;
with unique keys, the number of filled slots is the number of keys the table answers.
-/

namespace MemBridge

def Slot.key (s : Slot) : Handle × AccessMode := (s.handle, s.mode)

namespace Mapper

def isSlotOf (h : Handle) (mode : AccessMode) (s : Slot) : Bool := s.handle == h && s.mode == mode

def lookup (slots : List Slot) (h : Handle) (mode : AccessMode) : Option Ref :=
  (slots.find? (isSlotOf h mode)).bind (·.value)

def KeysUnique (slots : List Slot) : Prop := (slots.map Slot.key).Nodup

variable {slots : List Slot} {h h' : Handle} {mode mode' : AccessMode} {v : Ref}

@[simp] theorem isSlotOf_iff {s : Slot} : isSlotOf h mode s = true ↔ s.key = (h, mode) := by
  simp [isSlotOf, Slot.key]

theorem slotFor_eq_of_find (hs : slots.find? (isSlotOf h mode) = some s) :
    slotFor slots h mode = (s, slots) := by
  unfold isSlotOf at hs
  simp only [slotFor, hs]

theorem slotFor_eq_of_find_none (hs : slots.find? (isSlotOf h mode) = none) :
    slotFor slots h mode = (⟨h, mode, none⟩, slots ++ [⟨h, mode, none⟩]) := by
  unfold isSlotOf at hs
  simp only [slotFor, hs]

/-- The slot handed out holds what the table answers for its key. -/
@[simp] theorem slotFor_value : (slotFor slots h mode).1.value = lookup slots h mode := by
  cases hs : slots.find? (isSlotOf h mode) with
  | none => simp [slotFor_eq_of_find_none hs, lookup, hs]
  | some s => simp [slotFor_eq_of_find hs, lookup, hs]

theorem slotFor_snd_of_lookup (hv : lookup slots h mode = some v) :
    (slotFor slots h mode).2 = slots := by
  cases hs : slots.find? (isSlotOf h mode) with
  | none => simp [lookup, hs] at hv
  | some s => simp [slotFor_eq_of_find hs]

theorem find?_append_of_none {l : List Slot} {p : Slot → Bool} (hl : l.find? p = none)
    (l' : List Slot) : (l ++ l').find? p = l'.find? p := by
  simp [List.find?_append, hl]

theorem slotFor_of_lookup (hv : lookup slots h mode = some v) :
    ∃ s, slotFor slots h mode = (s, slots) ∧ s.value = some v :=
  ⟨(slotFor slots h mode).1, Prod.ext rfl (slotFor_snd_of_lookup hv), by simpa using hv⟩

/-- Making the slot of a key changes no answer. -/
@[simp] theorem lookup_slotFor : lookup (slotFor slots h mode).2 h' mode' = lookup slots h' mode' := by
  cases hs : slots.find? (isSlotOf h mode) with
  | some s => simp [slotFor_eq_of_find hs]
  | none =>
    rw [slotFor_eq_of_find_none hs]
    cases hs' : slots.find? (isSlotOf h' mode') with
    | some s' => simp [lookup, List.find?_append, hs']
    | none =>
      -- the new slot is empty, so whether it matches the key does not matter
      simp only [lookup, find?_append_of_none hs', hs', Option.bind_none, List.find?_singleton]
      split <;> rfl

theorem key_fillSlot (v : Ref) : (fillSlot slots h mode v).map Slot.key = slots.map Slot.key := by
  induction slots with
  | nil => rfl
  | cons s rest ih =>
    simp only [fillSlot, List.map_cons] at ih ⊢
    rw [ih]
    split <;> rfl

theorem isSlotOf_fill (s : Slot) :
    isSlotOf h' mode' (if s.handle == h && s.mode == mode then { s with value := some v } else s) =
      isSlotOf h' mode' s := by
  split <;> rfl

theorem find?_fillSlot : (fillSlot slots h mode v).find? (isSlotOf h' mode') =
    (slots.find? (isSlotOf h' mode')).map
      fun s => if s.handle == h && s.mode == mode then { s with value := some v } else s := by
  rw [fillSlot, List.find?_map]
  congr 2
  funext s
  exact isSlotOf_fill s

theorem find?_fillSlot_of_ne (hk : (h', mode') ≠ (h, mode)) :
    (fillSlot slots h mode v).find? (isSlotOf h' mode') =
      slots.find? (isSlotOf h' mode') := by
  rw [find?_fillSlot]
  cases hs : slots.find? (isSlotOf h' mode') with
  | none => rfl
  | some s =>
    -- the slot found is for the other key, so filling leaves it
    have hsk : s.handle = h' ∧ s.mode = mode' := by
      simpa [Slot.key] using isSlotOf_iff.1 (List.find?_some hs)
    have hne : ¬ (s.handle == h && s.mode == mode) = true := by
      obtain ⟨rfl, rfl⟩ := hsk
      simpa using hk
    simp only [Option.map_some, if_neg hne]

theorem lookup_fillSlot_of_ne (hk : (h', mode') ≠ (h, mode)) :
    lookup (fillSlot slots h mode v) h' mode' = lookup slots h' mode' := by
  simp [lookup, find?_fillSlot_of_ne hk]

theorem lookup_fillSlot_slotFor_self :
    lookup (fillSlot (slotFor slots h mode).2 h mode v) h mode = some v := by
  obtain ⟨s, hs⟩ : ∃ s, (slotFor slots h mode).2.find? (isSlotOf h mode) = some s := by
    cases hs : slots.find? (isSlotOf h mode) with
    | some s => exact ⟨s, by rw [slotFor_eq_of_find hs, hs]⟩
    | none =>
      refine ⟨⟨h, mode, none⟩, ?_⟩
      simp [slotFor_eq_of_find_none hs, find?_append_of_none hs, isSlotOf]
  have hsk : isSlotOf h mode s = true := List.find?_some hs
  simp only [lookup, find?_fillSlot, hs, Option.map_some, Option.bind_some]
  rw [if_pos (by exact hsk)]

theorem lookup_fillSlot_slotFor :
    lookup (fillSlot (slotFor slots h mode).2 h mode v) h' mode' =
      if (h', mode') = (h, mode) then some v else lookup slots h' mode' := by
  split
  · next hk =>
    obtain ⟨rfl, rfl⟩ := Prod.mk.inj hk
    exact lookup_fillSlot_slotFor_self
  · next hk => rw [lookup_fillSlot_of_ne hk, lookup_slotFor]

theorem KeysUnique.slotFor (hu : KeysUnique slots) : KeysUnique (slotFor slots h mode).2 := by
  cases hs : slots.find? (isSlotOf h mode) with
  | some s => simpa [slotFor_eq_of_find hs] using hu
  | none =>
    rw [slotFor_eq_of_find_none hs]
    -- no slot had the key, or `find?` would have found it
    have hnew : ∀ s ∈ slots, s.handle = h → ¬ s.mode = mode := by
      intro s hs' hh hm
      have : (slots.find? (isSlotOf h mode)).isSome :=
        List.find?_isSome.2 ⟨s, hs', by simp [isSlotOf, hh, hm]⟩
      simp [hs] at this
    simpa [KeysUnique, List.nodup_append, Slot.key] using ⟨hu, hnew⟩

theorem KeysUnique.fillSlot (hu : KeysUnique slots) : KeysUnique (fillSlot slots h mode v) := by
  simpa [KeysUnique, key_fillSlot] using hu

theorem KeysUnique.filter (p : Slot → Bool) (hu : KeysUnique slots) :
    KeysUnique (slots.filter p) :=
  hu.sublist ((List.filter_sublist).map Slot.key)

theorem lookup_of_mem {s : Slot} (hu : KeysUnique slots) (hs : s ∈ slots) :
    lookup slots s.handle s.mode = s.value := by
  obtain ⟨s', hs'⟩ : ∃ s', slots.find? (isSlotOf s.handle s.mode) = some s' :=
    Option.isSome_iff_exists.1 (List.find?_isSome.2 ⟨s, hs, by simp [isSlotOf]⟩)
  have hk : s'.key = s.key := isSlotOf_iff.1 (List.find?_some hs')
  have : s' = s := List.inj_on_of_nodup_map hu (List.mem_of_find?_eq_some hs') hs hk
  simp [lookup, hs', this]

theorem length_filter_filled (hu : KeysUnique slots) :
    (slots.filter (·.value.isSome)).length =
      ((slots.map Slot.key).filter fun k => (lookup slots k.1 k.2).isSome).length := by
  rw [List.filter_map, List.length_map]
  congr 1
  apply List.filter_congr
  intro s hs
  simp [Slot.key, lookup_of_mem hu hs]

theorem fillSlot_cons (s : Slot) (rest : List Slot) :
    fillSlot (s :: rest) h mode v =
      (if s.handle == h && s.mode == mode then { s with value := some v } else s) ::
        fillSlot rest h mode v := rfl

theorem fillSlot_of_forall_ne {l : List Slot} (hl : ∀ s ∈ l, s.key ≠ (h, mode)) :
    fillSlot l h mode v = l := by
  induction l with
  | nil => rfl
  | cons s rest ih =>
    have hs : ¬ (s.handle == h && s.mode == mode) = true := by
      simpa [Slot.key] using hl s (by simp)
    rw [fillSlot_cons, if_neg hs, ih fun x hx => hl x (List.mem_cons_of_mem s hx)]

theorem length_filter_fillSlot {l : List Slot} (hu : KeysUnique l)
    (hs : ∃ s ∈ l, s.key = (h, mode) ∧ s.value = none) :
    ((fillSlot l h mode v).filter (·.value.isSome)).length =
      (l.filter (·.value.isSome)).length + 1 := by
  induction l with
  | nil => simp at hs
  | cons s rest ih =>
    have hrest : KeysUnique rest := (List.nodup_cons.1 hu).2
    by_cases hk : s.key = (h, mode)
    · -- the keys are unique, so `s` is the empty slot and no other slot has its key
      obtain ⟨s', hs', hk', hv'⟩ := hs
      have hss : s' = s := List.inj_on_of_nodup_map hu hs' (by simp) (hk'.trans hk.symm)
      subst hss
      have hnot : ∀ x ∈ rest, x.key ≠ (h, mode) := fun x hx e =>
        (List.nodup_cons.1 hu).1 (hk ▸ e ▸ List.mem_map_of_mem hx)
      have hsk : s'.handle = h ∧ s'.mode = mode := by simpa [Slot.key] using hk
      simp [fillSlot_cons, hsk, hv', fillSlot_of_forall_ne hnot]
    · obtain ⟨s', hs', hk', hv'⟩ := hs
      have hmem : s' ∈ rest := by
        rcases List.mem_cons.1 hs' with rfl | h'
        · exact absurd hk' hk
        · exact h'
      have hsk : ¬ (s.handle = h ∧ s.mode = mode) := by simpa [Slot.key] using hk
      have hsk' : ¬ (s.handle == h && s.mode == mode) = true := by simpa using hsk
      rw [fillSlot_cons, if_neg hsk', List.filter_cons, List.filter_cons]
      split <;> simp [ih hrest ⟨s', hmem, hk', hv'⟩]

theorem lookup_evicted :
    lookup (slots.partition (·.handle == h)).2 h' mode' =
      if h' = h then none else lookup slots h' mode' := by
  rw [List.partition_eq_filter_filter]
  simp only [lookup, List.find?_filter]
  split
  · next hh =>
    subst hh
    rw [List.find?_eq_none.2 ?_, Option.bind_none]
    intro s _ hs
    simp [isSlotOf] at hs
    exact hs.1 hs.2.1
  · next hh =>
    congr 2
    funext s
    -- a slot of the other handle is not evicted
    by_cases e : s.handle = h'
    · simp [isSlotOf, e, hh]
      rfl
    · simp [isSlotOf, e]

end Mapper

end MemBridge
