import MemBridge.Proofs.Mapper.Contract

/-!
A failed call through a cache leaves its slot behind.

A cache makes the slot of the request's handle and access mode before the mapper it fronts
runs (`Mapper.slotFor`), and fills it only once that mapper has answered. A call that fails
before the slot is made (the source has no tensor or no primary handle) or on a filled slot (a
strict refusal, or a failure while the destination is handed out again) leaves the cache as it
was; a call that fails on an empty slot leaves the cache with that slot made and still empty
(`Mapper.tensorWith_cache_error`, `Mapper.frameWith_cache_error`).

An empty slot answers no lookup and is not counted among the filled ones, so the hit and miss
counts, the length and every later lookup are as before. Evicting a handle, though, answers
whether the cache has any slot of that handle, filled or not (`Mapper.evict_answers`): after a
failed call on a handle nothing is cached for, evicting it answers that something was dropped.
Main statement: `Mapper.failed_call_leaves_empty_slot`.
-/

namespace MemBridge

open Std.Do Act Mapper

set_option mvcgen.warning false

/-- Whether evicting a handle drops a slot of the cache: one of the handle, filled or empty,
among its tensor slots or its frame slots. -/
def Cache.evicts (c : Cache) (h : Handle) : Bool :=
  c.tensors.any (·.handle == h) || c.frames.any (·.handle == h)

namespace Act

variable {w w' : World} {e : Fault}

theorem bind_error {α β : Type} {x : Act α} {f : α → Act β}
    (h : (x >>= f).run w = .error e w') :
    x.run w = .error e w' ∨ ∃ a w₁, x.run w = .ok a w₁ ∧ (f a).run w₁ = .error e w' := by
  rw [EStateM.run_bind] at h
  split at h
  · next a w₁ hx => exact .inr ⟨a, w₁, hx, h⟩
  · next hx =>
    cases h
    exact .inl hx

theorem run_bind_of_error {α β : Type} {x : Act α} {f : α → Act β}
    (h : x.run w = .error e w') : (x >>= f).run w = .error e w' := by
  rw [EStateM.run_bind, h]

theorem mapper_of_error {α : Type} {x : Act α} {m : Ref} {k : Mapper}
    (hx : ⦃fun v => ⌜w.Extends 0 v⌝⦄ x ⦃World.Grown w⦄) (hrun : x.run w = .error e w')
    (hm : w.bodyAt m = some (.mapper k)) : w'.bodyAt m = some (.mapper k) := by
  have hk := of_triple hx (World.Extends.refl 0 w)
  rw [hrun] at hk
  exact hk.mapper_at hm (Nat.zero_le m)

end Act

namespace Tensor

variable {w w' : World} {w₀ : World}

theorem handleOf_run_ok {r : Ref} {key : String} {h : Handle}
    (hr : (handleOf r key).run w = .ok h w') :
    ∃ t, w.bodyAt r = some (.tensor t) ∧ t.handle key = .ok h ∧ w' = w := by
  obtain ⟨t, w₁, h₁, h₂⟩ := bind_ok hr
  obtain ⟨ht, rfl⟩ := tensor_run_ok h₁
  cases hh : t.handle key with
  | error e => simp [hh, lift] at h₂
  | ok h' =>
    simp only [hh, lift, EStateM.run_pure, EStateM.Result.ok.injEq] at h₂
    obtain ⟨rfl, rfl⟩ := h₂
    exact ⟨t, ht, hh, rfl⟩

theorem clearParents_spec (ts : List Ref) :
    ⦃fun w => ⌜w₀.Extends 0 w⌝⦄ (forIn ts PUnit.unit fun t _ => do
      clearParent t
      pure (ForInStep.yield PUnit.unit) : Act PUnit) ⦃World.Grown w₀⦄ := by
  mvcgen
  case inv1 => exact World.Grown w₀
  all_goals grind

end Tensor

namespace Frame

variable {w w' : World}

theorem tensorAt_run_ok {r t : Ref} {i : Nat} (hr : (tensorAt r i).run w = .ok t w') :
    ∃ f, w.bodyAt r = some (.frame f) ∧ f.tensors[i]? = some t ∧ w' = w := by
  obtain ⟨f, w₁, h₁, h₂⟩ := bind_ok hr
  obtain ⟨hf, rfl⟩ := frame_run_ok h₁
  cases ht : f.tensors[i]? with
  | none => simp [select, ht, lift] at h₂
  | some t' =>
    simp only [select, ht, lift, EStateM.run_pure, EStateM.Result.ok.injEq] at h₂
    obtain ⟨rfl, rfl⟩ := h₂
    exact ⟨f, hf, ht, rfl⟩

end Frame

namespace Mapper

variable {slots : List Slot} {h h' : Handle} {mode : AccessMode}

theorem length_filter_slotFor :
    ((slotFor slots h mode).2.filter (·.value.isSome)).length =
      (slots.filter (·.value.isSome)).length := by
  cases hs : slots.find? (isSlotOf h mode) with
  | some s => rw [slotFor_eq_of_find hs]
  | none => simp [slotFor_eq_of_find_none hs]

theorem any_handle_slotFor :
    (slotFor slots h mode).2.any (·.handle == h') = (slots.any (·.handle == h') || h == h') := by
  cases hs : slots.find? (isSlotOf h mode) with
  | none => simp [slotFor_eq_of_find_none hs]
  | some s =>
    rw [slotFor_eq_of_find hs]
    -- the slot found is a slot of `h`, so a slot of `h` was there already
    have hsh : s.handle = h := by
      have := List.find?_some hs
      simp [isSlotOf] at this
      exact this.1
    by_cases hh : h = h'
    · subst hh
      have : slots.any (·.handle == h) = true :=
        List.any_eq_true.2 ⟨s, List.mem_of_find?_eq_some hs, by simp [hsh]⟩
      simp [this]
    · simp [hh]

/-! ## What a failed call leaves -/

variable {w w' : World} {m src v : Ref} {c c' : Cache} {e : Fault}

theorem reissueTensor_error (hm : w.bodyAt m = some (.mapper (.cache c)))
    (hrun : (reissueTensor m c' v h).run w = .error e w') :
    w'.bodyAt m = some (.mapper (.cache c)) := by
  obtain h₁ | ⟨_, w₁, h₁, h₂⟩ := bind_error hrun
  · exact mapper_of_error (checkReissue_spec c' v h) h₁ hm
  obtain rfl := checkReissue_run_ok h₁
  obtain h₃ | ⟨_, w₂, h₃, h₄⟩ := bind_error h₂
  · exact mapper_of_error (Tensor.clearParent_spec v) h₃ hm
  -- once the parent is cleared the rest goes through, the cache and the tensor being kept
  obtain ⟨t, ht, hk⟩ := Tensor.clearParent_ok h₃
  have hmv : m ≠ v := World.ne_of_bodyAt hm ht (by simp)
  have hm₂ := hk.bodyAt_of_setBody hm hmv (by simp)
  have hv₂ := hk.bodyAt_setBody_self (World.lt_size_of_bodyAt ht) (by simp)
  obtain ⟨n, hn, -⟩ := World.exists_node_of_bodyAt hv₂
  have hn' := (World.getElem?_setBody_of_ne
    (.mapper (.cache { c with hits := c.hits + 1 })) hmv.symm).trans hn
  simp [EStateM.run_bind, run_cacheOf hm₂, run_setCache, run_retain hn'] at h₄

theorem reissueFrame_error (hm : w.bodyAt m = some (.mapper (.cache c)))
    (hrun : (reissueFrame m c' v h).run w = .error e w') :
    w'.bodyAt m = some (.mapper (.cache c)) := by
  obtain h₁ | ⟨_, w₁, h₁, h₂⟩ := bind_error hrun
  · exact mapper_of_error (checkReissue_spec c' v h) h₁ hm
  obtain rfl := checkReissue_run_ok h₁
  obtain h₃ | ⟨_, w₂, h₃, h₄⟩ := bind_error h₂
  · exact mapper_of_error (Frame.clearMetadata_spec v) h₃ hm
  obtain ⟨f, hf, hk₂⟩ := Frame.clearMetadata_ok h₃
  have hmv : m ≠ v := World.ne_of_bodyAt hm hf (by simp)
  have hm₂ := hk₂.bodyAt_of_setBody hm hmv (by simp)
  have hf₂ := hk₂.bodyAt_setBody_self (World.lt_size_of_bodyAt hf) (by simp)
  -- clearing the regions of a frame goes through
  obtain h₅ | ⟨_, w₃, h₅, h₆⟩ := bind_error h₄
  · rw [Frame.run_clearRegions hf₂] at h₅
    cases h₅
  rw [Frame.run_clearRegions hf₂] at h₅
  cases h₅
  have hm₃ : (w₂.setBody v (.frame { f with metadata := [], regions := [] })).bodyAt m =
      some (.mapper (.cache c)) := by
    rwa [World.bodyAt_setBody, if_neg fun e => hmv e.1]
  obtain h₇ | ⟨_, w₄, h₇, h₈⟩ := bind_error h₆
  · exact mapper_of_error (Frame.clearParent_spec v) h₇ hm₃
  obtain ⟨f₄, hf₄, hk₄⟩ := Frame.clearParent_ok h₇
  have hm₄ := hk₄.bodyAt_of_setBody hm₃ hmv (by simp)
  have hv₄ := hk₄.bodyAt_setBody_self (World.lt_size_of_bodyAt hf₄) (by simp)
  obtain ⟨n, hn, -⟩ := World.exists_node_of_bodyAt hv₄
  have hn' := (World.getElem?_setBody_of_ne
    (.mapper (.cache { c with hits := c.hits + 1 })) hmv.symm).trans hn
  simp [EStateM.run_bind, run_cacheOf hm₄, run_setCache, run_retain hn'] at h₈

theorem cache_kept_by_failed_inner {run : Ref → Ref → AccessMode → Act Ref} {c₁ : Cache}
    {w₂ : World}
    (hext : ∀ l src mode (w₀ : World), ⦃fun w => ⌜w₀.Extends (l + 1) w ∧ w.MappersNested⌝⦄
      run l src mode ⦃post⟨fun _ w => ⌜w₀.Extends (l + 1) w⌝, fun _ w => ⌜w₀.Extends (l + 1) w⌝⟩⦄)
    (hnest : w.MappersNested) (hm : w.bodyAt m = some (.mapper (.cache c)))
    (hs : (Mapper.cache c₁).skeleton = (Mapper.cache c).skeleton)
    (hrun : (run c.inner src mode).run (w.setBody m (.mapper (.cache c₁))) = .error e w₂) :
    w₂.bodyAt m = some (.mapper (.cache c₁)) := by
  have hsetup : w.Extends (m + 1) (w.setBody m (.mapper (.cache c₁))) := .setMapper hm hs
  have hinner : c.inner < m := hnest.inner_lt hm
  have hk := of_triple (hext c.inner src mode (w.setBody m (.mapper (.cache c₁))))
    ⟨.refl _ _, hsetup.nested hnest⟩
  rw [hrun] at hk
  exact hk.mapper_at (by simp [World.bodyAt_setBody, World.lt_size_of_bodyAt hm]) hinner

theorem tensorWith_cache_error (fuel : Nat) (hnest : w.MappersNested)
    (hm : w.bodyAt m = some (.mapper (.cache c)))
    (hrun : (tensorWith (fuel + 1) m src mode).run w = .error e w') :
    w'.bodyAt m = some (.mapper (.cache c)) ∨
      ∃ h, w'.bodyAt m = some (.mapper (.cache { c with tensors := (slotFor c.tensors h mode).2 })) := by
  cases hh : (Tensor.handleOf src "").run w with
  | error e' w₁ =>
    -- the handle is read before the slot is made
    simp only [tensorWith, EStateM.run_bind, run_mapper hm, hh] at hrun
    cases hrun
    exact .inl (mapper_of_error (Tensor.handleOf_spec src "") hh hm)
  | ok h w₁ =>
    obtain ⟨t, hsrc, hth, hw⟩ := Tensor.handleOf_run_ok hh
    subst w₁
    cases hv : lookup c.tensors h mode with
    | some v =>
      rw [tensorWith_cache_hit fuel hm hsrc hth hv] at hrun
      exact .inl (reissueTensor_error hm hrun)
    | none =>
      refine .inr ⟨h, ?_⟩
      rw [tensorWith_cache_miss fuel hm hsrc hth hv] at hrun
      obtain h₁ | ⟨dst, w₂, h₁, h₂⟩ := bind_error hrun
      · exact cache_kept_by_failed_inner (tensorWith_extends fuel) hnest hm (by simp) h₁
      have hm₂ := cache_kept_by_inner (tensorWith_extends fuel) hnest hm (by simp) h₁
      obtain h₃ | ⟨_, w₃, h₃, h₄⟩ := bind_error h₂
      · exact mapper_of_error (Tensor.clearParent_spec dst) h₃ hm₂
      -- once the parent is cleared, taking the reference and filling the slot go through
      obtain ⟨t, ht, hk⟩ := Tensor.clearParent_ok h₃
      have hmd : m ≠ dst := World.ne_of_bodyAt hm₂ ht (by simp)
      have hm₃ := hk.bodyAt_of_setBody hm₂ hmd (by simp)
      have hd₃ := hk.bodyAt_setBody_self (World.lt_size_of_bodyAt ht) (by simp)
      obtain ⟨n, hn, -⟩ := World.exists_node_of_bodyAt hd₃
      have hm₄ := (World.bodyAt_setStrong hn (n.strong + 1) m).trans hm₃
      simp [EStateM.run_bind, run_retain hn, run_cacheOf hm₄, run_setCache] at h₄

theorem frameWith_cache_error (fuel : Nat) (hnest : w.MappersNested)
    (hm : w.bodyAt m = some (.mapper (.cache c)))
    (hrun : (frameWith (fuel + 1) m src mode).run w = .error e w') :
    w'.bodyAt m = some (.mapper (.cache c)) ∨
      ∃ h, w'.bodyAt m = some (.mapper (.cache { c with frames := (slotFor c.frames h mode).2 })) := by
  -- the frame's first tensor and its handle are read before the slot is made
  cases ht₀ : (Frame.tensorAt src 0).run w with
  | error e' w₁ =>
    simp only [frameWith, EStateM.run_bind, run_mapper hm, ht₀] at hrun
    cases hrun
    exact .inl (mapper_of_error (Frame.tensorAt_spec src 0) ht₀ hm)
  | ok t₀ w₁ =>
    obtain ⟨f, hsrc, hf₀, hw⟩ := Frame.tensorAt_run_ok ht₀
    subst w₁
    cases hh : (Tensor.handleOf t₀ "").run w with
    | error e' w₁ =>
      simp only [frameWith, EStateM.run_bind, run_mapper hm, ht₀, hh] at hrun
      cases hrun
      exact .inl (mapper_of_error (Tensor.handleOf_spec t₀ "") hh hm)
    | ok h w₁ =>
      obtain ⟨t, ht, hth, hw⟩ := Tensor.handleOf_run_ok hh
      subst w₁
      cases hv : lookup c.frames h mode with
      | some v =>
        rw [frameWith_cache_hit fuel hm hsrc hf₀ ht hth hv] at hrun
        exact .inl (reissueFrame_error hm hrun)
      | none =>
        refine .inr ⟨h, ?_⟩
        rw [frameWith_cache_miss fuel hm hsrc hf₀ ht hth hv] at hrun
        obtain h₁ | ⟨dst, w₂, h₁, h₂⟩ := bind_error hrun
        · exact cache_kept_by_failed_inner (frameWith_extends fuel) hnest hm (by simp) h₁
        have hm₂ := cache_kept_by_inner (frameWith_extends fuel) hnest hm (by simp) h₁
        obtain h₃ | ⟨_, w₃, h₃, h₄⟩ := bind_error h₂
        · exact mapper_of_error (Frame.clearParent_spec dst) h₃ hm₂
        obtain ⟨fd, hfd, hk⟩ := Frame.clearParent_ok h₃
        have hmd : m ≠ dst := World.ne_of_bodyAt hm₂ hfd (by simp)
        have hm₃ := hk.bodyAt_of_setBody hm₂ hmd (by simp)
        have hd₃ := hk.bodyAt_setBody_self (World.lt_size_of_bodyAt hfd) (by simp)
        obtain h₅ | ⟨fd', w₄, h₅, h₆⟩ := bind_error h₄
        · rw [run_frame hd₃] at h₅
          cases h₅
        rw [run_frame hd₃] at h₅
        cases h₅
        obtain h₇ | ⟨_, w₅, h₇, h₈⟩ := bind_error h₆
        · exact mapper_of_error (Tensor.clearParents_spec _) h₇ hm₃
        -- the tensors' parents are cleared; taking the reference and filling the slot go
        -- through
        obtain ⟨hkeep, -⟩ := Tensor.clearParents_ok h₇
        have hm₅ := hkeep m _ hm₃ (by simp) (.inl (by simp))
        have hd₅ := hkeep dst _ hd₃ (by simp) (.inl (by simp))
        obtain ⟨n, hn, -⟩ := World.exists_node_of_bodyAt hd₅
        have hm₆ := (World.bodyAt_setStrong hn (n.strong + 1) m).trans hm₅
        simp [EStateM.run_bind, run_retain hn, run_cacheOf hm₆, run_setCache] at h₈

theorem evict_answers {b : Bool} (hm : w.bodyAt m = some (.mapper (.cache c)))
    (hrun : (evict m h).run w = .ok b w') : b = c.evicts h := by
  obtain ⟨_, w₁, h₁, h₂⟩ := bind_ok hrun
  rw [run_cacheOf hm] at h₁
  cases h₁
  obtain ⟨_, w₂, h₃, h₄⟩ := bind_ok h₂
  obtain ⟨_, w₃, h₅, h₆⟩ := bind_ok h₄
  obtain ⟨_, w₄, h₇, h₈⟩ := bind_ok h₆
  simp only [EStateM.run_pure, EStateM.Result.ok.injEq] at h₈
  obtain ⟨rfl, -⟩ := h₈
  -- what goes is every slot of `h`, filled or empty
  have hgone (slots : List Slot) :
      (!(slots.partition (·.handle == h)).1.isEmpty) = slots.any (·.handle == h) := by
    cases hany : slots.any (·.handle == h) <;> simp_all [List.partition_eq_filter_filter]
  exact congrArg₂ (· || ·) (hgone c.tensors) (hgone c.frames)

end Mapper

/-! ## A failed call and eviction -/

namespace Mapper

/-- A failed call through a cache leaves it answering as before, but for eviction. Take a world
whose mappers are nested, in which `m` is a cache in state `c`. A tensor or frame call through
`m` that fails leaves the cache as it was, or with the slot of the request's handle and mode
made and empty: the hit and miss counts are those of `c`. Making such a slot changes neither the
number of filled slots nor any lookup. Evicting a handle, though, answers whether the cache has
a slot of it, filled or not, and once the slot of `h` is made, evicting `h` answers that
something is dropped. -/
theorem failed_call_leaves_empty_slot (w : World) (m : Ref) (c : Cache)
    (hnest : w.MappersNested) (hm : w.bodyAt m = some (.mapper (.cache c))) :
    (∀ src mode e w', (mapTensor m src mode).run w = .error e w' →
      w'.bodyAt m = some (.mapper (.cache c)) ∨
        ∃ h, w'.bodyAt m = some (.mapper (.cache { c with tensors := (slotFor c.tensors h mode).2 }))) ∧
    (∀ src mode e w', (mapFrame m src mode).run w = .error e w' →
      w'.bodyAt m = some (.mapper (.cache c)) ∨
        ∃ h, w'.bodyAt m = some (.mapper (.cache { c with frames := (slotFor c.frames h mode).2 }))) ∧
    (∀ h mode, ({ c with tensors := (slotFor c.tensors h mode).2 } : Cache).filled = c.filled ∧
      ({ c with frames := (slotFor c.frames h mode).2 } : Cache).filled = c.filled) ∧
    (∀ h mode h' mode', lookup (slotFor c.tensors h mode).2 h' mode' = lookup c.tensors h' mode' ∧
      lookup (slotFor c.frames h mode).2 h' mode' = lookup c.frames h' mode') ∧
    (∀ h mode h',
      ({ c with tensors := (slotFor c.tensors h mode).2 } : Cache).evicts h' = (c.evicts h' || h == h') ∧
      ({ c with frames := (slotFor c.frames h mode).2 } : Cache).evicts h' = (c.evicts h' || h == h')) ∧
    (∀ h b w', (evict m h).run w = .ok b w' → b = c.evicts h) := by
  refine ⟨fun src mode e w' hrun => ?tensorFailed, fun src mode e w' hrun => ?frameFailed,
    fun h mode => ⟨?tensorFilled, ?frameFilled⟩, fun h mode h' mode' => ⟨lookup_slotFor, lookup_slotFor⟩,
    fun h mode h' => ⟨?tensorEvicts, ?frameEvicts⟩, fun h b w' hrun => evict_answers hm hrun⟩
  case tensorFailed =>
    rw [run_mapTensor] at hrun
    exact tensorWith_cache_error _ hnest hm hrun
  case frameFailed =>
    rw [run_mapFrame] at hrun
    exact frameWith_cache_error _ hnest hm hrun
  case tensorFilled => simp only [Cache.filled, length_filter_slotFor]
  case frameFilled => simp only [Cache.filled, length_filter_slotFor]
  case tensorEvicts => simp only [Cache.evicts, any_handle_slotFor, Bool.or_right_comm]
  case frameEvicts => simp only [Cache.evicts, any_handle_slotFor, Bool.or_assoc]

/-- An empty strict cache (4) over the direct mapper (2) from a CPU context (0) to an OpenVINO
context (1), and a DMA tensor (3) whose descriptor is 17. -/
def emptyStrictCache : Cache where
  inner := 2
  policy := .strict
  name := "cache(cpu_to_openvino)"

def failingWorld : World where
  nodes := #[⟨1, .context ⟨0, none, .plain .cpu, []⟩⟩,
    ⟨1, .context ⟨1, none, .plain .openVino, []⟩⟩, ⟨1, .mapper (.direct .cpuToOpenVino 0 1 none)⟩,
    ⟨1, .tensor dmaSource⟩, ⟨1, .mapper (.cache emptyStrictCache)⟩]

def slotMadeCache : Cache := { emptyStrictCache with tensors := [⟨.num 17, .read, none⟩] }

/-- Mapping the DMA tensor through the cache fails, and leaves the cache as it was or with a slot
made. -/
theorem failed_dma_call_leaves_slot :
    failingWorld.MappersNested ∧ failingWorld.bodyAt 4 = some (.mapper (.cache emptyStrictCache)) ∧
      ∀ e w', (mapTensor 4 3 .read).run failingWorld = .error e w' →
        w'.bodyAt 4 = some (.mapper (.cache emptyStrictCache)) ∨
          ∃ h, w'.bodyAt 4 = some (.mapper (.cache { emptyStrictCache with
            tensors := (slotFor emptyStrictCache.tensors h .read).2 })) := by
  have hnest : failingWorld.MappersNested := by
    rintro (_ | _ | _ | _ | _ | r) k hk <;> simp [failingWorld, World.bodyAt] at hk <;> subst hk <;>
      simp [Mapper.children, emptyStrictCache]
  exact ⟨hnest, rfl, (failed_call_leaves_empty_slot failingWorld 4 emptyStrictCache hnest rfl).1 3 .read⟩

/-- The direct mapper refuses the DMA tensor, its input being a CPU context, so mapping it through
the cache fails; the slot the cache made for descriptor 17 stays, empty, and nothing is cached.
Evicting 17 answers that nothing was dropped before the failed call, and that something was
after it. -/
theorem evict_after_failed_call_answers_dropped :
    (∃ w', (evict 4 (.num 17)).run failingWorld = .ok false w') ∧
      (mapTensor 4 3 .read).run failingWorld =
        .error (.typeMismatch .cpu .dma) (failingWorld.setBody 4 (.mapper (.cache slotMadeCache))) ∧
      slotMadeCache.filled = 0 ∧
      ∃ w', (evict 4 (.num 17)).run (failingWorld.setBody 4 (.mapper (.cache slotMadeCache))) =
        .ok true w' := by
  have hm : failingWorld.bodyAt 4 = some (.mapper (.cache emptyStrictCache)) := rfl
  have hsrc : failingWorld.bodyAt 3 = some (.tensor dmaSource) := rfl
  -- a miss: the inner mapper runs, from the world with the slot made, and refuses the source
  have hinner : (tensorWith 5 2 3 .read).run (failingWorld.setBody 4 (.mapper (.cache slotMadeCache))) =
      .error (.typeMismatch .cpu .dma) (failingWorld.setBody 4 (.mapper (.cache slotMadeCache))) := by
    have hi : (failingWorld.setBody 4 (.mapper (.cache slotMadeCache))).bodyAt 0 =
        some (.context ⟨0, none, .plain .cpu, []⟩) := rfl
    have hs : (failingWorld.setBody 4 (.mapper (.cache slotMadeCache))).bodyAt 3 =
        some (.tensor dmaSource) := rfl
    rw [tensorWith_direct 4 rfl]
    exact routeTensor_mismatch hi hs (by decide)
  have hfail : (mapTensor 4 3 .read).run failingWorld =
      .error (.typeMismatch .cpu .dma) (failingWorld.setBody 4 (.mapper (.cache slotMadeCache))) := by
    show (tensorWith (5 + 1) 4 3 .read).run failingWorld = _
    rw [tensorWith_cache_miss 5 hm hsrc rfl rfl]
    exact run_bind_of_error hinner
  exact ⟨⟨_, rfl⟩, hfail, rfl, ⟨_, rfl⟩⟩

end Mapper

end MemBridge
