import MemBridge.Proofs.Mapper.Nesting
import MemBridge.Proofs.Mapper.Slots

/-!
A cache is a memo table. A request for a handle and mode is answered from its slot when the slot
holds a destination (a hit, where the inner mapper never runs), and otherwise from the mapper it
fronts, whose answer fills the slot (a miss). Under the strict policy, a hit on a destination
held elsewhere is refused and the world left as it was. Evicting forgets a handle in every mode.
-/

namespace MemBridge

open Std.Do Act Mapper

set_option mvcgen.warning false

/-! ## Runs of the steps a cache takes -/

namespace Act

variable {w w' : World} {r : Ref}

theorem node_run_ok {n : Node} (hr : (node r).run w = .ok n w') :
    w.nodes[r]? = some n ∧ w' = w := by
  simp only [node] at hr
  cases hn : w.nodes[r]? <;> simp_all

theorem tensor_run_ok {t : Tensor} (hr : (tensor r).run w = .ok t w') :
    w.bodyAt r = some (.tensor t) ∧ w' = w := by
  simp only [tensor, body, node] at hr
  cases hn : w.nodes[r]? with
  | none => simp [hn] at hr
  | some n => cases hb : n.body <;> simp_all [World.bodyAt]

theorem frame_run_ok {f : Frame} (hr : (frame r).run w = .ok f w') :
    w.bodyAt r = some (.frame f) ∧ w' = w := by
  simp only [frame, body, node] at hr
  cases hn : w.nodes[r]? with
  | none => simp [hn] at hr
  | some n => cases hb : n.body <;> simp_all [World.bodyAt]

theorem run_kindOf {x : Context} (hx : w.bodyAt r = some (.context x)) :
    (Context.kindOf r).run w = .ok x.backend.kind w := by
  simp [Context.kindOf, run_context hx]

theorem run_handleOf {t : Tensor} {key : String} {h : Handle} (ht : w.bodyAt r = some (.tensor t))
    (hh : t.handle key = .ok h) : (Tensor.handleOf r key).run w = .ok h w := by
  simp [Tensor.handleOf, run_tensor ht, hh, lift]

theorem run_tensorAt {f : Frame} {i : Nat} {t : Ref} (hf : w.bodyAt r = some (.frame f))
    (ht : f.tensors[i]? = some t) : (Frame.tensorAt r i).run w = .ok t w := by
  simp [Frame.tensorAt, run_frame hf, Frame.select, ht, lift]

end Act

namespace World.KeepsObjects

variable {w w' : World} {r r' : Nat} {x y : Body}

theorem bodyAt_of_setBody (hk : (w.setBody r y).KeepsObjects w') (hx : w.bodyAt r' = some x)
    (hr : r' ≠ r) (hv : x.variant ≠ .device) : w'.bodyAt r' = some x :=
  hk r' x (by rw [World.bodyAt_setBody, if_neg fun e => hr e.1]; exact hx) hv

theorem bodyAt_setBody_self (hk : (w.setBody r y).KeepsObjects w') (hr : r < w.nodes.size)
    (hv : y.variant ≠ .device) : w'.bodyAt r = some y :=
  hk r y (by simp [World.bodyAt_setBody, hr]) hv

end World.KeepsObjects

theorem World.ne_of_bodyAt {w : World} {r r' : Nat} {x y : Body} (hx : w.bodyAt r = some x)
    (hy : w.bodyAt r' = some y) (hv : x.variant ≠ y.variant) : r ≠ r' := by
  rintro rfl
  simp_all

namespace Tensor

variable {w w' : World} {r : Ref}

theorem run_clearParent_of_none {t : Tensor} (ht : w.bodyAt r = some (.tensor t))
    (hp : t.parent = none) : (clearParent r).run w = .ok () w := by
  have ht' : { t with parent := none } = t := by cases t; simp_all
  simp [clearParent, setParent, run_tensor ht, run_modifyTensor ht, ht', World.setBody_self ht,
    hp]

theorem clearParent_ok (hrun : (clearParent r).run w = .ok () w') :
    ∃ t, w.bodyAt r = some (.tensor t) ∧
      (w.setBody r (.tensor { t with parent := none })).KeepsObjects w' := by
  simp only [clearParent, setParent, EStateM.run_bind] at hrun
  split at hrun
  · next t w₁ heq =>
    obtain ⟨ht, rfl⟩ := tensor_run_ok heq
    refine ⟨t, ht, ?_⟩
    rw [run_modifyTensor ht] at hrun
    cases hp : t.parent with
    | none => simp_all [World.KeepsObjects.refl]
    | some p =>
      have hk := release_run_keeps p (w₁.setBody r (.tensor { t with parent := none }))
      simp_all
  · simp at hrun

theorem clearParents_ok {ts : List Ref} {u : PUnit}
    (hrun : (forIn ts PUnit.unit fun t _ => do
      clearParent t
      pure (ForInStep.yield PUnit.unit) : Act PUnit).run w = .ok u w') :
    (∀ r x, w.bodyAt r = some x → x.variant ≠ .device → (x.variant ≠ .tensor ∨ r ∉ ts) →
      w'.bodyAt r = some x) ∧
    ∀ r ∈ ts, ∃ t, w'.bodyAt r = some (.tensor t) ∧ t.parent = none := by
  induction ts generalizing w with
  | nil =>
    simp only [List.forIn_nil, EStateM.run_pure, EStateM.Result.ok.injEq] at hrun
    obtain ⟨-, rfl⟩ := hrun
    exact ⟨fun _ _ hx _ _ => hx, by simp⟩
  | cons r rest ih =>
    rw [List.forIn_cons] at hrun
    obtain ⟨step, w₁, h₁, h₂⟩ := bind_ok hrun
    obtain ⟨_, w₂, h₃, h₄⟩ := bind_ok h₁
    cases h₄
    obtain ⟨t, ht, hk⟩ := clearParent_ok h₃
    obtain ⟨hkeep, horph⟩ := ih h₂
    have hr : r < w.nodes.size := World.lt_size_of_bodyAt ht
    refine ⟨fun r' x hx hv hcase => ?_, fun r' hr' => ?_⟩
    · -- an object kept by the first step: the tensor cleared first is no such object
      have hne : r' ≠ r := by
        rintro rfl
        obtain rfl : x = .tensor t := Option.some.inj (hx.symm.trans ht)
        rcases hcase with hcase | hcase
        · exact hcase rfl
        · exact hcase (by simp)
      refine hkeep r' x (hk.bodyAt_of_setBody hx hne hv) hv ?_
      rcases hcase with hcase | hcase
      · exact .inl hcase
      · exact .inr fun h => hcase (List.mem_cons_of_mem r h)
    · by_cases hin : r' ∈ rest
      · exact horph r' hin
      · -- the first tensor, cleared by the first step and kept by the others
        have e : r' = r := by simpa [hin] using hr'
        subst e
        refine ⟨{ t with parent := none }, ?_, rfl⟩
        exact hkeep r' _ (hk.bodyAt_setBody_self hr (by simp)) (by simp) (.inr hin)

end Tensor

namespace Frame

variable {w w' : World} {r : Ref}

theorem run_clearParent_of_none {f : Frame} (hf : w.bodyAt r = some (.frame f))
    (hp : f.parent = none) : (clearParent r).run w = .ok () w := by
  have hf' : { f with parent := none } = f := by cases f; simp_all
  simp [clearParent, setParent, run_frame hf, run_modifyFrame hf, hf', World.setBody_self hf, hp]

theorem clearParent_ok (hrun : (clearParent r).run w = .ok () w') :
    ∃ f, w.bodyAt r = some (.frame f) ∧
      (w.setBody r (.frame { f with parent := none })).KeepsObjects w' := by
  simp only [clearParent, setParent, EStateM.run_bind] at hrun
  split at hrun
  · next f w₁ heq =>
    obtain ⟨hf, rfl⟩ := frame_run_ok heq
    refine ⟨f, hf, ?_⟩
    rw [run_modifyFrame hf] at hrun
    cases hp : f.parent with
    | none => simp_all [World.KeepsObjects.refl]
    | some p =>
      have hk := release_run_keeps p (w₁.setBody r (.frame { f with parent := none }))
      simp_all
  · simp at hrun

theorem run_clearRegions {f : Frame} (hf : w.bodyAt r = some (.frame f)) :
    (clearRegions r).run w = .ok () (w.setBody r (.frame { f with regions := [] })) :=
  run_modifyFrame hf _

theorem dropDictionaries_keeps {w₀ : World} (ds : List Dictionary) :
    ⦃fun w => ⌜w₀.KeepsObjects w⌝⦄ (for d in ds do dropDictionary d : Act PUnit)
    ⦃World.Kept w₀⦄ := by
  unfold dropDictionary
  mvcgen [releaseAll_keeps]
  case inv1 => exact post⟨fun _ w => ⌜w₀.KeepsObjects w⌝, fun _ w => ⌜w₀.KeepsObjects w⌝⟩
  all_goals grind

theorem run_clearMetadata_of_nil {f : Frame} (hf : w.bodyAt r = some (.frame f))
    (hd : f.metadata = []) : (clearMetadata r).run w = .ok () w := by
  have hf' : { f with metadata := [] } = f := by cases f; simp_all
  simp [clearMetadata, run_frame hf, run_modifyFrame hf, hf', World.setBody_self hf, hd]

theorem clearMetadata_ok (hrun : (clearMetadata r).run w = .ok () w') :
    ∃ f, w.bodyAt r = some (.frame f) ∧
      (w.setBody r (.frame { f with metadata := [] })).KeepsObjects w' := by
  obtain ⟨f, w₁, h₁, h₂⟩ := bind_ok hrun
  obtain ⟨hf, rfl⟩ := frame_run_ok h₁
  obtain ⟨_, w₂, h₃, h₄⟩ := bind_ok h₂
  rw [run_modifyFrame hf] at h₃
  cases h₃
  refine ⟨f, hf, ?_⟩
  have hk := of_triple
    (@dropDictionaries_keeps (w₁.setBody r (.frame { f with metadata := [] })) f.metadata)
    (World.KeepsObjects.refl _)
  rw [h₄] at hk
  exact hk

end Frame

namespace Mapper

variable {w w' : World} {m src v o r : Ref} {c c' : Cache} {h : Handle} {mode : AccessMode}

theorem run_cacheOf (hm : w.bodyAt m = some (.mapper (.cache c))) :
    (cacheOf m).run w = .ok c w := by
  simp [cacheOf, run_mapper hm]

theorem run_setCache (c : Cache) :
    (setCache m c).run w = .ok () (w.setBody m (.mapper (.cache c))) := rfl

theorem run_checkReissue_refused {x : Context} (hpol : c.policy = .strict)
    (hout : 1 < w.strongAt v) (ho : (output c.inner).run w = .ok o w)
    (hx : w.bodyAt o = some (.context x)) :
    (checkReissue c v h).run w =
      .error (.poolContract x.backend.kind h.hexPieces (w.strongAt v - 1)) w := by
  have hvs : v < w.nodes.size := World.lt_size_of_strongAt_pos (by omega)
  have hif : (decide (w.strongAt v - 1 ≠ 0) && decide (c.policy = .strict)) = true := by
    simp [hpol]; omega
  simp only [checkReissue, EStateM.run_bind, run_strongCount hvs, hif, if_true, ho, run_kindOf hx]
  rfl

theorem run_checkReissue_passed (hv : v < w.nodes.size)
    (hpass : c.policy = .strict → w.strongAt v ≤ 1) :
    (checkReissue c v h).run w = .ok () w := by
  have hif : (decide (w.strongAt v - 1 ≠ 0) && decide (c.policy = .strict)) = false := by
    by_cases hpol : c.policy = .strict
    · have := hpass hpol; simp [hpol]; omega
    · simp [hpol]
  simp only [checkReissue, EStateM.run_bind, run_strongCount hv, hif]
  rfl

theorem checkReissue_run_ok {u : Unit} (hr : (checkReissue c v h).run w = .ok u w') : w' = w := by
  obtain ⟨k, w₁, h₁, h₂⟩ := bind_ok hr
  obtain ⟨n, w₀, h₀, h₀'⟩ := bind_ok h₁
  obtain ⟨-, rfl⟩ := node_run_ok h₀
  cases h₀'
  dsimp only at h₂
  split at h₂
  · obtain ⟨o, w₂, _, h₃⟩ := bind_ok h₂
    obtain ⟨k, w₃, _, h₄⟩ := bind_ok h₃
    simp at h₄
  · simp at h₂
    exact h₂.symm

theorem run_reissueTensor_refused {x : Context} (hpol : c.policy = .strict)
    (hout : 1 < w.strongAt v) (ho : (output c.inner).run w = .ok o w)
    (hx : w.bodyAt o = some (.context x)) :
    (reissueTensor m c v h).run w =
      .error (.poolContract x.backend.kind h.hexPieces (w.strongAt v - 1)) w := by
  simp [reissueTensor, run_checkReissue_refused hpol hout ho hx]

theorem reissueTensor_ok (hm : w.bodyAt m = some (.mapper (.cache c)))
    (hrun : (reissueTensor m c' v h).run w = .ok r w') :
    r = v ∧ w'.bodyAt m = some (.mapper (.cache { c with hits := c.hits + 1 })) ∧
      ∃ t, w'.bodyAt v = some (.tensor t) ∧ t.parent = none := by
  obtain ⟨_, w₁, h₁, h₂⟩ := bind_ok hrun
  obtain rfl := checkReissue_run_ok h₁
  obtain ⟨_, w₂, h₃, h₄⟩ := bind_ok h₂
  obtain ⟨t, ht, hk⟩ := Tensor.clearParent_ok h₃
  have hmv : m ≠ v := World.ne_of_bodyAt hm ht (by simp)
  -- clearing the parent kept the cache and left the destination without a parent
  have hm₂ := hk.bodyAt_of_setBody hm hmv (by simp)
  have hv₂ := hk.bodyAt_setBody_self (World.lt_size_of_bodyAt ht) (by simp)
  obtain ⟨_, w₃, h₅, h₆⟩ := bind_ok h₄
  rw [run_cacheOf hm₂] at h₅
  cases h₅
  obtain ⟨_, w₄, h₇, h₈⟩ := bind_ok h₆
  rw [run_setCache] at h₇
  cases h₇
  obtain ⟨_, w₅, h₉, h₁₀⟩ := bind_ok h₈
  obtain ⟨n, hn, -⟩ := World.exists_node_of_bodyAt hv₂
  rw [run_retain (by rwa [World.getElem?_setBody_of_ne _ hmv.symm])] at h₉
  cases h₉
  simp only [EStateM.run_pure, EStateM.Result.ok.injEq] at h₁₀
  obtain ⟨rfl, rfl⟩ := h₁₀
  have hsize : m < w₂.nodes.size := World.lt_size_of_bodyAt hm₂
  refine ⟨rfl, ?_, { t with parent := none }, ?_, rfl⟩
  · rw [World.bodyAt_setStrong (by rwa [World.getElem?_setBody_of_ne _ hmv.symm]),
      World.bodyAt_setBody]
    simp [hsize]
  · rw [World.bodyAt_setStrong (by rwa [World.getElem?_setBody_of_ne _ hmv.symm]),
      World.bodyAt_setBody, if_neg fun e => hmv e.1.symm]
    exact hv₂

theorem tensorWith_cache_hit (fuel : Nat) {t : Tensor}
    (hm : w.bodyAt m = some (.mapper (.cache c))) (hsrc : w.bodyAt src = some (.tensor t))
    (hh : t.handle "" = .ok h) (hv : lookup c.tensors h mode = some v) :
    (tensorWith (fuel + 1) m src mode).run w = (reissueTensor m c v h).run w := by
  obtain ⟨s, hs, hsv⟩ := slotFor_of_lookup hv
  simp only [tensorWith, EStateM.run_bind, run_mapper hm, run_handleOf hsrc hh, hs,
    run_setCache, World.setBody_self hm, hsv]

theorem tensorWith_cache_miss (fuel : Nat) {t : Tensor}
    (hm : w.bodyAt m = some (.mapper (.cache c))) (hsrc : w.bodyAt src = some (.tensor t))
    (hh : t.handle "" = .ok h) (hv : lookup c.tensors h mode = none) :
    (tensorWith (fuel + 1) m src mode).run w =
      (do
        let dst ← tensorWith fuel c.inner src mode
        Tensor.clearParent dst
        retain dst
        let c ← cacheOf m
        setCache m { c with tensors := fillSlot c.tensors h mode dst, misses := c.misses + 1 }
        return dst : Act Ref).run
        (w.setBody m (.mapper (.cache { c with tensors := (slotFor c.tensors h mode).2 }))) := by
  have hsv : (slotFor c.tensors h mode).1.value = none := by rw [slotFor_value, hv]
  simp only [tensorWith, EStateM.run_bind, run_mapper hm, run_handleOf hsrc hh, run_setCache, hsv]

theorem cache_kept_by_inner {run : Ref → Ref → AccessMode → Act Ref} {c₁ : Cache} {dst : Ref}
    {w₂ : World}
    (hext : ∀ l src mode (w₀ : World), ⦃fun w => ⌜w₀.Extends (l + 1) w ∧ w.MappersNested⌝⦄
      run l src mode ⦃post⟨fun _ w => ⌜w₀.Extends (l + 1) w⌝, fun _ w => ⌜w₀.Extends (l + 1) w⌝⟩⦄)
    (hnest : w.MappersNested) (hm : w.bodyAt m = some (.mapper (.cache c)))
    (hs : (Mapper.cache c₁).skeleton = (Mapper.cache c).skeleton)
    (hrun : (run c.inner src mode).run (w.setBody m (.mapper (.cache c₁))) = .ok dst w₂) :
    w₂.bodyAt m = some (.mapper (.cache c₁)) := by
  have hsetup : w.Extends (m + 1) (w.setBody m (.mapper (.cache c₁))) := .setMapper hm hs
  have hinner : c.inner < m := hnest.inner_lt hm
  have hk := of_triple (hext c.inner src mode (w.setBody m (.mapper (.cache c₁))))
    ⟨.refl _ _, hsetup.nested hnest⟩
  rw [hrun] at hk
  exact hk.mapper_at (by simp [World.bodyAt_setBody, World.lt_size_of_bodyAt hm]) hinner

section Tensors

variable {fuel : Nat} {t : Tensor}

theorem tensorWith_hit_refused {x : Context}
    (hm : w.bodyAt m = some (.mapper (.cache c))) (hsrc : w.bodyAt src = some (.tensor t))
    (hh : t.handle "" = .ok h) (hv : lookup c.tensors h mode = some v)
    (hpol : c.policy = .strict) (hout : 1 < w.strongAt v)
    (ho : (output c.inner).run w = .ok o w) (hx : w.bodyAt o = some (.context x)) :
    (tensorWith (fuel + 1) m src mode).run w =
      .error (.poolContract x.backend.kind h.hexPieces (w.strongAt v - 1)) w := by
  rw [tensorWith_cache_hit fuel hm hsrc hh hv, run_reissueTensor_refused hpol hout ho hx]

theorem tensorWith_hit_ok
    (hm : w.bodyAt m = some (.mapper (.cache c))) (hsrc : w.bodyAt src = some (.tensor t))
    (hh : t.handle "" = .ok h) (hv : lookup c.tensors h mode = some v)
    (hrun : (tensorWith (fuel + 1) m src mode).run w = .ok r w') :
    r = v ∧ w'.bodyAt m = some (.mapper (.cache { c with hits := c.hits + 1 })) ∧
      ∃ t, w'.bodyAt v = some (.tensor t) ∧ t.parent = none := by
  rw [tensorWith_cache_hit fuel hm hsrc hh hv] at hrun
  exact reissueTensor_ok hm hrun

theorem tensorWith_hit_reissued {k : Nat} {tv : Tensor}
    (hm : w.bodyAt m = some (.mapper (.cache c))) (hsrc : w.bodyAt src = some (.tensor t))
    (hh : t.handle "" = .ok h) (hv : lookup c.tensors h mode = some v)
    (hn : w.nodes[v]? = some ⟨k, .tensor tv⟩) (hp : tv.parent = none)
    (hpass : c.policy = .strict → w.strongAt v ≤ 1) :
    (tensorWith (fuel + 1) m src mode).run w =
      .ok v ((w.setBody m (.mapper (.cache { c with hits := c.hits + 1 }))).setStrong v
        ⟨k, .tensor tv⟩ (k + 1)) := by
  have htv : w.bodyAt v = some (.tensor tv) := World.bodyAt_of_getElem? hn
  have hmv : m ≠ v := World.ne_of_bodyAt hm htv (by simp)
  have hn' : (w.setBody m (.mapper (.cache { c with hits := c.hits + 1 }))).nodes[v]? =
      some ⟨k, .tensor tv⟩ := by
    rwa [World.getElem?_setBody_of_ne _ hmv.symm]
  rw [tensorWith_cache_hit fuel hm hsrc hh hv]
  simp only [reissueTensor, EStateM.run_bind,
    run_checkReissue_passed (World.lt_size_of_bodyAt htv) hpass,
    Tensor.run_clearParent_of_none htv hp, run_cacheOf hm, run_setCache, run_retain hn',
    EStateM.run_pure]

theorem tensorWith_miss_ok (hnest : w.MappersNested)
    (hm : w.bodyAt m = some (.mapper (.cache c))) (hsrc : w.bodyAt src = some (.tensor t))
    (hh : t.handle "" = .ok h) (hv : lookup c.tensors h mode = none)
    (hrun : (tensorWith (fuel + 1) m src mode).run w = .ok r w') :
    (∃ w₂, (tensorWith fuel c.inner src mode).run
        (w.setBody m (.mapper (.cache { c with tensors := (slotFor c.tensors h mode).2 }))) =
        .ok r w₂) ∧
      w'.bodyAt m = some (.mapper (.cache { c with
        tensors := fillSlot (slotFor c.tensors h mode).2 h mode r, misses := c.misses + 1 })) ∧
      ∃ t, w'.bodyAt r = some (.tensor t) ∧ t.parent = none := by
  rw [tensorWith_cache_miss fuel hm hsrc hh hv] at hrun
  obtain ⟨dst, w₂, h₁, h₂⟩ := bind_ok hrun
  have hm₂ := cache_kept_by_inner (tensorWith_extends fuel) hnest hm (by simp) h₁
  obtain ⟨_, w₃, h₃, h₄⟩ := bind_ok h₂
  obtain ⟨t, ht, hk⟩ := Tensor.clearParent_ok h₃
  have hmd : m ≠ dst := World.ne_of_bodyAt hm₂ ht (by simp)
  -- clearing the parent kept the cache and left the destination without a parent
  have hm₃ := hk.bodyAt_of_setBody hm₂ hmd (by simp)
  have hd₃ := hk.bodyAt_setBody_self (World.lt_size_of_bodyAt ht) (by simp)
  obtain ⟨_, w₄, h₅, h₆⟩ := bind_ok h₄
  obtain ⟨n, hn, -⟩ := World.exists_node_of_bodyAt hd₃
  rw [run_retain hn] at h₅
  cases h₅
  obtain ⟨_, w₅, h₇, h₈⟩ := bind_ok h₆
  rw [run_cacheOf (by rw [World.bodyAt_setStrong hn]; exact hm₃)] at h₇
  cases h₇
  obtain ⟨_, w₆, h₉, h₁₀⟩ := bind_ok h₈
  rw [run_setCache] at h₉
  cases h₉
  simp only [EStateM.run_pure, EStateM.Result.ok.injEq] at h₁₀
  obtain ⟨rfl, rfl⟩ := h₁₀
  have hsize : m < w₃.nodes.size := World.lt_size_of_bodyAt hm₃
  refine ⟨⟨w₂, h₁⟩, by simp [World.bodyAt_setBody, hsize], { t with parent := none }, ?_, rfl⟩
  rw [World.bodyAt_setBody, if_neg fun e => hmd e.1.symm, World.bodyAt_setStrong hn]
  exact hd₃

end Tensors

theorem run_reissueFrame_refused {x : Context} (hpol : c.policy = .strict)
    (hout : 1 < w.strongAt v) (ho : (output c.inner).run w = .ok o w)
    (hx : w.bodyAt o = some (.context x)) :
    (reissueFrame m c v h).run w =
      .error (.poolContract x.backend.kind h.hexPieces (w.strongAt v - 1)) w := by
  simp [reissueFrame, run_checkReissue_refused hpol hout ho hx]

theorem reissueFrame_ok (hm : w.bodyAt m = some (.mapper (.cache c)))
    (hrun : (reissueFrame m c' v h).run w = .ok r w') :
    r = v ∧ w'.bodyAt m = some (.mapper (.cache { c with hits := c.hits + 1 })) ∧
      ∃ f, w'.bodyAt v = some (.frame f) ∧ f.metadata = [] ∧ f.regions = [] ∧
        f.parent = none := by
  obtain ⟨_, w₁, h₁, h₂⟩ := bind_ok hrun
  obtain rfl := checkReissue_run_ok h₁
  obtain ⟨_, w₂, h₃, h₄⟩ := bind_ok h₂
  obtain ⟨f, hf, hk₂⟩ := Frame.clearMetadata_ok h₃
  have hmv : m ≠ v := World.ne_of_bodyAt hm hf (by simp)
  have hsize : v < w₁.nodes.size := World.lt_size_of_bodyAt hf
  have hm₂ := hk₂.bodyAt_of_setBody hm hmv (by simp)
  have hf₂ := hk₂.bodyAt_setBody_self hsize (by simp)
  obtain ⟨_, w₃, h₅, h₆⟩ := bind_ok h₄
  rw [Frame.run_clearRegions hf₂] at h₅
  cases h₅
  obtain ⟨_, w₄, h₇, h₈⟩ := bind_ok h₆
  obtain ⟨f₃, hf₃, hk₄⟩ := Frame.clearParent_ok h₇
  -- the frame the parent is cleared from is the one without metadata and regions
  have e₃ : f₃ = { f with metadata := [], regions := [] } := by
    rw [World.bodyAt_setBody, if_pos ⟨rfl, World.lt_size_of_bodyAt hf₂⟩] at hf₃
    simpa using hf₃.symm
  subst e₃
  have hm₄ := hk₄.bodyAt_of_setBody (by rwa [World.bodyAt_setBody, if_neg fun e => hmv e.1])
    hmv (by simp)
  have hf₄ := hk₄.bodyAt_setBody_self (by simpa using World.lt_size_of_bodyAt hf₂) (by simp)
  obtain ⟨_, w₅, h₉, h₁₀⟩ := bind_ok h₈
  rw [run_cacheOf hm₄] at h₉
  cases h₉
  obtain ⟨_, w₆, h₁₁, h₁₂⟩ := bind_ok h₁₀
  rw [run_setCache] at h₁₁
  cases h₁₁
  obtain ⟨_, w₇, h₁₃, h₁₄⟩ := bind_ok h₁₂
  obtain ⟨n, hn, -⟩ := World.exists_node_of_bodyAt hf₄
  have hn' := (World.getElem?_setBody_of_ne
    (.mapper (.cache { c with hits := c.hits + 1 })) hmv.symm).trans hn
  rw [run_retain hn'] at h₁₃
  cases h₁₃
  simp only [EStateM.run_pure, EStateM.Result.ok.injEq] at h₁₄
  obtain ⟨rfl, rfl⟩ := h₁₄
  refine ⟨rfl, ?_, { f with metadata := [], regions := [], parent := none }, ?_, rfl, rfl, rfl⟩
  · rw [World.bodyAt_setStrong hn', World.bodyAt_setBody]
    simp [World.lt_size_of_bodyAt hm₄]
  · rw [World.bodyAt_setStrong hn', World.bodyAt_setBody, if_neg fun e => hmv e.1.symm]
    exact hf₄

theorem frameWith_cache_hit (fuel : Nat) {f : Frame} {t₀ : Ref} {t : Tensor}
    (hm : w.bodyAt m = some (.mapper (.cache c))) (hsrc : w.bodyAt src = some (.frame f))
    (ht₀ : f.tensors[0]? = some t₀) (ht : w.bodyAt t₀ = some (.tensor t))
    (hh : t.handle "" = .ok h) (hv : lookup c.frames h mode = some v) :
    (frameWith (fuel + 1) m src mode).run w = (reissueFrame m c v h).run w := by
  obtain ⟨s, hs, hsv⟩ := slotFor_of_lookup hv
  simp only [frameWith, EStateM.run_bind, run_mapper hm, run_tensorAt hsrc ht₀,
    run_handleOf ht hh, hs, run_setCache, World.setBody_self hm, hsv]

theorem frameWith_cache_miss (fuel : Nat) {f : Frame} {t₀ : Ref} {t : Tensor}
    (hm : w.bodyAt m = some (.mapper (.cache c))) (hsrc : w.bodyAt src = some (.frame f))
    (ht₀ : f.tensors[0]? = some t₀) (ht : w.bodyAt t₀ = some (.tensor t))
    (hh : t.handle "" = .ok h) (hv : lookup c.frames h mode = none) :
    (frameWith (fuel + 1) m src mode).run w =
      (do
        let dst ← frameWith fuel c.inner src mode
        Frame.clearParent dst
        for t in (← frame dst).tensors do
          Tensor.clearParent t
        retain dst
        let c ← cacheOf m
        setCache m { c with frames := fillSlot c.frames h mode dst, misses := c.misses + 1 }
        return dst : Act Ref).run
        (w.setBody m (.mapper (.cache { c with frames := (slotFor c.frames h mode).2 }))) := by
  have hsv : (slotFor c.frames h mode).1.value = none := by rw [slotFor_value, hv]
  simp only [frameWith, EStateM.run_bind, run_mapper hm, run_tensorAt hsrc ht₀,
    run_handleOf ht hh, run_setCache, hsv]

section Frames

variable {fuel : Nat} {f : Frame} {t₀ : Ref} {t : Tensor}

theorem frameWith_hit_refused {x : Context}
    (hm : w.bodyAt m = some (.mapper (.cache c))) (hsrc : w.bodyAt src = some (.frame f))
    (ht₀ : f.tensors[0]? = some t₀) (ht : w.bodyAt t₀ = some (.tensor t))
    (hh : t.handle "" = .ok h) (hv : lookup c.frames h mode = some v)
    (hpol : c.policy = .strict) (hout : 1 < w.strongAt v)
    (ho : (output c.inner).run w = .ok o w) (hx : w.bodyAt o = some (.context x)) :
    (frameWith (fuel + 1) m src mode).run w =
      .error (.poolContract x.backend.kind h.hexPieces (w.strongAt v - 1)) w := by
  rw [frameWith_cache_hit fuel hm hsrc ht₀ ht hh hv, run_reissueFrame_refused hpol hout ho hx]

theorem frameWith_hit_ok
    (hm : w.bodyAt m = some (.mapper (.cache c))) (hsrc : w.bodyAt src = some (.frame f))
    (ht₀ : f.tensors[0]? = some t₀) (ht : w.bodyAt t₀ = some (.tensor t))
    (hh : t.handle "" = .ok h) (hv : lookup c.frames h mode = some v)
    (hrun : (frameWith (fuel + 1) m src mode).run w = .ok r w') :
    r = v ∧ w'.bodyAt m = some (.mapper (.cache { c with hits := c.hits + 1 })) ∧
      ∃ f, w'.bodyAt v = some (.frame f) ∧ f.metadata = [] ∧ f.regions = [] ∧
        f.parent = none := by
  rw [frameWith_cache_hit fuel hm hsrc ht₀ ht hh hv] at hrun
  exact reissueFrame_ok hm hrun

theorem frameWith_hit_reissued {k : Nat} {fv : Frame}
    (hm : w.bodyAt m = some (.mapper (.cache c))) (hsrc : w.bodyAt src = some (.frame f))
    (ht₀ : f.tensors[0]? = some t₀) (ht : w.bodyAt t₀ = some (.tensor t))
    (hh : t.handle "" = .ok h) (hv : lookup c.frames h mode = some v)
    (hn : w.nodes[v]? = some ⟨k, .frame fv⟩) (hd : fv.metadata = []) (hr : fv.regions = [])
    (hp : fv.parent = none) (hpass : c.policy = .strict → w.strongAt v ≤ 1) :
    (frameWith (fuel + 1) m src mode).run w =
      .ok v ((w.setBody m (.mapper (.cache { c with hits := c.hits + 1 }))).setStrong v
        ⟨k, .frame fv⟩ (k + 1)) := by
  have hfv : w.bodyAt v = some (.frame fv) := World.bodyAt_of_getElem? hn
  have hmv : m ≠ v := World.ne_of_bodyAt hm hfv (by simp)
  have hn' : (w.setBody m (.mapper (.cache { c with hits := c.hits + 1 }))).nodes[v]? =
      some ⟨k, .frame fv⟩ := by
    rwa [World.getElem?_setBody_of_ne _ hmv.symm]
  have hregions : { fv with regions := [] } = fv := by cases fv; simp_all
  rw [frameWith_cache_hit fuel hm hsrc ht₀ ht hh hv]
  simp only [reissueFrame, EStateM.run_bind,
    run_checkReissue_passed (World.lt_size_of_bodyAt hfv) hpass,
    Frame.run_clearMetadata_of_nil hfv hd, Frame.run_clearRegions hfv, hregions,
    World.setBody_self hfv, Frame.run_clearParent_of_none hfv hp, run_cacheOf hm, run_setCache,
    run_retain hn', EStateM.run_pure]

theorem frameWith_miss_ok (hnest : w.MappersNested)
    (hm : w.bodyAt m = some (.mapper (.cache c))) (hsrc : w.bodyAt src = some (.frame f))
    (ht₀ : f.tensors[0]? = some t₀) (ht : w.bodyAt t₀ = some (.tensor t))
    (hh : t.handle "" = .ok h) (hv : lookup c.frames h mode = none)
    (hrun : (frameWith (fuel + 1) m src mode).run w = .ok r w') :
    (∃ w₂, (frameWith fuel c.inner src mode).run
        (w.setBody m (.mapper (.cache { c with frames := (slotFor c.frames h mode).2 }))) =
        .ok r w₂) ∧
      w'.bodyAt m = some (.mapper (.cache { c with
        frames := fillSlot (slotFor c.frames h mode).2 h mode r, misses := c.misses + 1 })) ∧
      ∃ fr, w'.bodyAt r = some (.frame fr) ∧ fr.parent = none ∧
        ∀ t ∈ fr.tensors, ∃ x, w'.bodyAt t = some (.tensor x) ∧ x.parent = none := by
  rw [frameWith_cache_miss fuel hm hsrc ht₀ ht hh hv] at hrun
  obtain ⟨dst, w₂, h₁, h₂⟩ := bind_ok hrun
  have hm₂ := cache_kept_by_inner (frameWith_extends fuel) hnest hm (by simp) h₁
  obtain ⟨_, w₃, h₃, h₄⟩ := bind_ok h₂
  obtain ⟨fd, hfd, hk⟩ := Frame.clearParent_ok h₃
  have hmd : m ≠ dst := World.ne_of_bodyAt hm₂ hfd (by simp)
  have hm₃ := hk.bodyAt_of_setBody hm₂ hmd (by simp)
  have hd₃ := hk.bodyAt_setBody_self (World.lt_size_of_bodyAt hfd) (by simp)
  obtain ⟨fd', w₄, h₅, h₆⟩ := bind_ok h₄
  rw [run_frame hd₃] at h₅
  cases h₅
  obtain ⟨_, w₅, h₇, h₈⟩ := bind_ok h₆
  -- the loop keeps the cache and the frame, and leaves each tensor of the frame parentless
  obtain ⟨hkeep, horph⟩ := Tensor.clearParents_ok h₇
  have hm₅ := hkeep m _ hm₃ (by simp) (.inl (by simp))
  have hd₅ := hkeep dst _ hd₃ (by simp) (.inl (by simp))
  obtain ⟨_, w₆, h₉, h₁₀⟩ := bind_ok h₈
  obtain ⟨n, hn, -⟩ := World.exists_node_of_bodyAt hd₅
  rw [run_retain hn] at h₉
  cases h₉
  obtain ⟨_, w₇, h₁₁, h₁₂⟩ := bind_ok h₁₀
  rw [run_cacheOf (by rw [World.bodyAt_setStrong hn]; exact hm₅)] at h₁₁
  cases h₁₁
  obtain ⟨_, w₈, h₁₃, h₁₄⟩ := bind_ok h₁₂
  rw [run_setCache] at h₁₃
  cases h₁₃
  simp only [EStateM.run_pure, EStateM.Result.ok.injEq] at h₁₄
  obtain ⟨rfl, rfl⟩ := h₁₄
  have hsize : m < w₅.nodes.size := World.lt_size_of_bodyAt hm₅
  refine ⟨⟨w₂, h₁⟩, by simp [World.bodyAt_setBody, hsize],
    { fd with parent := none }, ?_, rfl, fun t' ht' => ?_⟩
  · rw [World.bodyAt_setBody, if_neg fun e => hmd e.1.symm, World.bodyAt_setStrong hn]
    exact hd₅
  · obtain ⟨x, hx, hxp⟩ := horph t' ht'
    have hmt : m ≠ t' := World.ne_of_bodyAt hm₅ hx (by simp)
    refine ⟨x, ?_, hxp⟩
    rw [World.bodyAt_setBody, if_neg fun e => hmt e.1.symm, World.bodyAt_setStrong hn]
    exact hx

end Frames

theorem releaseAll_ok_keeps_cache {rs : List Ref} {u : Unit} {c₁ : Cache}
    (hm : w.bodyAt m = some (.mapper (.cache c₁))) (hrun : (releaseAll rs).run w = .ok u w') :
    w'.bodyAt m = some (.mapper (.cache c₁)) := by
  have hk := releaseAll_run_keeps rs w
  rw [hrun] at hk
  exact hk m _ hm (by simp)

theorem evict_ok {b : Bool} (hm : w.bodyAt m = some (.mapper (.cache c)))
    (hrun : (evict m h).run w = .ok b w') :
    w'.bodyAt m = some (.mapper (.cache { c with
      tensors := (c.tensors.partition (·.handle == h)).2,
      frames := (c.frames.partition (·.handle == h)).2 })) := by
  obtain ⟨_, w₁, h₁, h₂⟩ := bind_ok hrun
  rw [run_cacheOf hm] at h₁
  cases h₁
  obtain ⟨_, w₂, h₃, h₄⟩ := bind_ok h₂
  rw [run_setCache] at h₃
  cases h₃
  obtain ⟨_, w₃, h₅, h₆⟩ := bind_ok h₄
  obtain ⟨_, w₄, h₇, h₈⟩ := bind_ok h₆
  simp only [EStateM.run_pure, EStateM.Result.ok.injEq] at h₈
  obtain ⟨-, rfl⟩ := h₈
  have hm₂ : (w.setBody m (.mapper (.cache { c with
      tensors := (c.tensors.partition (·.handle == h)).2,
      frames := (c.frames.partition (·.handle == h)).2 }))).bodyAt m = some (.mapper (.cache { c with
      tensors := (c.tensors.partition (·.handle == h)).2,
      frames := (c.frames.partition (·.handle == h)).2 })) := by
    simp [World.bodyAt_setBody, World.lt_size_of_bodyAt hm]
  exact releaseAll_ok_keeps_cache (releaseAll_ok_keeps_cache hm₂ h₅) h₇

theorem clear_ok {u : Unit} (hm : w.bodyAt m = some (.mapper (.cache c)))
    (hrun : (clear m).run w = .ok u w') :
    w'.bodyAt m = some (.mapper (.cache { c with tensors := [], frames := [] })) := by
  obtain ⟨_, w₁, h₁, h₂⟩ := bind_ok hrun
  rw [run_cacheOf hm] at h₁
  cases h₁
  obtain ⟨_, w₂, h₃, h₄⟩ := bind_ok h₂
  rw [run_setCache] at h₃
  cases h₃
  obtain ⟨_, w₃, h₅, h₆⟩ := bind_ok h₄
  have hm₃ := releaseAll_ok_keeps_cache
    (World.bodyAt_setBody_of_lt (.mapper (.cache { c with tensors := [] }))
      (World.lt_size_of_bodyAt hm)) h₅
  obtain ⟨_, w₄, h₇, h₈⟩ := bind_ok h₆
  rw [run_cacheOf hm₃] at h₇
  cases h₇
  obtain ⟨_, w₅, h₉, h₁₀⟩ := bind_ok h₈
  rw [run_setCache] at h₉
  cases h₉
  exact releaseAll_ok_keeps_cache
    (World.bodyAt_setBody_of_lt (.mapper (.cache { c with tensors := [], frames := [] }))
      (World.lt_size_of_bodyAt hm₃)) h₁₀

end Mapper

/-! ## The memo table -/

/-- A caching mapper is a memo table from a handle and an access mode to a destination. Take a
world in which `m` is a cache in state `c`.

On a hit the mapper the cache fronts does not run. Under the strict policy a destination with
more than one strong reference (those the cache's own slots hold included) is refused, with
the count less one as outstanding, and the world is left as it was; a hit that goes through
returns the cached destination without a parent (a frame also without metadata and regions)
and counts the hit, and one on a destination already bare that is not refused changes nothing
else but the destination's count. On a miss the inner mapper runs from the world with the slot
made; what it returns is returned, cached for that key alone, counted as a miss, and left
without a parent, as are a frame's tensors. Evicting a handle forgets it in every mode and
clearing forgets every key, the counters kept; with keys unique, the filled slots the
statistics report as the length are as many as the keys the table answers. -/
theorem cache_is_memo_table (fuel : Nat) (w : World) (m : Ref) (c : Cache)
    (hm : w.bodyAt m = some (.mapper (.cache c))) :
    (∀ (src v : Ref) (mode : AccessMode) (t : Tensor) (h : Handle),
      w.bodyAt src = some (.tensor t) → t.handle "" = .ok h → lookup c.tensors h mode = some v →
      (tensorWith (fuel + 1) m src mode).run w = (reissueTensor m c v h).run w ∧
      (∀ (o : Ref) (x : Context), c.policy = .strict → 1 < w.strongAt v →
        (output c.inner).run w = .ok o w → w.bodyAt o = some (.context x) →
        (tensorWith (fuel + 1) m src mode).run w =
          .error (.poolContract x.backend.kind h.hexPieces (w.strongAt v - 1)) w) ∧
      (∀ r w', (tensorWith (fuel + 1) m src mode).run w = .ok r w' →
        r = v ∧ w'.bodyAt m = some (.mapper (.cache { c with hits := c.hits + 1 })) ∧
        ∃ t, w'.bodyAt v = some (.tensor t) ∧ t.parent = none) ∧
      (∀ k tv, w.nodes[v]? = some ⟨k, .tensor tv⟩ → tv.parent = none →
        (c.policy = .strict → w.strongAt v ≤ 1) →
        (tensorWith (fuel + 1) m src mode).run w =
          .ok v ((w.setBody m (.mapper (.cache { c with hits := c.hits + 1 }))).setStrong v
            ⟨k, .tensor tv⟩ (k + 1)))) ∧
    (∀ (w' : World) (src r : Ref) (mode : AccessMode) (t : Tensor) (h : Handle),
      w.MappersNested → w.bodyAt src = some (.tensor t) → t.handle "" = .ok h →
      lookup c.tensors h mode = none → (tensorWith (fuel + 1) m src mode).run w = .ok r w' →
      (∃ w₂, (tensorWith fuel c.inner src mode).run
          (w.setBody m (.mapper (.cache { c with tensors := (slotFor c.tensors h mode).2 }))) =
          .ok r w₂) ∧
      w'.bodyAt m = some (.mapper (.cache { c with
        tensors := fillSlot (slotFor c.tensors h mode).2 h mode r, misses := c.misses + 1 })) ∧
      (∀ h' mode', lookup (fillSlot (slotFor c.tensors h mode).2 h mode r) h' mode' =
        if (h', mode') = (h, mode) then some r else lookup c.tensors h' mode') ∧
      ∃ t, w'.bodyAt r = some (.tensor t) ∧ t.parent = none) ∧
    (∀ (src v : Ref) (mode : AccessMode) (f : Frame) (t₀ : Ref) (t : Tensor) (h : Handle),
      w.bodyAt src = some (.frame f) → f.tensors[0]? = some t₀ →
      w.bodyAt t₀ = some (.tensor t) → t.handle "" = .ok h → lookup c.frames h mode = some v →
      (frameWith (fuel + 1) m src mode).run w = (reissueFrame m c v h).run w ∧
      (∀ (o : Ref) (x : Context), c.policy = .strict → 1 < w.strongAt v →
        (output c.inner).run w = .ok o w → w.bodyAt o = some (.context x) →
        (frameWith (fuel + 1) m src mode).run w =
          .error (.poolContract x.backend.kind h.hexPieces (w.strongAt v - 1)) w) ∧
      (∀ r w', (frameWith (fuel + 1) m src mode).run w = .ok r w' →
        r = v ∧ w'.bodyAt m = some (.mapper (.cache { c with hits := c.hits + 1 })) ∧
        ∃ f, w'.bodyAt v = some (.frame f) ∧ f.metadata = [] ∧ f.regions = [] ∧
          f.parent = none) ∧
      (∀ k fv, w.nodes[v]? = some ⟨k, .frame fv⟩ → fv.metadata = [] → fv.regions = [] →
        fv.parent = none → (c.policy = .strict → w.strongAt v ≤ 1) →
        (frameWith (fuel + 1) m src mode).run w =
          .ok v ((w.setBody m (.mapper (.cache { c with hits := c.hits + 1 }))).setStrong v
            ⟨k, .frame fv⟩ (k + 1)))) ∧
    (∀ (w' : World) (src r : Ref) (mode : AccessMode) (f : Frame) (t₀ : Ref) (t : Tensor)
        (h : Handle),
      w.MappersNested → w.bodyAt src = some (.frame f) → f.tensors[0]? = some t₀ →
      w.bodyAt t₀ = some (.tensor t) → t.handle "" = .ok h → lookup c.frames h mode = none →
      (frameWith (fuel + 1) m src mode).run w = .ok r w' →
      (∃ w₂, (frameWith fuel c.inner src mode).run
          (w.setBody m (.mapper (.cache { c with frames := (slotFor c.frames h mode).2 }))) =
          .ok r w₂) ∧
      w'.bodyAt m = some (.mapper (.cache { c with
        frames := fillSlot (slotFor c.frames h mode).2 h mode r, misses := c.misses + 1 })) ∧
      (∀ h' mode', lookup (fillSlot (slotFor c.frames h mode).2 h mode r) h' mode' =
        if (h', mode') = (h, mode) then some r else lookup c.frames h' mode') ∧
      ∃ fr, w'.bodyAt r = some (.frame fr) ∧ fr.parent = none ∧
        ∀ t ∈ fr.tensors, ∃ x, w'.bodyAt t = some (.tensor x) ∧ x.parent = none) ∧
    (∀ (w' : World) (h : Handle) (b : Bool), (evict m h).run w = .ok b w' →
      w'.bodyAt m = some (.mapper (.cache { c with
        tensors := (c.tensors.partition (·.handle == h)).2,
        frames := (c.frames.partition (·.handle == h)).2 })) ∧
      ∀ h' mode',
        lookup (c.tensors.partition (·.handle == h)).2 h' mode' =
          (if h' = h then none else lookup c.tensors h' mode') ∧
        lookup (c.frames.partition (·.handle == h)).2 h' mode' =
          (if h' = h then none else lookup c.frames h' mode')) ∧
    (∀ (w' : World) (u : Unit), (clear m).run w = .ok u w' →
      w'.bodyAt m = some (.mapper (.cache { c with tensors := [], frames := [] }))) ∧
    (KeysUnique c.tensors → KeysUnique c.frames →
      c.filled = ((c.tensors.map Slot.key).filter fun k => (lookup c.tensors k.1 k.2).isSome).length +
        ((c.frames.map Slot.key).filter fun k => (lookup c.frames k.1 k.2).isSome).length) := by
  refine ⟨?tensorHit, ?tensorMiss, ?frameHit, ?frameMiss, ?evicted, ?cleared, ?filled⟩
  case tensorHit =>
    intro src v mode t h hsrc hh hv
    exact ⟨tensorWith_cache_hit fuel hm hsrc hh hv,
      fun _ _ hpol hout ho hx => tensorWith_hit_refused hm hsrc hh hv hpol hout ho hx,
      fun _ _ hrun => tensorWith_hit_ok hm hsrc hh hv hrun,
      fun _ _ hn hp hpass => tensorWith_hit_reissued hm hsrc hh hv hn hp hpass⟩
  case tensorMiss =>
    intro w' src r mode t h hnest hsrc hh hv hrun
    obtain ⟨hinner, hcache, horph⟩ := tensorWith_miss_ok hnest hm hsrc hh hv hrun
    exact ⟨hinner, hcache, fun _ _ => lookup_fillSlot_slotFor, horph⟩
  case frameHit =>
    intro src v mode f t₀ t h hsrc ht₀ ht hh hv
    exact ⟨frameWith_cache_hit fuel hm hsrc ht₀ ht hh hv,
      fun _ _ hpol hout ho hx => frameWith_hit_refused hm hsrc ht₀ ht hh hv hpol hout ho hx,
      fun _ _ hrun => frameWith_hit_ok hm hsrc ht₀ ht hh hv hrun,
      fun _ _ hn hd hr hp hpass =>
        frameWith_hit_reissued hm hsrc ht₀ ht hh hv hn hd hr hp hpass⟩
  case frameMiss =>
    intro w' src r mode f t₀ t h hnest hsrc ht₀ ht hh hv hrun
    obtain ⟨hinner, hcache, horph⟩ := frameWith_miss_ok hnest hm hsrc ht₀ ht hh hv hrun
    exact ⟨hinner, hcache, fun _ _ => lookup_fillSlot_slotFor, horph⟩
  case evicted =>
    intro w' h b hrun
    exact ⟨evict_ok hm hrun, fun _ _ => ⟨lookup_evicted, lookup_evicted⟩⟩
  case cleared =>
    intro w' u hrun
    exact clear_ok hm hrun
  case filled =>
    intro ht hf
    rw [Cache.filled, length_filter_filled ht, length_filter_filled hf]

/-- A cache (2) over the identity mapper (1) of a context (0), whose read and write slots for
handle 5 both hold tensor 3; the caller holds the tensor too. -/
def twoSlotCache (policy : PoolPolicy) : Cache where
  inner := 1
  policy := policy
  tensors := [⟨.num 5, .read, some 3⟩, ⟨.num 5, .write, some 3⟩]
  name := "cache(identity)"

def twoSlotTensor : Tensor where
  kind := .dma
  layout := ⟨[4], [1], .uint8⟩
  handles := [("dma_fd", .num 5)]
  primary := "dma_fd"

def twoSlotContext : Context := ⟨1, none, .plain .dma, []⟩

def twoSlotWorld (policy : PoolPolicy) : World where
  nodes := #[⟨1, .context twoSlotContext⟩, ⟨1, .mapper (.identity 0)⟩,
    ⟨1, .mapper (.cache (twoSlotCache policy))⟩, ⟨3, .tensor twoSlotTensor⟩]

/-- Under the reissue policy the cached tensor is handed out again, though three references
hold it. -/
theorem reissue_hit_returns_cached :
    (tensorWith 5 2 3 .read).run (twoSlotWorld .reissue) =
      .ok 3 (((twoSlotWorld .reissue).setBody 2 (.mapper (.cache { twoSlotCache .reissue with
        hits := (twoSlotCache .reissue).hits + 1 }))).setStrong 3 ⟨3, .tensor twoSlotTensor⟩
          (3 + 1)) :=
  ((cache_is_memo_table 4 (twoSlotWorld .reissue) 2 (twoSlotCache .reissue) rfl).1 3 3 .read
    twoSlotTensor (.num 5) rfl rfl rfl).2.2.2 3 twoSlotTensor rfl rfl (by decide)

/-- Under the strict policy, three strong references to a cached tensor, two of them the cache's
own slots: reading it again is refused with two outstanding. -/
theorem strict_hit_counts_other_slots :
    (tensorWith 5 2 3 .read).run (twoSlotWorld .strict) =
      .error (.poolContract .dma (Handle.num 5).hexPieces 2) (twoSlotWorld .strict) :=
  tensorWith_hit_refused (w := twoSlotWorld .strict) (c := twoSlotCache .strict)
    (t := twoSlotTensor) (v := 3) rfl rfl rfl rfl rfl (by decide) rfl rfl

end MemBridge
