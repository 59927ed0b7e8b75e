import MemBridge.Proofs.Mapper.Extends

/-!
Mapping keeps the world extending.

Mappers only run mappers made before them (`World.MappersNested`), and a world that extends
one where that holds keeps it. Running mapper `m` changes no mapper from `m + 1` on: a cache
changes its own slots and counters, keeping what it fronts, and runs its inner mapper, which
is older; a chain runs older links; routes change no mapper at all. By induction on the
nesting fuel, mapping a tensor or a frame with `m` leaves a world that extends the one it
started from, with every mapper from `m + 1` on as it was.
-/

namespace MemBridge

open Std.Do

set_option mvcgen.warning false

def World.MappersNested (w : World) : Prop :=
  ∀ r m, w.bodyAt r = some (.mapper m) → ∀ c ∈ m.children, c < r

namespace World.MappersNested

variable {w : World} {r : Nat}

theorem child_lt {m : Mapper} {c : Ref} (hn : w.MappersNested)
    (h : w.bodyAt r = some (.mapper m)) (hc : c ∈ m.children) : c < r :=
  hn r m h c hc

@[grind →] theorem inner_lt {c : Cache} (hn : w.MappersNested)
    (h : w.bodyAt r = some (.mapper (.cache c))) : c.inner < r :=
  hn.child_lt h (by simp [Mapper.children])

@[grind →] theorem link_lt {links : List Ref} {name : String} {l : Ref} (hn : w.MappersNested)
    (h : w.bodyAt r = some (.mapper (.chain links name))) (hl : l ∈ links) : l < r :=
  hn.child_lt h (by simpa [Mapper.children] using hl)

end World.MappersNested

/-- A world extending one whose mappers are nested has its mappers nested. -/
@[grind →] theorem World.Extends.nested {b : Nat} {w w' : World} (h : w.Extends b w')
    (hn : w.MappersNested) : w'.MappersNested := by
  intro r m' hm' c hc
  by_cases hr : r < w.nodes.size
  · obtain ⟨x, hx⟩ : ∃ x, w.bodyAt r = some x :=
      Option.isSome_iff_exists.1 (World.bodyAt_isSome.2 hr)
    -- the object at `r` was a mapper already, fronting what `m'` fronts
    have hv := h.variant_eq r x hx
    rw [hm'] at hv
    obtain ⟨m, rfl⟩ := Body.variant_eq_mapper.1 (Option.some.inj hv).symm
    obtain ⟨m'', h'', hs⟩ := h.skeleton_eq r m hx
    have e : m' = m'' := by simpa [hm'] using h''
    have : m'.children = m.children := by
      rw [e, ← Mapper.children_skeleton, hs, Mapper.children_skeleton]
    exact hn.child_lt hx (this ▸ hc)
  · exact absurd hm' (h.fresh r m' (Nat.le_of_not_lt hr))

theorem World.MappersNested.push_mapper {w : World} (hn : w.MappersNested) {k : Nat} {m : Mapper}
    (hm : ∀ c ∈ m.children, c < w.nodes.size) : (w.push ⟨k, .mapper m⟩).MappersNested := by
  intro r m' hr
  rw [bodyAt_push] at hr
  split at hr
  · next e => subst e; simp only [Option.some.injEq, Body.mapper.injEq] at hr; exact hr ▸ hm
  · exact hn r m' hr

@[simp, grind =] theorem Mapper.skeleton_cache (c : Cache) :
    (Mapper.cache c).skeleton =
      .cache { inner := c.inner, policy := c.policy, name := c.name } := rfl

namespace Mapper

open Act

variable {w₀ : World}

@[spec] theorem cacheOf_spec (m : Ref) :
    ⦃fun w => ⌜w₀.Extends 0 w⌝⦄ cacheOf m
    ⦃post⟨fun c w => ⌜w₀.Extends 0 w ∧ w.bodyAt m = some (.mapper (.cache c))⌝,
      fun _ w => ⌜w₀.Extends 0 w⌝⟩⦄ := by
  mvcgen [cacheOf] <;> grind

@[spec] theorem setCache_spec (m : Ref) (c c₀ : Cache) :
    ⦃fun w => ⌜w₀.Extends (m + 1) w ∧ w.bodyAt m = some (.mapper (.cache c₀)) ∧
      (Mapper.cache c).skeleton = (Mapper.cache c₀).skeleton⌝⦄ setCache m c
    ⦃post⟨fun _ w => ⌜w₀.Extends (m + 1) w ∧ w.bodyAt m = some (.mapper (.cache c))⌝,
      fun _ w => ⌜w₀.Extends (m + 1) w⌝⟩⦄ := by
  mvcgen [setCache, setBody_eq]
  rename_i h _
  obtain ⟨h₁, h₂, h₃⟩ := h
  exact ⟨h₁.trans (.setMapper h₂ h₃),
    by simp +zetaDelta [World.bodyAt_setBody, World.lt_size_of_bodyAt h₂]⟩

@[spec] theorem checkReissue_spec (c : Cache) (v : Ref) (h : Handle) :
    ⦃fun w => ⌜w₀.Extends 0 w⌝⦄ checkReissue c v h ⦃World.Grown w₀⦄ := by
  mvcgen [checkReissue] <;> grind

theorem chainTensor_extends (fuel : Nat)
    (hrun : ∀ l src mode (w₀ : World), ⦃fun w => ⌜w₀.Extends (l + 1) w ∧ w.MappersNested⌝⦄
      tensorWith fuel l src mode
      ⦃post⟨fun _ w => ⌜w₀.Extends (l + 1) w⌝, fun _ w => ⌜w₀.Extends (l + 1) w⌝⟩⦄)
    (b : Nat) (links : List Ref) (hlinks : ∀ l ∈ links, l < b) (cur : Ref) (mode : AccessMode)
    (w₀ : World) :
    ⦃fun w => ⌜w₀.Extends b w ∧ w.MappersNested⌝⦄ chainTensor fuel links cur mode
    ⦃post⟨fun _ w => ⌜w₀.Extends b w⌝, fun _ w => ⌜w₀.Extends b w⌝⟩⦄ := by
  induction links generalizing cur w₀ with
  | nil =>
    mvcgen [chainTensor]
    grind
  | cons l rest ih =>
    have hl : l < b := hlinks l (by simp)
    have ih' := ih (fun l' h => hlinks l' (List.mem_cons_of_mem _ h))
    mvcgen [chainTensor, keeping, owning, hrun, ih']
    all_goals grind [World.Extends.refl]

theorem tensorWith_extends (fuel : Nat) : ∀ (m src : Ref) (mode : AccessMode) (w₀ : World),
    ⦃fun w => ⌜w₀.Extends (m + 1) w ∧ w.MappersNested⌝⦄ tensorWith fuel m src mode
    ⦃post⟨fun _ w => ⌜w₀.Extends (m + 1) w⌝, fun _ w => ⌜w₀.Extends (m + 1) w⌝⟩⦄ := by
  -- the cache case runs its inner mapper, older than the cache, within the same fuel
  induction fuel with
  | zero => intro m src mode w₀; mvcgen [tensorWith] <;> grind
  | succ fuel ih =>
    intro m src mode w₀
    have hchain := chainTensor_extends fuel ih
    mvcgen [tensorWith, reissueTensor, ih, hchain]
    all_goals grind [World.Extends.refl]

theorem chainFrame_extends (fuel : Nat)
    (hrun : ∀ l src mode (w₀ : World), ⦃fun w => ⌜w₀.Extends (l + 1) w ∧ w.MappersNested⌝⦄
      frameWith fuel l src mode
      ⦃post⟨fun _ w => ⌜w₀.Extends (l + 1) w⌝, fun _ w => ⌜w₀.Extends (l + 1) w⌝⟩⦄)
    (b : Nat) (links : List Ref) (hlinks : ∀ l ∈ links, l < b) (cur : Ref) (mode : AccessMode)
    (w₀ : World) :
    ⦃fun w => ⌜w₀.Extends b w ∧ w.MappersNested⌝⦄ chainFrame fuel links cur mode
    ⦃post⟨fun _ w => ⌜w₀.Extends b w⌝, fun _ w => ⌜w₀.Extends b w⌝⟩⦄ := by
  induction links generalizing cur w₀ with
  | nil =>
    mvcgen [chainFrame]
    grind
  | cons l rest ih =>
    have hl : l < b := hlinks l (by simp)
    have ih' := ih (fun l' h => hlinks l' (List.mem_cons_of_mem _ h))
    mvcgen [chainFrame, keeping, owning, hrun, ih']
    all_goals grind [World.Extends.refl]

theorem frameWith_extends (fuel : Nat) : ∀ (m src : Ref) (mode : AccessMode) (w₀ : World),
    ⦃fun w => ⌜w₀.Extends (m + 1) w ∧ w.MappersNested⌝⦄ frameWith fuel m src mode
    ⦃post⟨fun _ w => ⌜w₀.Extends (m + 1) w⌝, fun _ w => ⌜w₀.Extends (m + 1) w⌝⟩⦄ := by
  induction fuel with
  | zero => intro m src mode w₀; mvcgen [frameWith] <;> grind
  | succ fuel ih =>
    intro m src mode w₀
    have hchain := chainFrame_extends fuel ih
    mvcgen [frameWith, reissueFrame, ih, hchain]
    case inv1 => exact post⟨fun _ w => ⌜w₀.Extends (m + 1) w⌝, fun _ w => ⌜w₀.Extends (m + 1) w⌝⟩
    all_goals grind [World.Extends.refl]

end Mapper

end MemBridge
