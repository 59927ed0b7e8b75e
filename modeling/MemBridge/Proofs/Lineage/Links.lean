import MemBridge.Proofs.Store.Adds

/-!
Parent links, and why they never loop. A world's lineage is sound (`World.LineageSound`) when
every link goes to an object of the same sort and no object is its own ancestor. Changes that
only add older links keep it sound (`LineageSound.of_keepsLinks`), and so does linking an object
to a parent that does not descend from it (`LineageSound.relink`). In a sound world, a walk up the
parents with one unit of fuel per object is exact (`LineageSound.walk_exact`).
-/

namespace MemBridge

namespace World

open Relation

variable {w w' w'' : World} {a b c r p : Ref}

def LinksTo (w : World) (a b : Ref) : Prop := w.parentAt a = some b

theorem LinksTo.unique (h₁ : w.LinksTo a b) (h₂ : w.LinksTo a c) : b = c :=
  Option.some.inj (h₁.symm.trans h₂)

theorem LinksTo.lt_size (h : w.LinksTo a b) : a < w.nodes.size := by
  obtain ⟨x, hx, -⟩ := Option.bind_eq_some_iff.1 h
  exact lt_size_of_bodyAt hx

theorem not_linksTo_of_none (h : w.parentAt a = none) : ¬ w.LinksTo a b := by
  simp [LinksTo, h]

/-- The lineage of a world is sound: a tensor's parent is a tensor, a frame's parent is a
frame, and no object is its own ancestor. -/
structure LineageSound (w : World) : Prop where
  sorted : ∀ r p, w.LinksTo r p → w.sortAt p = w.sortAt r
  acyclic : ∀ r, ¬ TransGen w.LinksTo r r

namespace LineageSound

theorem parent_lt_size (h : w.LineageSound) (hl : w.LinksTo a b) : b < w.nodes.size := by
  obtain ⟨x, hx, -⟩ := Option.bind_eq_some_iff.1 hl
  have hb : w.sortAt b = some x.variant := by rw [h.sorted a b hl]; simp [hx]
  obtain ⟨y, hy, -⟩ := Option.map_eq_some_iff.1 hb
  exact lt_size_of_bodyAt hy

theorem lt_size_of_transGen (h : w.LineageSound) (hp : TransGen w.LinksTo a b) :
    b < w.nodes.size := by
  induction hp with
  | single hl => exact h.parent_lt_size hl
  | tail _ hl _ => exact h.parent_lt_size hl

theorem not_reaches_child (h : w.LineageSound) (hl : w.LinksTo a b) :
    ¬ ReflTransGen w.LinksTo b a :=
  fun hr => h.acyclic a (TransGen.head' hl hr)

end LineageSound

/-- `w'` keeps the sort of every object of `w` and its link or none, and links each object it
adds, if at all, to an older object of the same sort. -/
structure KeepsLinks (w w' : World) : Prop where
  size_le : w.nodes.size ≤ w'.nodes.size
  sorts : ∀ r x, w.bodyAt r = some x → w'.sortAt r = some x.variant
  links : ∀ r p, r < w.nodes.size → w'.LinksTo r p → w.LinksTo r p
  fresh : ∀ r p, w.nodes.size ≤ r → w'.LinksTo r p → p < r ∧ w'.sortAt p = w'.sortAt r

namespace KeepsLinks

theorem refl (w : World) : w.KeepsLinks w where
  size_le := Nat.le_refl _
  sorts _ _ h := by simp [h]
  links _ _ _ h := h
  fresh _ _ hr h := absurd h.lt_size (Nat.not_lt.2 hr)

theorem sort_at (h : w.KeepsLinks w') {v : Body.Variant} (hv : w.sortAt r = some v) :
    w'.sortAt r = some v := by
  obtain ⟨x, hx, rfl⟩ := Option.map_eq_some_iff.1 hv
  exact h.sorts r x hx

theorem trans (h₁ : w.KeepsLinks w') (h₂ : w'.KeepsLinks w'') : w.KeepsLinks w'' where
  size_le := h₁.size_le.trans h₂.size_le
  sorts r x hx := h₂.sort_at (h₁.sorts r x hx)
  links r p hr hl := h₁.links r p hr (h₂.links r p (Nat.lt_of_lt_of_le hr h₁.size_le) hl)
  fresh r p hr hl := by
    by_cases hr' : r < w'.nodes.size
    · -- added by the first step: the second kept the link and the sorts at both ends
      obtain ⟨hlt, hsort⟩ := h₁.fresh r p hr (h₂.links r p hr' hl)
      obtain ⟨y, hy⟩ : ∃ y, w'.bodyAt r = some y :=
        Option.isSome_iff_exists.1 (bodyAt_isSome.2 hr')
      have hr₂ := h₂.sorts r y hy
      have hp₂ := h₂.sort_at (r := p) (v := y.variant) (by rw [hsort]; simp [hy])
      exact ⟨hlt, hp₂.trans hr₂.symm⟩
    · exact h₂.fresh r p (Nat.not_lt.1 hr') hl

theorem of_adds (h : w.Adds w') : w.KeepsLinks w' where
  size_le := h.size_le
  sorts := h.sorts
  links r p hr hl := by
    obtain ⟨x, hx⟩ : ∃ x, w.bodyAt r = some x :=
      Option.isSome_iff_exists.1 (bodyAt_isSome.2 hr)
    by_cases hv : x.variant = .device
    · -- a device stays a device, and a device links to nothing
      obtain ⟨y, hy, hyv⟩ := Option.map_eq_some_iff.1 (h.sorts r x hx)
      cases y <;> simp_all [LinksTo, parentAt, Body.variant, Body.parent]
    · simpa [LinksTo, parentAt, h.body_at hx hv, hx] using hl
  fresh := h.fresh

theorem setBody {x y : Body} (hx : w.bodyAt r = some x) (hv : y.variant = x.variant)
    (hp : y.parent = none ∨ y.parent = x.parent) : w.KeepsLinks (w.setBody r y) where
  size_le := by simp
  sorts r' x' h := by
    rw [sortAt_eq, bodyAt_setBody]
    split
    · next e => obtain ⟨rfl, -⟩ := e; simp_all
    · simp [h]
  links r' p' _ hl := by
    simp only [LinksTo, parentAt, bodyAt_setBody] at hl ⊢
    split at hl
    · next e =>
      obtain ⟨rfl, -⟩ := e
      rcases hp with hp | hp <;> simp_all
    · exact hl
  fresh r' p' hr hl := absurd hl.lt_size (by simpa using hr)

theorem trans_setBody {w₀ : World} {x y : Body} (h : w₀.KeepsLinks w) (hx : w.bodyAt r = some x)
    (hv : y.variant = x.variant) (hp : y.parent = none ∨ y.parent = x.parent) :
    w₀.KeepsLinks (w.setBody r y) :=
  h.trans (setBody hx hv hp)

end KeepsLinks

namespace LineageSound

theorem path_of_old (h : w.LineageSound) (hk : w.KeepsLinks w') (ha : a < w.nodes.size)
    (hp : TransGen w'.LinksTo a b) : TransGen w.LinksTo a b := by
  induction hp with
  | single hl => exact .single (hk.links _ _ ha hl)
  | tail _ hl ih => exact .tail ih (hk.links _ _ (h.lt_size_of_transGen ih) hl)

theorem path_of_fresh (h : w.LineageSound) (hk : w.KeepsLinks w') (ha : w.nodes.size ≤ a)
    (hp : TransGen w'.LinksTo a b) : b < a := by
  induction hp with
  | single hl => exact (hk.fresh _ _ ha hl).1
  | @tail y z _ hl ih =>
    by_cases hy : w.nodes.size ≤ y
    · exact (hk.fresh y z hy hl).1.trans ih
    · -- an object of `w` links, as in `w`, to an object of `w`
      exact Nat.lt_of_lt_of_le (h.parent_lt_size (hk.links y z (Nat.not_le.1 hy) hl)) ha

theorem of_keepsLinks (h : w.LineageSound) (hk : w.KeepsLinks w') : w'.LineageSound where
  sorted r p hl := by
    by_cases hr : r < w.nodes.size
    · have hl₀ := hk.links r p hr hl
      obtain ⟨x, hx, -⟩ := Option.bind_eq_some_iff.1 hl₀
      have hp₀ : w.sortAt p = some x.variant := by rw [h.sorted r p hl₀]; simp [hx]
      rw [hk.sort_at hp₀, hk.sorts r x hx]
    · exact (hk.fresh r p (Nat.not_lt.1 hr) hl).2
  acyclic r hc := by
    by_cases hr : r < w.nodes.size
    · exact h.acyclic r (h.path_of_old hk hr hc)
    · exact Nat.lt_irrefl r (h.path_of_fresh hk (Nat.not_lt.1 hr) hc)

end LineageSound

/-! ### Installing one link

`w'` below agrees with `w` on every link but that of `r`, which goes to `p`. -/

section Relink

variable (hlinks : ∀ x b, x ≠ r → (w'.LinksTo x b ↔ w.LinksTo x b))
include hlinks

theorem reach_or_reach_of_relink (hp : ReflTransGen w'.LinksTo a b) :
    ReflTransGen w.LinksTo a b ∨ ReflTransGen w.LinksTo a r := by
  induction hp with
  | refl => exact .inl .refl
  | @tail b c _ hl ih =>
    rcases ih with ih | ih
    · by_cases hb : b = r
      · exact .inr (hb ▸ ih)
      · exact .inl (ih.tail ((hlinks b c hb).1 hl))
    · exact .inr ih

theorem reach_of_relink (hp : ReflTransGen w.LinksTo a r) : ReflTransGen w'.LinksTo a r := by
  induction hp using ReflTransGen.head_induction_on with
  | refl => exact .refl
  | @head a c hl _ ih =>
    by_cases ha : a = r
    · exact ha ▸ .refl
    · exact .head ((hlinks a c ha).2 hl) ih

end Relink

theorem reaches_back_of_loop (hc : TransGen w.LinksTo a a) (hb : ReflTransGen w.LinksTo a b) :
    ReflTransGen w.LinksTo b a := by
  induction hb with
  | refl => exact .refl
  | @tail b c _ hl ih =>
    rcases ih.cases_head with rfl | ⟨d, hd, hda⟩
    · obtain ⟨d, hd, hda⟩ := TransGen.head'_iff.1 hc
      exact hd.unique hl ▸ hda
    · exact hd.unique hl ▸ hda

namespace LineageSound

theorem relink (h : w.LineageSound) (hsort : ∀ x, w'.sortAt x = w.sortAt x)
    (hlinks : ∀ x b, x ≠ r → (w'.LinksTo x b ↔ w.LinksTo x b)) (hr : w'.LinksTo r p)
    (hp : w.sortAt p = w.sortAt r) (hfree : ¬ ReflTransGen w.LinksTo p r) :
    w'.LineageSound where
  sorted x b hl := by
    rw [hsort, hsort]
    by_cases hx : x = r
    · subst hx
      rw [hl.unique hr]
      exact hp
    · exact h.sorted x b ((hlinks x b hx).1 hl)
  acyclic x hx := by
    -- a loop through `r` would leave it by the new link and come back along links of `w`
    have hr_loop : ¬ TransGen w'.LinksTo r r := fun hrr => by
      obtain ⟨d, hd, hdr⟩ := TransGen.head'_iff.1 hrr
      rw [hd.unique hr] at hdr
      rcases reach_or_reach_of_relink hlinks hdr with hpr | hpr <;> exact hfree hpr
    by_cases hxr : ReflTransGen w.LinksTo x r
    · -- `x` reaches `r`, so the loop through `x` passes `r`
      have hto : ReflTransGen w'.LinksTo x r := reach_of_relink hlinks hxr
      have hback := reaches_back_of_loop hx hto
      exact hr_loop ((TransGen.trans_right hback hx).trans_left hto)
    · -- otherwise the loop never passes `r` and is a loop of `w`
      have hold : ∀ y, ReflTransGen w'.LinksTo x y → ReflTransGen w.LinksTo x y := fun y hy =>
        (reach_or_reach_of_relink hlinks hy).resolve_right hxr
      obtain ⟨y, hyx, hxy⟩ := TransGen.tail'_iff.1 hx
      have hy := hold y hyx
      have hyr : y ≠ r := fun e => hxr (e ▸ hy)
      exact h.acyclic x (TransGen.tail' hy ((hlinks y x hyr).1 hxy))

theorem setBody_parent {x y : Body} (h : w.LineageSound) (hx : w.bodyAt r = some x)
    (hv : y.variant = x.variant)
    (hp : ∀ q, y.parent = some q → w.sortAt q = some x.variant ∧ ¬ ReflTransGen w.LinksTo q r) :
    (w.setBody r y).LineageSound := by
  have hr := lt_size_of_bodyAt hx
  cases hq : y.parent with
  | none => exact h.of_keepsLinks (KeepsLinks.setBody hx hv (.inl hq))
  | some q =>
    obtain ⟨hqs, hfree⟩ := hp q hq
    have hother : ∀ z, z ≠ r → (w.setBody r y).bodyAt z = w.bodyAt z := fun z hz => by
      simp [bodyAt_setBody, hz]
    refine h.relink (r := r) (p := q) (fun z => ?_) (fun z b hz => ?_) ?_ ?_ hfree
    · by_cases hz : z = r
      · subst hz; simp [bodyAt_setBody, hr, hx, hv]
      · simp [hother z hz]
    · simp [LinksTo, parentAt, hother z hz]
    · simp [LinksTo, parentAt, bodyAt_setBody, hr, hq]
    · rw [hqs]; simp [hx]

end LineageSound

/-! ### Walking up the parents -/

open Classical in
noncomputable def ancestors (w : World) (c : Ref) : Finset Ref :=
  (Finset.range w.nodes.size).filter (ReflTransGen w.LinksTo c)

theorem card_ancestors_le (w : World) (c : Ref) : (w.ancestors c).card ≤ w.nodes.size := by
  classical
  unfold ancestors
  exact (Finset.card_filter_le _ _).trans (by simp)

namespace LineageSound

theorem card_ancestors_lt (h : w.LineageSound) (hl : w.LinksTo c p) :
    (w.ancestors p).card < (w.ancestors c).card := by
  apply Finset.card_lt_card
  refine Finset.ssubset_iff_of_subset (fun x hx => ?_) |>.2 ⟨c, ?_, fun hc => ?_⟩
  · simp only [ancestors, Finset.mem_filter] at hx ⊢
    exact ⟨hx.1, .head hl hx.2⟩
  · simp [ancestors, hl.lt_size, ReflTransGen.refl]
  · simp only [ancestors, Finset.mem_filter] at hc
    exact h.not_reaches_child hl hc.2

theorem walk_exact (h : w.LineageSound) (walk : Ref → Nat → Act Bool) {v : Body.Variant}
    (hself : ∀ fuel, (walk r (fuel + 1)).run w = .ok true w)
    (hnone : ∀ c fuel, c ≠ r → w.sortAt c = some v → w.parentAt c = none →
      (walk c (fuel + 1)).run w = .ok false w)
    (hsome : ∀ c p fuel, c ≠ r → w.sortAt c = some v → w.LinksTo c p →
      (walk c (fuel + 1)).run w = (walk p fuel).run w)
    (hc : w.sortAt c = some v) :
    ∃ b, (walk c (w.nodes.size + 1)).run w = .ok b w ∧ (b = true ↔ ReflTransGen w.LinksTo c r) := by
  -- the induction is on the fuel, which stays above the number of ancestors
  suffices key : ∀ fuel c, w.sortAt c = some v → (w.ancestors c).card < fuel →
      ∃ b, (walk c fuel).run w = .ok b w ∧ (b = true ↔ ReflTransGen w.LinksTo c r) from
    key _ c hc (Nat.lt_succ_of_le (card_ancestors_le w c))
  intro fuel
  induction fuel with
  | zero => intro c _ hcard; omega
  | succ fuel ih =>
    intro c hc hcard
    by_cases hcr : c = r
    · subst hcr
      exact ⟨true, hself fuel, by simp [ReflTransGen.refl]⟩
    cases hpc : w.parentAt c with
    | none =>
      have hno : ¬ ReflTransGen w.LinksTo c r := fun hcr' => by
        rcases hcr'.cases_head with e | ⟨d, hd, -⟩
        · exact hcr e
        · exact not_linksTo_of_none hpc hd
      exact ⟨false, hnone c fuel hcr hc hpc, by simp [hno]⟩
    | some p =>
      have hl : w.LinksTo c p := hpc
      have hp : w.sortAt p = some v := (h.sorted c p hl).trans hc
      have hiff : ReflTransGen w.LinksTo p r ↔ ReflTransGen w.LinksTo c r := by
        refine ⟨.head hl, fun hcr' => ?_⟩
        rcases hcr'.cases_head with e | ⟨d, hd, hdr⟩
        · exact absurd e hcr
        · exact hl.unique hd ▸ hdr
      have hlt := h.card_ancestors_lt hl
      obtain ⟨b, hrun, hb⟩ := ih p hp (by omega)
      exact ⟨b, (hsome c p fuel hcr hc hl).trans hrun, hb.trans hiff⟩

end LineageSound

end World

end MemBridge
