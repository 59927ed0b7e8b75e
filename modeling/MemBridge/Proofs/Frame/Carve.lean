import MemBridge.Proofs.Frame.Region
import MemBridge.Proofs.Lineage.Operations
import MemBridge.Proofs.Mapper.Cache

/-!
What cutting a region leaves.

A region that is cut ran every step without failing, and the run of each step says what it
left. The loop over the planes cuts each plane at the rectangle scaled to it
(`Frame.cutPlane_ok`) while the store only gains objects (`Act.forIn_append_ok`). The frame made
over the cuts is fresh and has no parent, and linking it as a region gives it the frame as parent
and lists it after the frame's regions still alive, changing no other object
(`Frame.addRegion_ok`). Together (`Frame.region_ok`): the region is a frame over one view of each
plane at that plane's cut, the view of the first plane at the rectangle itself (`Frame.Carved`).
A region that fails does so before the frame's regions change, having only added to the store
(`Frame.region_error_adds`), so the frame it was cut from is as it was.
Main statement: `region_cuts_proportionally`.
-/

namespace MemBridge

open Std.Do Act World

set_option mvcgen.warning false

-- A lemma of this module reaches `mvcgen` through a `have` (`specN`): named in the list, it would
-- make the proof wait until that lemma's own proof is checked. Where `grind` or `simp_all`
-- follows, the binding is cleared first, so that they do not take it up as a hypothesis.

namespace Act

variable {w w' : World}

theorem lift_run_ok {α : Type} {x : Except Fault α} {a : α} (h : (lift x).run w = .ok a w') :
    x = .ok a ∧ w' = w := by
  cases x with
  | error e => cases h
  | ok b => cases h; exact ⟨rfl, rfl⟩

theorem run_tryCatch_ok {α : Type} {x : Act α} {a : α} :
    (tryCatch (Except.ok <$> x) (fun e => pure (Except.error e)) : Act (Except Fault α)).run w =
      .ok (.ok a) w' ↔ x.run w = .ok a w' := by
  simp only [EStateM.run, tryCatch, tryCatchThe, MonadExceptOf.tryCatch, EStateM.tryCatch,
    Functor.map, EStateM.map]
  cases x w <;> simp [pure, EStateM.pure]

theorem alive_run_ok {q : Ref} {b : Bool} (h : (alive q).run w = .ok b w') :
    w' = w ∧ b = decide (0 < w.strongAt q) := by
  have hread := of_triple (@alive_reads w q) rfl
  rw [h] at hread
  exact ⟨hread.1, hread.2.2⟩

theorem forIn_filter_ok {α : Type} {f : α → List α → Act (ForInStep (List α))} {p : α → Bool}
    (hf : ∀ q acc s w₁, (f q acc).run w = .ok s w₁ →
      w₁ = w ∧ s = .yield (if p q then acc ++ [q] else acc)) :
    ∀ (qs acc live : List α) (w₁ : World), (forIn qs acc f).run w = .ok live w₁ →
      w₁ = w ∧ live = acc ++ qs.filter p := by
  intro qs
  induction qs with
  | nil =>
    intro acc live w₁ h
    cases h
    simp
  | cons q qs ih =>
    intro acc live w₁ h
    rw [List.forIn_cons] at h
    obtain ⟨s, w₂, hs, hrest⟩ := bind_ok h
    obtain ⟨rfl, rfl⟩ := hf _ _ _ _ hs
    obtain ⟨rfl, rfl⟩ := ih _ _ _ hrest
    cases hp : p q <;> simp [hp]

theorem forIn_append_ok {body : Ref → List Ref → Act (ForInStep (List Ref))} {w₀ : World}
    {P : World → Ref → Ref → Prop} (hP : ∀ w w' p c, P w p c → w.Adds w' → P w' p c)
    (ps : List Ref)
    (hbody : ∀ p ∈ ps, ∀ cuts w s w', w₀.Adds w → (body p cuts).run w = .ok s w' →
      ∃ c, s = .yield (cuts ++ [c]) ∧ w.Adds w' ∧ P w' p c) :
    ∀ (cuts cuts' : List Ref) (w w' : World), w₀.Adds w →
      (forIn ps cuts body).run w = .ok cuts' w' →
      w.Adds w' ∧ ∃ news, cuts' = cuts ++ news ∧ List.Forall₂ (P w') ps news := by
  induction ps with
  | nil =>
    intro cuts cuts' w w' _ h
    cases h
    exact ⟨.refl _, [], by simp, .nil⟩
  | cons p ps ih =>
    intro cuts cuts' w w' hw h
    rw [List.forIn_cons] at h
    obtain ⟨s, w₁, hs, hrest⟩ := bind_ok h
    obtain ⟨c, rfl, ha₁, hp₁⟩ := hbody p List.mem_cons_self cuts w s w₁ hw hs
    obtain ⟨ha₂, news, rfl, hall⟩ :=
      ih (fun q hq => hbody q (List.mem_cons_of_mem p hq)) _ _ _ _ (hw.trans ha₁) hrest
    exact ⟨ha₁.trans ha₂, c :: news, by simp, .cons (hP _ _ _ _ hp₁ ha₂) hall⟩

end Act

namespace World.Adds

theorem setFreshParent {w₀ w : World} {g r : Ref} {f₀ f : Frame} (h : w₀.Adds w)
    (hg : w₀.nodes.size ≤ g)
    (hr : w₀.bodyAt r = some (.frame f₀)) (hf : w.bodyAt g = some (.frame f)) :
    w₀.Adds (w.setBody g (.frame { f with parent := some r })) :=
  h.setFrameParent hg hf (by simp [h.frame_at hr])
    (Nat.lt_of_lt_of_le (lt_size_of_bodyAt hr) hg)

end World.Adds

namespace Frame

variable {w w' : World} {r g : Ref} {f fg : Frame}

/-! ### Linking a region -/

theorem setParent_fresh_ok (hg : w.bodyAt g = some (.frame fg)) (hnone : fg.parent = none)
    (h : (setParent g (some r)).run w = .ok () w') :
    w' = w.setBody g (.frame { fg with parent := some r }) := by
  have hread := of_triple (@inLineage_reads w g r (w.nodes.size + 1)) rfl
  simp only [setParent, EStateM.run_bind, EStateM.run_get] at h
  split at h
  · next b w₁ hrun =>
    rw [hrun] at hread
    subst hread
    cases b with
    | true =>
      -- the walk found a loop: the parent is released and the link refused
      obtain ⟨_, w₂, -, h₂⟩ := bind_ok h
      obtain ⟨_, _, h₃, -⟩ := bind_ok h₂
      cases h₃
    | false =>
      simp only [Bool.false_eq_true, if_false, EStateM.run_bind, run_frame hg, hnone,
        run_modifyFrame hg] at h
      cases h
      rfl
  · cases h

theorem pruneRegions_ok {live : List Ref} (hf : w.bodyAt r = some (.frame f))
    (h : (pruneRegions r).run w = .ok live w') :
    live = f.regions.filter (fun q => 0 < w.strongAt q) ∧
      w' = w.setBody r (.frame { f with regions := live }) := by
  rw [pruneRegions, EStateM.run_bind, run_frame hf] at h
  obtain ⟨kept, w₁, hloop, hrest⟩ := bind_ok h
  obtain ⟨rfl, rfl⟩ := forIn_filter_ok (p := fun q => decide (0 < w.strongAt q)) (by
    intro q acc s w₂ hs
    obtain ⟨b, w₃, hb, hret⟩ := bind_ok hs
    obtain ⟨rfl, rfl⟩ := alive_run_ok hb
    cases hdec : decide (0 < w₃.strongAt q) <;>
      simp only [hdec, ↓reduceIte, Bool.false_eq_true] at hret <;> cases hret <;> simp)
    _ _ _ _ hloop
  obtain ⟨_, w₂, hset, hret⟩ := bind_ok hrest
  rw [run_modifyFrame hf] at hset
  cases hset
  cases hret
  simp

theorem addRegion_ok (hf : w.bodyAt r = some (.frame f)) (hg : w.bodyAt g = some (.frame fg))
    (hnone : fg.parent = none) (hrg : r ≠ g) (h : (addRegion r g).run w = .ok () w') :
    w'.bodyAt g = some (.frame { fg with parent := some r }) ∧
      w'.bodyAt r =
        some (.frame { f with regions := f.regions.filter (fun q => 0 < w'.strongAt q) ++ [g] }) ∧
      ∀ q, q ≠ r → q ≠ g → w'.bodyAt q = w.bodyAt q := by
  obtain ⟨n, hn, -⟩ := exists_node_of_bodyAt hf
  obtain ⟨_, w₁, hret, h₁⟩ := bind_ok h
  rw [run_retain hn] at hret
  cases hret
  obtain ⟨_, w₂, hpar, h₂⟩ := bind_ok h₁
  obtain rfl := setParent_fresh_ok (by rwa [bodyAt_setStrong hn]) hnone hpar
  obtain ⟨live, w₃, hprune, h₃⟩ := bind_ok h₂
  have hf₂ : (((w.setStrong r n (n.strong + 1)).setBody g
      (.frame { fg with parent := some r }))).bodyAt r = some (.frame f) := by
    rw [bodyAt_setBody, if_neg (fun h => hrg h.1), bodyAt_setStrong hn, hf]
  obtain ⟨rfl, rfl⟩ := pruneRegions_ok hf₂ hprune
  rw [run_modifyFrame (bodyAt_setBody_of_lt _ (lt_size_of_bodyAt hf₂))] at h₃
  cases h₃
  have hrs := lt_size_of_bodyAt hf
  have hgs := lt_size_of_bodyAt hg
  refine ⟨?_, ?_, fun q hqr hqg => ?_⟩
  · simp [bodyAt_setBody, Ne.symm hrg, hgs]
  · simp [bodyAt_setBody, strongAt_setBody, hrs]
  · simp [bodyAt_setBody, hqr, hqg, bodyAt_setStrong hn]

/-! ### Cutting the planes -/

def cutPlane (rect : Rect) (W H : Nat) (p : Ref) : Act Ref := do
  let image ← lift (ImageView.ofLayout (← tensor p).layout)
  let (y, x) ← lift (scaled rect W H image.width image.height)
  Tensor.sliceRegion p y x

/-- `c` is the view of the plane `p` at the rectangle scaled from `W × H` pixels to the plane's
size. -/
def CutOf (w : World) (rect : Rect) (W H : Nat) (p c : Ref) : Prop :=
  ∃ tp image y x v, w.bodyAt p = some (.tensor tp) ∧ ImageView.ofLayout tp.layout = .ok image ∧
    scaled rect W H image.width image.height = .ok (y, x) ∧ w.bodyAt c = some (.tensor v) ∧
    v.IsView p tp (((tp.layout.shape.map fun d => (0, d)).set image.rowAxis y).set image.colAxis x)

theorem CutOf.mono {rect : Rect} {W H : Nat} {p c : Ref} (h : CutOf w rect W H p c)
    (hk : ∀ q t, w.bodyAt q = some (.tensor t) → w'.bodyAt q = some (.tensor t)) :
    CutOf w' rect W H p c := by
  obtain ⟨tp, image, y, x, v, hp, himg, hcut, hc, hv⟩ := h
  exact ⟨tp, image, y, x, v, hk _ _ hp, himg, hcut, hk _ _ hc, hv⟩

theorem cutPlane_ok {rect : Rect} {W H : Nat} {p c : Ref}
    (hctx : ∀ tp k, w.bodyAt p = some (.tensor tp) → tp.context = .strong k → k < w.nodes.size)
    (h : (cutPlane rect W H p).run w = .ok c w') : w.Adds w' ∧ CutOf w' rect W H p c := by
  obtain ⟨tp, w₁, ht, h₁⟩ := bind_ok h
  obtain ⟨htp, hw₁⟩ := tensor_run_ok ht
  subst w₁
  obtain ⟨image, w₂, himg, h₂⟩ := bind_ok h₁
  obtain ⟨hi, hw₂⟩ := lift_run_ok himg
  subst w₂
  obtain ⟨⟨y, x⟩, w₃, hyx, h₃⟩ := bind_ok h₂
  obtain ⟨hs, hw₃⟩ := lift_run_ok hyx
  subst w₃
  simp only [Tensor.sliceRegion, EStateM.run_bind, run_tensor htp, hi, run_lift_ok] at h₃
  have hadds := of_triple (@Tensor.slice_adds w p
    (((tp.layout.shape.map fun d => (0, d)).set image.rowAxis y).set image.colAxis x)) (Adds.refl w)
  rw [h₃] at hadds
  obtain ⟨-, -, v, hv, hview⟩ := Tensor.slice_view htp (hctx tp · htp) h₃
  exact ⟨hadds, tp, image, y, x, v, hadds.tensor_at htp, hi, hs, hv, hview⟩

/-! ### A region that is cut -/

variable {first : Ref} {t : Tensor} {base : ImageView} {rect : Rect}

theorem FirstPlane.head (hp : FirstPlane w r f first t base) : ∃ rest, f.tensors = first :: rest := by
  have h := hp.select
  dsimp only [Frame.select] at h
  split at h
  · next p hp₀ =>
    cases h
    cases ht : f.tensors with
    | nil => simp [ht] at hp₀
    | cons q rest =>
      simp only [ht, List.getElem?_cons_zero, Option.some.injEq] at hp₀
      exact ⟨rest, by rw [hp₀]⟩
  · cases h

abbrev rectRanges (t : Tensor) (base : ImageView) (rect : Rect) : List (Nat × Nat) :=
  ((t.layout.shape.map fun d => (0, d)).set base.rowAxis (rect.y, rect.y + rect.h)).set
    base.colAxis (rect.x, rect.x + rect.w)

theorem CutOf.first_plane {c : Ref} (hc : CutOf w rect base.width base.height first c)
    (ht : w.bodyAt first = some (.tensor t)) (himg : ImageView.ofLayout t.layout = .ok base)
    (hW : 0 < base.width) (hH : 0 < base.height) :
    ∃ v, w.bodyAt c = some (.tensor v) ∧ v.IsView first t (rectRanges t base rect) := by
  obtain ⟨tp, image, y, x, v, htp, hi, hs, hv, hview⟩ := hc
  rw [ht] at htp
  cases htp
  rw [himg] at hi
  cases hi
  have hcut := scaled_self hW hH hs
  simp only [Prod.mk.injEq] at hcut
  obtain ⟨rfl, rfl⟩ := hcut
  exact ⟨v, hv, hview⟩

/-- What a region that was cut leaves: a frame `fg` at `g`, linked to the frame `f` at `r` it
was cut from, over one view of each plane of `f` at the rectangle scaled to that plane (the view
of the first plane at the rectangle itself), and listed after the regions of `f` still alive. -/
structure Carved (w : World) (r : Ref) (f : Frame) (first : Ref) (t : Tensor) (base : ImageView)
    (rect : Rect) (g : Ref) (fg : Frame) : Prop where
  frame : w.bodyAt g = some (.frame fg)
  parent : fg.parent = some r
  media : fg.media = f.media
  format : fg.format = f.format
  cuts : List.Forall₂ (CutOf w rect base.width base.height) f.tensors fg.tensors
  first : ∃ c v, fg.tensors.head? = some c ∧ w.bodyAt c = some (.tensor v) ∧
    v.IsView first t (rectRanges t base rect)
  listed : w.bodyAt r =
    some (.frame { f with regions := f.regions.filter (fun q => 0 < w.strongAt q) ++ [g] })

/-- Every plane of the frame is a tensor of the store whose context, when it holds one, is an
object of the store. -/
def PlanesHeld (w : World) (f : Frame) : Prop :=
  ∀ p ∈ f.tensors, ∃ tp, w.bodyAt p = some (.tensor tp) ∧
    ∀ k, tp.context = .strong k → k < w.nodes.size

theorem PlanesHeld.context (h : PlanesHeld w f) (ha : w.Adds w') {p : Ref} (hp : p ∈ f.tensors)
    (tp : Tensor) (k : Ref) (htp : w'.bodyAt p = some (.tensor tp))
    (hk : tp.context = .strong k) : k < w'.nodes.size := by
  obtain ⟨tp₀, htp₀, hk₀⟩ := h p hp
  rw [ha.tensor_at htp₀] at htp
  cases htp
  exact Nat.lt_of_lt_of_le (hk₀ k hk) ha.size_le

theorem region_checks_pass (hp : FirstPlane w r f first t base)
    (h : (region r rect).run w = .ok g w') :
    (rect.w ≠ 0 ∧ rect.h ≠ 0) ∧ rect.x + rect.w < Word.bound ∧ rect.x + rect.w ≤ base.width ∧
      rect.y + rect.h < Word.bound ∧ rect.y + rect.h ≤ base.height := by
  have hne : rect.w ≠ 0 ∧ rect.h ≠ 0 := by
    by_contra hc
    rw [region_empty (by omega)] at h
    cases h
  have hx : rect.x + rect.w < Word.bound := by
    by_contra hc
    rw [region_wide_halts hne hp (by omega)] at h
    cases h
  have hW : rect.x + rect.w ≤ base.width := by
    by_contra hc
    rw [region_wide_refused hne hp hx (by omega)] at h
    cases h
  have hy : rect.y + rect.h < Word.bound := by
    by_contra hc
    rw [region_tall_halts hne hp hx hW (by omega)] at h
    cases h
  have hH : rect.y + rect.h ≤ base.height := by
    by_contra hc
    rw [region_tall_refused hne hp hx hW hy (by omega)] at h
    cases h
  exact ⟨hne, hx, hW, hy, hH⟩

theorem carved_of_made (hp : FirstPlane w r f first t base) (hW : 0 < base.width)
    (hH : 0 < base.height) {cuts : List Ref} {w₁ w₂ : World} (ha₁ : w.Adds w₁)
    (hall : List.Forall₂ (CutOf w₁ rect base.width base.height) f.tensors cuts)
    (hmake : (make f.media f.format cuts).run w₁ = .ok g w₂)
    (hadd : (addRegion r g).run w₂ = .ok () w') :
    ∃ fg, Carved w' r f first t base rect g fg := by
  have hmade := of_triple (@make_adds w₁ f.media f.format cuts) (Adds.refl w₁)
  rw [hmake] at hmade
  obtain ⟨ha₂, hg, _, _, -, -, hgb⟩ := hmade
  have hf₂ : w₂.bodyAt r = some (.frame f) := ha₂.frame_at (ha₁.frame_at hp.frame)
  have hrg : r ≠ g :=
    Nat.ne_of_lt (Nat.lt_of_lt_of_le (lt_size_of_bodyAt hp.frame) (Nat.le_trans ha₁.size_le hg))
  obtain ⟨hgb', hrb, hkeep⟩ := addRegion_ok hf₂ hgb rfl hrg hadd
  -- linking changes two frames only, so every tensor stays
  have htensors : ∀ q v, w₂.bodyAt q = some (.tensor v) → w'.bodyAt q = some (.tensor v) := by
    intro q v hq
    rw [hkeep q (by rintro rfl; simp [hf₂] at hq) (by rintro rfl; simp [hgb] at hq)]
    exact hq
  have hall' := hall.imp fun _ _ hcut =>
    CutOf.mono (CutOf.mono hcut fun _ _ => ha₂.tensor_at) htensors
  refine ⟨_, hgb', rfl, rfl, rfl, hall', ?_, hrb⟩
  obtain ⟨rest, hrest⟩ := hp.head
  rw [hrest] at hall'
  obtain ⟨c₀, cs, hc₀, -, rfl⟩ := List.forall₂_cons_left_iff.1 hall'
  have ht' := htensors _ _ (ha₂.tensor_at (ha₁.tensor_at hp.tensor))
  obtain ⟨v, hv, hview⟩ := CutOf.first_plane hc₀ ht' hp.image hW hH
  exact ⟨c₀, v, rfl, hv, hview⟩

theorem region_ok (hp : FirstPlane w r f first t base) (hplanes : PlanesHeld w f)
    (h : (region r rect).run w = .ok g w') :
    ∃ fg, Carved w' r f first t base rect g fg := by
  obtain ⟨hne, hx, hW, hy, hH⟩ := region_checks_pass hp h
  simp only [region, EStateM.run_bind, emptyTest_eq_false hne, Bool.false_eq_true, if_false, run_frame hp.frame,
    hp.select, run_lift_ok, run_tensor hp.tensor, hp.image, checkedAdd_of_lt hx, gt_iff_lt,
    Nat.not_lt.2 hW, checkedAdd_of_lt hy, Nat.not_lt.2 hH] at h
  -- the run is the loop over the planes, then the frame made over the cuts, then the link
  split at h
  case h_2 => cases h
  next cuts w₁ hloop =>
  split at h
  case h_2 => cases h
  next g₀ w₂ hmake =>
  split at h
  case h_2 => cases h
  next w₃ hadd =>
  cases h
  have hcuts := forIn_append_ok (P := fun w p c => CutOf w rect base.width base.height p c)
    (fun _ _ _ _ hcut ha => CutOf.mono hcut fun _ _ => ha.tensor_at) f.tensors ?_ [] cuts w w₁
    (Adds.refl w) hloop
  · obtain ⟨ha₁, news, hnews, hall⟩ := hcuts
    rw [List.nil_append] at hnews
    subst hnews
    exact carved_of_made hp (by omega) (by omega) ha₁ hall hmake hadd
  · intro p hpf cs w₄ s w₅ ha hb
    obtain ⟨d, w₆, htry, hm⟩ := bind_ok hb
    cases d with
    | error e =>
      -- a plane that is not cut releases the cuts made so far and stops the loop
      obtain ⟨_, w₇, -, hm'⟩ := bind_ok hm
      obtain ⟨_, _, hthrow, -⟩ := bind_ok hm'
      cases hthrow
    | ok c =>
      cases hm
      obtain ⟨ha', hcut⟩ := cutPlane_ok (hplanes.context ha hpf) (run_tryCatch_ok.1 htry)
      exact ⟨c, rfl, ha', hcut⟩

/-! ### A region that fails -/

section Fails

variable {w₀ : World}

theorem setParent_fresh_adds (g r : Ref) :
    ⦃fun w => ⌜w₀.Adds w ∧ w₀.nodes.size ≤ g ∧ (∃ f, w₀.bodyAt r = some (.frame f)) ∧
      ∃ fg, w.bodyAt g = some (.frame fg)⌝⦄
    setParent g (some r) ⦃World.Added w₀⦄ := by
  mvcgen [setParent, -setParent_spec, -inLineage_spec, inLineage_reads, -Act.release_spec,
    release_adds, -Act.frame_spec, frame_reads, -Act.modifyFrame_spec, modifyFrame_sets]
  all_goals grind [World.Adds.setFreshParent]

theorem pruneRegions_fails_adds (r : Ref) :
    ⦃fun w => ⌜w₀.Adds w ∧ ∃ f, w₀.bodyAt r = some (.frame f)⌝⦄ pruneRegions r
    ⦃post⟨fun _ w => ⌜∃ f, w.bodyAt r = some (.frame f)⌝, fun _ w => ⌜w₀.Adds w⌝⟩⦄ := by
  mvcgen [pruneRegions, -Act.frame_spec, frame_adds, -Act.alive_spec, alive_adds,
    -Act.modifyFrame_spec, modifyFrame_sets]
  case inv1 => exact World.Added w₀
  all_goals grind [bodyAt_setBody_of_lt, lt_size_of_bodyAt]

theorem modifyFrame_of_frame (r : Ref) (fn : Frame → Frame) :
    ⦃fun w => ⌜∃ f, w.bodyAt r = some (.frame f)⌝⦄ modifyFrame r fn
    ⦃post⟨fun _ _ => ⌜True⌝, fun _ _ => ⌜False⌝⟩⦄ := by
  apply triple_of_run
  rintro w ⟨f, hf⟩
  rw [run_modifyFrame hf]
  trivial

theorem addRegion_fails_adds (r g : Ref) :
    ⦃fun w => ⌜w₀.Adds w ∧ w₀.nodes.size ≤ g ∧ (∃ f, w₀.bodyAt r = some (.frame f)) ∧
      ∃ fg, w.bodyAt g = some (.frame fg)⌝⦄
    addRegion r g ⦃post⟨fun _ _ => ⌜True⌝, fun _ w => ⌜w₀.Adds w⌝⟩⦄ := by
  -- the link is made in the store the region is cut in, not in the one the call starts from
  have hset := @setParent_fresh_adds w₀
  have spec1 := @pruneRegions_fails_adds
  have spec2 := @modifyFrame_of_frame
  mvcgen [addRegion, -Act.retain_spec, retain_bumps, -setParent_spec, hset,
    spec1, -Act.modifyFrame_spec, spec2] <;> clear spec1 spec2
  all_goals grind [bodyAt_setStrong]

theorem region_fails_adds (r : Ref) (rect : Rect) :
    ⦃fun w => ⌜w = w₀⌝⦄ region r rect ⦃post⟨fun _ _ => ⌜True⌝, fun _ w => ⌜w₀.Adds w⌝⟩⦄ := by
  have hmake := @make_adds w₀
  have hadd := @addRegion_fails_adds w₀
  mvcgen [region, -Act.frame_spec, frame_reads, -Act.lift_spec, lift_adds, -Act.tensor_spec,
    tensor_adds, Tensor.sliceRegion_adds, -Act.releaseAll_spec, releaseAll_adds, -make_spec, hmake,
    hadd]
  case inv1 => exact World.Added w₀
  all_goals grind [Frame.Made]

theorem region_error_adds {e : Fault} (h : (region r rect).run w = .error e w') : w.Adds w' := by
  have hrun := of_triple (@region_fails_adds w r rect) rfl
  rwa [h] at hrun

end Fails

def rowsFrame : Frame := { media := .image, format := 0, kind := .cpu, tensors := [0] }

def rowsFrameWorld : World where
  nodes := #[⟨1, .tensor Tensor.hostRows⟩, ⟨1, .frame rowsFrame⟩]

end Frame

open MemBridge.Frame in
/-- Cutting a region. An empty rectangle is refused. Otherwise the far edges of the rectangle are
summed in checked arithmetic: a sum that leaves the word stops the computation, and a rectangle
reaching past the first plane is refused, each leaving the store as it was. Any failure leaves the
frame, and so its regions, as it was. A region that is cut from a frame whose planes are held is
a new frame over the views of the planes at their cuts, with the frame as parent, listed after
the frame's regions still alive. The cut of a plane of positive size exists exactly when the far
edges scaled to it are words; it is then non-empty, inside the plane and covers the scaled
rectangle, and on the first plane it is the rectangle itself. -/
theorem region_cuts_proportionally (w : World) (r : Ref) (rect : Rect) :
    ((rect.w = 0 ∨ rect.h = 0) →
      (region r rect).run w = .error (.invalidArgument ("empty region " ++ rect.debugText)) w) ∧
    (∀ (first : Ref) (f : Frame) (t : Tensor) (base : ImageView),
      rect.w ≠ 0 ∧ rect.h ≠ 0 → FirstPlane w r f first t base →
      (Word.bound ≤ rect.x + rect.w →
        (region r rect).run w = .error (.halt "attempt to add with overflow") w) ∧
      (rect.x + rect.w < Word.bound → base.width < rect.x + rect.w →
        (region r rect).run w = .error (.invalidArgument ("region " ++ rect.debugText ++
          " exceeds " ++ toString base.width ++ "x" ++ toString base.height ++ " frame")) w) ∧
      (rect.x + rect.w < Word.bound → rect.x + rect.w ≤ base.width →
        Word.bound ≤ rect.y + rect.h →
        (region r rect).run w = .error (.halt "attempt to add with overflow") w) ∧
      (rect.x + rect.w < Word.bound → rect.x + rect.w ≤ base.width →
        rect.y + rect.h < Word.bound → base.height < rect.y + rect.h →
        (region r rect).run w = .error (.invalidArgument ("region " ++ rect.debugText ++
          " exceeds " ++ toString base.width ++ "x" ++ toString base.height ++ " frame")) w)) ∧
    (∀ (f : Frame) (e : Fault) (w' : World), w.bodyAt r = some (.frame f) →
      (region r rect).run w = .error e w' → w'.bodyAt r = some (.frame f)) ∧
    (∀ (first : Ref) (f : Frame) (t : Tensor) (base : ImageView),
      FirstPlane w r f first t base → PlanesHeld w f → ∀ g w',
        (region r rect).run w = .ok g w' → ∃ fg, Carved w' r f first t base rect g fg) ∧
    (∀ W H : Nat, 0 < rect.w → 0 < rect.h → rect.x + rect.w ≤ W → rect.y + rect.h ≤ H →
      (∀ cut, scaled rect W H W H = .ok cut →
        cut = ((rect.y, rect.y + rect.h), (rect.x, rect.x + rect.w))) ∧
      ∀ w h, 0 < w → 0 < h →
        ((∃ cut, scaled rect W H w h = .ok cut) ↔
          (rect.x + rect.w) * w < Word.bound ∧ (rect.y + rect.h) * h < Word.bound) ∧
        ∀ y₀ y₁ x₀ x₁, scaled rect W H w h = .ok ((y₀, y₁), (x₀, x₁)) →
          Covers rect.x rect.w W w x₀ x₁ ∧ Covers rect.y rect.h H h y₀ y₁) := by
  refine ⟨region_empty, ?_, fun f e w' hf h => (region_error_adds h).frame_at hf,
    fun first f t base hp hplanes g w' h => region_ok hp hplanes h, ?_⟩
  · intro first f t base hne hp
    exact ⟨region_wide_halts hne hp, region_wide_refused hne hp, region_tall_halts hne hp,
      fun hx hW hy hH => region_tall_refused hne hp hx hW hy hH⟩
  · intro W H hw₀ hh₀ hW hH
    refine ⟨fun cut => scaled_self (by omega) (by omega), fun w h hw hh => ⟨?_, ?_⟩⟩
    · constructor
      · rintro ⟨cut, hcut⟩
        exact (scaled_eq_ok_iff.1 hcut).imp_right And.left
      · rintro ⟨hx, hy⟩
        exact ⟨_, scaled_eq_ok_iff.2 ⟨hx, hy, rfl⟩⟩
    · intro y₀ y₁ x₀ x₁ hcut
      exact scaled_covers (by omega) (by omega) hW hH hw hh hcut

/-- The top left pixel of a frame of two rows of three bytes is cut as a region. -/
theorem corner_region_carved :
    ∃ g w' fg, (Frame.region 1 ⟨0, 0, 1, 1⟩).run Frame.rowsFrameWorld = .ok g w' ∧
      Frame.Carved w' 1 Frame.rowsFrame 0 Tensor.hostRows ⟨Tensor.hostRows.layout, .hw, 0, 1⟩
        ⟨0, 0, 1, 1⟩ g fg := by
  obtain ⟨g, w', h⟩ : ∃ g w', (Frame.region 1 ⟨0, 0, 1, 1⟩).run Frame.rowsFrameWorld = .ok g w' :=
    ⟨_, _, rfl⟩
  have hplanes : Frame.PlanesHeld Frame.rowsFrameWorld Frame.rowsFrame := by
    intro p hp
    simp only [Frame.rowsFrame, List.mem_singleton] at hp
    subst hp
    exact ⟨_, rfl, fun k hk => by cases hk⟩
  obtain ⟨fg, hc⟩ := (region_cuts_proportionally Frame.rowsFrameWorld 1 ⟨0, 0, 1, 1⟩).2.2.2.1 0
    Frame.rowsFrame Tensor.hostRows _ ⟨rfl, rfl, rfl, rfl⟩ hplanes g w' h
  exact ⟨g, w', fg, h, hc⟩

/-- A rectangle whose right edge is the top of the word stops the computation instead of being
refused. -/
theorem top_of_word_region_halts :
    (Frame.region 1 ⟨Word.bound - 1, 0, 1, 1⟩).run Frame.rowsFrameWorld =
      .error (.halt "attempt to add with overflow") Frame.rowsFrameWorld :=
  rfl

end MemBridge
