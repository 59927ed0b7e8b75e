import MemBridge.Proofs.Mapper.Resolution
import MemBridge.Proofs.Mapper.Failure
import MemBridge.Proofs.Frame.Fallback
import MemBridge.Proofs.Store.Closed

/-!
Chains of mappers. Building a chain checks that each link writes where the next reads, naming the
first pair that does not meet (`Mapper.chain_is_checked_fold`). A chain maps as the fold of its
links' own mappings, each under a reference to what it is given (`Mapper.mapTensor_chain`). So a
chain of direct mappers keeps the mapper contract: its first link checks the source's kind, and
a result comes from the source through one object per link (`Mapper.mapper_contract`).
-/

namespace MemBridge

open Std.Do

set_option mvcgen.warning false

namespace Act

variable {w : World}

theorem run_bind_congr {α β : Type} {x y : Act α} {f g : α → Act β} (hxy : x.run w = y.run w)
    (hfg : ∀ a w', x.run w = .ok a w' → (f a).run w' = (g a).run w') :
    (x >>= f).run w = (y >>= g).run w := by
  rw [EStateM.run_bind, EStateM.run_bind, ← hxy]
  split
  · next a w' h => exact hfg a w' h
  · rfl

theorem run_keeping_congr {α : Type} {x y : Act α} (r : Ref) (h : x.run w = y.run w) :
    (keeping r x).run w = (keeping r y).run w := by
  apply run_bind_congr
  · rw [owning, owning, run_tryCatch, run_tryCatch, h]
  · intro _ _ _
    rfl

theorem run_forIn_passes {α : Type} {f : α → PUnit → Act (ForInStep PUnit)} (xs : List α)
    (h : ∀ x ∈ xs, (f x ⟨⟩).run w = .ok (.yield ⟨⟩) w) : (forIn xs ⟨⟩ f).run w = .ok ⟨⟩ w := by
  induction xs with
  | nil => rfl
  | cons x xs ih =>
    rw [List.forIn_cons, EStateM.run_bind, h x List.mem_cons_self]
    exact ih fun y hy => h y (List.mem_cons_of_mem x hy)

theorem exists_error_bind {α β δ : Type} {x : Act α} {k : α → Act β} (F : δ → Fault)
    (h : ∃ d w', x.run w = .error (F d) w') : ∃ d w', (x >>= k).run w = .error (F d) w' := by
  obtain ⟨d, w', hx⟩ := h
  exact ⟨d, w', by rw [EStateM.run_bind, hx]⟩

theorem run_forIn_stops {α δ : Type} {f : α → PUnit → Act (ForInStep PUnit)} (F : δ → Fault)
    (xs : List α) :
    ∀ (i : Nat) (hi : i < xs.length),
      (∀ j (hj : j < xs.length), j < i → (f xs[j] ⟨⟩).run w = .ok (.yield ⟨⟩) w) →
      (∃ d w', (f xs[i] ⟨⟩).run w = .error (F d) w') →
      ∃ d w', (forIn xs ⟨⟩ f).run w = .error (F d) w' := by
  induction xs with
  | nil => intro i hi; exact absurd hi (Nat.not_lt_zero _)
  | cons x xs ih =>
    intro i hi hpre hx
    rw [List.forIn_cons]
    cases i with
    | zero =>
      simp only [List.getElem_cons_zero] at hx
      exact exists_error_bind F hx
    | succ i =>
      rw [EStateM.run_bind, show (f x ⟨⟩).run w = .ok (.yield ⟨⟩) w from
        hpre 0 (by simp) (Nat.succ_pos i)]
      exact ih i (by simpa using hi)
        (fun j hj hji => hpre (j + 1) (by simpa using hj) (Nat.succ_lt_succ hji)) hx

theorem run_forIn_yields {α β : Type} {f : α → β → Act (ForInStep β)} (xs : List α)
    (h : ∀ x ∈ xs, ∀ b, ∃ b', (f x b).run w = .ok (.yield b') w) :
    ∀ b : β, ∃ v, (forIn xs b f).run w = .ok v w := by
  induction xs with
  | nil => intro b; exact ⟨b, rfl⟩
  | cons x xs ih =>
    intro b
    obtain ⟨b', hb'⟩ := h x List.mem_cons_self b
    rw [List.forIn_cons, EStateM.run_bind, hb']
    exact ih (fun y hy => h y (List.mem_cons_of_mem x hy)) b'


theorem keeping_run_ok {α : Type} {r : Ref} {x : Act α} {v : α}
    (h : (keeping r x).run w = .ok v w') :
    ∃ w₁, x.run w = .ok v w₁ ∧ (release r).run w₁ = .ok () w' := by
  obtain ⟨a, w₁, ho, h⟩ := bind_ok h
  obtain ⟨u, w₂, hrel, h⟩ := bind_ok h
  cases h
  -- an operation that ends well ends well under the reference, which is let go only on failure
  simp only [owning, run_tryCatch] at ho
  split at ho
  · next a' w'' hx =>
    cases ho
    exact ⟨_, hx, hrel⟩
  · next e w'' _ =>
    simp only [EStateM.run_bind] at ho
    split at ho <;> cases ho

theorem release_run_adds {r : Ref} (h : (release r).run w = .ok () w') : w.Adds w' := by
  have hadds := of_triple (@release_adds w r) (World.Adds.refl w)
  rw [h] at hadds
  exact hadds

theorem run_release_of_shared {r : Ref} {n : Node} (hn : w.nodes[r]? = some n)
    (hs : 1 < n.strong) : (release r).run w = .ok () (w.setStrong r n (n.strong - 1)) := by
  simp [release, runTasks, drain_release, run_node hn, hs, drain]

theorem setStrong_retain_release {r : Ref} {n : Node} (hn : w.nodes[r]? = some n) :
    (w.setStrong r n (n.strong + 1)).setStrong r { n with strong := n.strong + 1 } n.strong =
      w := by
  simp only [World.setStrong]
  congr 1
  apply Array.ext_getElem?
  intro j
  simp only [Array.set!_eq_setIfInBounds, Array.getElem?_setIfInBounds, Array.size_setIfInBounds]
  by_cases hj : r = j
  · subst hj
    obtain ⟨hr, hget⟩ := Array.getElem?_eq_some_iff.1 hn
    simp [hr, hget]
  · simp [hj]

theorem keeping_run_error {α : Type} {r : Ref} {x : Act α} {e : Fault} {w₁ w₂ : World}
    (hx : x.run w = .error e w₁) (hrel : (release r).run w₁ = .ok () w₂) :
    (keeping r x).run w = .error e w₂ := by
  simp only [keeping, owning, EStateM.run_bind, run_tryCatch, hx, hrel]
  rfl

end Act

namespace World

variable {w : World}

/-- Mapper `m` reads from context `i` and writes to context `o`. -/
structure Runs (w : World) (m i o : Ref) : Prop where
  input : w.InputIs m i
  output : w.OutputIs m o
  input_context : ∃ x, w.bodyAt i = some (.context x)
  output_context : ∃ x, w.bodyAt o = some (.context x)

def Meet (w : World) (a b : Ref) : Prop := ∃ c, w.OutputIs a c ∧ w.InputIs b c

theorem MappersNested.setStrong (hw : w.MappersNested) {r : Nat} {n : Node}
    (hn : w.nodes[r]? = some n) (k : Nat) : (w.setStrong r n k).MappersNested :=
  (show w.Extends 0 (w.setStrong r n k) from Extends.setStrong hn k).nested hw

theorem MappersNested.setCache (hw : w.MappersNested) {m : Ref} {c c' : Cache}
    (hm : w.bodyAt m = some (.mapper (.cache c)))
    (hs : (Mapper.cache c').skeleton = (Mapper.cache c).skeleton) :
    (w.setBody m (.mapper (.cache c'))).MappersNested :=
  (Extends.setMapper hm hs).nested hw


/-- `r` is reached from `src` through `links`, one object per link: each link relates what it
made to what it was given by `P`, starting from the source. -/
def Through (P : Ref → World → Ref → Ref → Prop) (w : World) : List Ref → Ref → Ref → Prop
  | [], r, src => r = src
  | l :: rest, r, src => ∃ t, P l w t src ∧ w.Through P rest r t

/-- Link `l` is a direct mapper and `t` a tensor it made from `src`: of its route's output kind,
holding its output context, with `src` as parent. -/
def TensorHop (l : Ref) (w : World) (t src : Ref) : Prop :=
  ∃ route i o d, w.bodyAt l = some (.mapper (.direct route i o d)) ∧
    w.MappedFrom t route.ends.2 o src

/-- Link `l` is a direct mapper and `g` a frame it made from `src`: of its route's output kind,
with `src` as parent, whose every tensor has that kind and holds its output context. -/
def FrameHop (l : Ref) (w : World) (g src : Ref) : Prop :=
  ∃ route i o d, w.bodyAt l = some (.mapper (.direct route i o d)) ∧
    w.FrameFrom g route.ends.2 o src

/-- The direct mappers `m` runs, in order: `m` itself when it is direct, its links when it is a
chain whose every link is direct. -/
def DirectHops (w : World) (m : Ref) (links : List Ref) : Prop :=
  ((∃ route i o d, w.bodyAt m = some (.mapper (.direct route i o d))) ∧ links = [m]) ∨
  ((∃ name, w.bodyAt m = some (.mapper (.chain links name))) ∧
    ∀ l ∈ links, ∃ route i o d, w.bodyAt l = some (.mapper (.direct route i o d)))

variable {w' : World}

theorem TensorHop.of_adds {l t src : Ref} (h : w.TensorHop l t src) (ha : w.Adds w') :
    w'.TensorHop l t src := by
  obtain ⟨route, i, o, d, hl, hm⟩ := h
  exact ⟨route, i, o, d, ha.mapper_at hl, hm.of_adds ha⟩

theorem FrameHop.of_adds {l g src : Ref} (h : w.FrameHop l g src) (ha : w.Adds w') :
    w'.FrameHop l g src := by
  obtain ⟨route, i, o, d, hl, hm⟩ := h
  exact ⟨route, i, o, d, ha.mapper_at hl, hm.of_adds ha⟩

end World

namespace Mapper

open Act World

variable {w w' : World} {mode : AccessMode}

theorem nested_of_retain (hw : w.MappersNested) {r : Ref} (h : (retain r).run w = .ok () w') :
    w'.MappersNested ∧ w'.nodes.size = w.nodes.size := by
  obtain ⟨n, hn, rfl⟩ := retain_run_ok h
  exact ⟨hw.setStrong hn _, setStrong_size _ _ _ _⟩

/-! ## The nesting fuel hides nothing -/

theorem keeping_tensorWith_extends (fuel : Nat) (l cur : Ref) (mode : AccessMode) (w₀ : World) :
    ⦃fun w => ⌜w₀.Extends (l + 1) w ∧ w.MappersNested⌝⦄ keeping cur (tensorWith fuel l cur mode)
    ⦃post⟨fun _ w => ⌜w₀.Extends (l + 1) w⌝, fun _ w => ⌜w₀.Extends (l + 1) w⌝⟩⦄ := by
  mvcgen [keeping, owning, tensorWith_extends]
  all_goals grind [World.Extends.refl]

theorem keeping_frameWith_extends (fuel : Nat) (l cur : Ref) (mode : AccessMode) (w₀ : World) :
    ⦃fun w => ⌜w₀.Extends (l + 1) w ∧ w.MappersNested⌝⦄ keeping cur (frameWith fuel l cur mode)
    ⦃post⟨fun _ w => ⌜w₀.Extends (l + 1) w⌝, fun _ w => ⌜w₀.Extends (l + 1) w⌝⟩⦄ := by
  mvcgen [keeping, owning, frameWith_extends]
  all_goals grind [World.Extends.refl]

theorem keeping_tensorWith_nested {fuel : Nat} {l cur r : Ref} (hw : w.MappersNested)
    (h : (keeping cur (tensorWith fuel l cur mode)).run w = .ok r w') :
    w'.MappersNested ∧ w.nodes.size ≤ w'.nodes.size := by
  have hk := of_triple (keeping_tensorWith_extends fuel l cur mode w) ⟨.refl _ w, hw⟩
  rw [h] at hk
  exact ⟨hk.nested hw, hk.size_le⟩

theorem keeping_frameWith_nested {fuel : Nat} {l cur r : Ref} (hw : w.MappersNested)
    (h : (keeping cur (frameWith fuel l cur mode)).run w = .ok r w') :
    w'.MappersNested ∧ w.nodes.size ≤ w'.nodes.size := by
  have hk := of_triple (keeping_frameWith_extends fuel l cur mode w) ⟨.refl _ w, hw⟩
  rw [h] at hk
  exact ⟨hk.nested hw, hk.size_le⟩

theorem chainTensor_fuel_congr {f g : Nat} {links : List Ref}
    (hrun : ∀ l ∈ links, ∀ (cur : Ref) (w : World), w.MappersNested →
      (tensorWith f l cur mode).run w = (tensorWith g l cur mode).run w) :
    ∀ (cur : Ref) (w : World), w.MappersNested →
      (chainTensor f links cur mode).run w = (chainTensor g links cur mode).run w := by
  induction links with
  | nil => intro cur w _; simp only [chainTensor]
  | cons l rest ih =>
    intro cur w hw
    simp only [chainTensor]
    apply run_bind_congr (run_keeping_congr cur (hrun l List.mem_cons_self cur w hw))
    intro next w₁ h₁
    exact ih (fun l' hl' => hrun l' (List.mem_cons_of_mem l hl')) next w₁
      (keeping_tensorWith_nested hw h₁).1

theorem chainFrame_fuel_congr {f g : Nat} {links : List Ref}
    (hrun : ∀ l ∈ links, ∀ (cur : Ref) (w : World), w.MappersNested →
      (frameWith f l cur mode).run w = (frameWith g l cur mode).run w) :
    ∀ (cur : Ref) (w : World), w.MappersNested →
      (chainFrame f links cur mode).run w = (chainFrame g links cur mode).run w := by
  induction links with
  | nil => intro cur w _; simp only [chainFrame]
  | cons l rest ih =>
    intro cur w hw
    simp only [chainFrame]
    apply run_bind_congr (run_keeping_congr cur (hrun l List.mem_cons_self cur w hw))
    intro next w₁ h₁
    exact ih (fun l' hl' => hrun l' (List.mem_cons_of_mem l hl')) next w₁
      (keeping_frameWith_nested hw h₁).1

theorem tensorWith_fuel_congr (f : Nat) :
    ∀ (g : Nat) (m src : Ref) (w : World), w.MappersNested → m < f → m < g →
      (tensorWith f m src mode).run w = (tensorWith g m src mode).run w := by
  -- each step runs only older mappers, with one step less fuel on both sides
  induction f with
  | zero => intro g m src w _ hf; exact absurd hf (Nat.not_lt_zero m)
  | succ f ih =>
    intro g m src w hw hf hg
    obtain ⟨g, rfl⟩ : ∃ g', g = g' + 1 := Nat.exists_eq_succ_of_ne_zero (Nat.ne_zero_of_lt hg)
    simp only [tensorWith]
    apply run_bind_congr rfl
    intro x w₁ hx
    obtain ⟨hm, rfl⟩ := mapper_run_ok hx
    cases x with
    | identity c => rfl
    | direct route i o d => rfl
    | chain links name =>
      apply run_bind_congr rfl
      intro _ w₂ h₂
      refine chainTensor_fuel_congr (fun l hl cur w₃ hw₃ => ?_) src w₂ (nested_of_retain hw h₂).1
      have hl : l < m := hw.link_lt hm hl
      exact ih g l cur w₃ hw₃ (Nat.lt_of_lt_of_le hl (Nat.le_of_lt_succ hf))
        (Nat.lt_of_lt_of_le hl (Nat.le_of_lt_succ hg))
    | cache c =>
      apply run_bind_congr rfl
      intro h w₂ h₂
      obtain ⟨t, -, -, rfl⟩ := Tensor.handleOf_run_ok h₂
      rcases hs : slotFor c.tensors h mode with ⟨slot, slots⟩
      apply run_bind_congr rfl
      intro _ w₃ h₃
      rw [run_setCache] at h₃
      cases h₃
      cases hv : slot.value with
      | some v => rfl
      | none =>
        dsimp only
        have hi : c.inner < m := hw.inner_lt hm
        refine run_bind_congr (ih g c.inner src _ ?_ (Nat.lt_of_lt_of_le hi (Nat.le_of_lt_succ hf))
          (Nat.lt_of_lt_of_le hi (Nat.le_of_lt_succ hg))) fun _ _ _ => rfl
        -- the slot made for the source keeps what the cache fronts
        exact hw.setCache hm rfl

theorem frameWith_fuel_congr (f : Nat) :
    ∀ (g : Nat) (m src : Ref) (w : World), w.MappersNested → m < f → m < g →
      (frameWith f m src mode).run w = (frameWith g m src mode).run w := by
  induction f with
  | zero => intro g m src w _ hf; exact absurd hf (Nat.not_lt_zero m)
  | succ f ih =>
    intro g m src w hw hf hg
    obtain ⟨g, rfl⟩ : ∃ g', g = g' + 1 := Nat.exists_eq_succ_of_ne_zero (Nat.ne_zero_of_lt hg)
    simp only [frameWith]
    apply run_bind_congr rfl
    intro x w₁ hx
    obtain ⟨hm, rfl⟩ := mapper_run_ok hx
    cases x with
    | identity c => rfl
    | direct route i o d => rfl
    | chain links name =>
      apply run_bind_congr rfl
      intro _ w₂ h₂
      refine chainFrame_fuel_congr (fun l hl cur w₃ hw₃ => ?_) src w₂ (nested_of_retain hw h₂).1
      have hl : l < m := hw.link_lt hm hl
      exact ih g l cur w₃ hw₃ (Nat.lt_of_lt_of_le hl (Nat.le_of_lt_succ hf))
        (Nat.lt_of_lt_of_le hl (Nat.le_of_lt_succ hg))
    | cache c =>
      apply run_bind_congr rfl
      intro t₀ w₂ h₂
      obtain ⟨-, -, -, rfl⟩ := Frame.tensorAt_run_ok h₂
      apply run_bind_congr rfl
      intro h w₃ h₃
      obtain ⟨t, -, -, rfl⟩ := Tensor.handleOf_run_ok h₃
      rcases hs : slotFor c.frames h mode with ⟨slot, slots⟩
      apply run_bind_congr rfl
      intro _ w₄ h₄
      rw [run_setCache] at h₄
      cases h₄
      cases hv : slot.value with
      | some v => rfl
      | none =>
        dsimp only
        have hi : c.inner < m := hw.inner_lt hm
        refine run_bind_congr (ih g c.inner src _ ?_ (Nat.lt_of_lt_of_le hi (Nat.le_of_lt_succ hf))
          (Nat.lt_of_lt_of_le hi (Nat.le_of_lt_succ hg))) fun _ _ _ => rfl
        -- the slot made for the source keeps what the cache fronts
        exact hw.setCache hm rfl

/-! ## A chain folds its links -/

theorem chainTensor_eq_fold {fuel : Nat} (links : List Ref) :
    ∀ (cur : Ref) (w : World), w.MappersNested → (∀ l ∈ links, l < fuel ∧ l < w.nodes.size) →
      (chainTensor fuel links cur mode).run w =
        (links.foldlM (fun cur l => keeping cur (mapTensor l cur mode)) cur).run w := by
  induction links with
  | nil => intro cur w _ _; simp only [chainTensor, List.foldlM_nil]
  | cons l rest ih =>
    intro cur w hw hl
    obtain ⟨hf, hs⟩ := hl l List.mem_cons_self
    simp only [chainTensor, List.foldlM_cons]
    refine run_bind_congr (run_keeping_congr cur ?_) fun next w₁ h₁ => ?_
    · rw [run_mapTensor]
      exact tensorWith_fuel_congr fuel _ l cur w hw hf (Nat.lt_succ_of_lt hs)
    · obtain ⟨hw₁, hsize⟩ := keeping_tensorWith_nested hw h₁
      refine ih next w₁ hw₁ fun l' hl' => ?_
      obtain ⟨hf', hs'⟩ := hl l' (List.mem_cons_of_mem l hl')
      exact ⟨hf', Nat.lt_of_lt_of_le hs' hsize⟩

theorem chainFrame_eq_fold {fuel : Nat} (links : List Ref) :
    ∀ (cur : Ref) (w : World), w.MappersNested → (∀ l ∈ links, l < fuel ∧ l < w.nodes.size) →
      (chainFrame fuel links cur mode).run w =
        (links.foldlM (fun cur l => keeping cur (mapFrame l cur mode)) cur).run w := by
  induction links with
  | nil => intro cur w _ _; simp only [chainFrame, List.foldlM_nil]
  | cons l rest ih =>
    intro cur w hw hl
    obtain ⟨hf, hs⟩ := hl l List.mem_cons_self
    simp only [chainFrame, List.foldlM_cons]
    refine run_bind_congr (run_keeping_congr cur ?_) fun next w₁ h₁ => ?_
    · rw [run_mapFrame]
      exact frameWith_fuel_congr fuel _ l cur w hw hf (Nat.lt_succ_of_lt hs)
    · obtain ⟨hw₁, hsize⟩ := keeping_frameWith_nested hw h₁
      refine ih next w₁ hw₁ fun l' hl' => ?_
      obtain ⟨hf', hs'⟩ := hl l' (List.mem_cons_of_mem l hl')
      exact ⟨hf', Nat.lt_of_lt_of_le hs' hsize⟩

theorem mapTensor_chain {m : Ref} {links : List Ref} {name : String} (hw : w.MappersNested)
    (hm : w.bodyAt m = some (.mapper (.chain links name))) (src : Ref) (mode : AccessMode) :
    (mapTensor m src mode).run w =
      (do retain src; links.foldlM (fun cur l => keeping cur (mapTensor l cur mode)) src :
        Act Ref).run w := by
  rw [run_mapTensor]
  simp only [tensorWith]
  rw [EStateM.run_bind, run_mapper hm]
  apply run_bind_congr rfl
  intro _ w₁ h₁
  obtain ⟨hw₁, hsize⟩ := nested_of_retain hw h₁
  refine chainTensor_eq_fold links src w₁ hw₁ fun l hl => ?_
  have hlt : l < w.nodes.size := Nat.lt_trans (hw.link_lt hm hl) (lt_size_of_bodyAt hm)
  exact ⟨hlt, hsize ▸ hlt⟩

theorem mapFrame_chain {m : Ref} {links : List Ref} {name : String} (hw : w.MappersNested)
    (hm : w.bodyAt m = some (.mapper (.chain links name))) (src : Ref) (mode : AccessMode) :
    (mapFrame m src mode).run w =
      (do retain src; links.foldlM (fun cur l => keeping cur (mapFrame l cur mode)) src :
        Act Ref).run w := by
  rw [run_mapFrame]
  simp only [frameWith]
  rw [EStateM.run_bind, run_mapper hm]
  apply run_bind_congr rfl
  intro _ w₁ h₁
  obtain ⟨hw₁, hsize⟩ := nested_of_retain hw h₁
  refine chainFrame_eq_fold links src w₁ hw₁ fun l hl => ?_
  have hlt : l < w.nodes.size := Nat.lt_trans (hw.link_lt hm hl) (lt_size_of_bodyAt hm)
  exact ⟨hlt, hsize ▸ hlt⟩

/-! ## Building a chain -/

theorem mem_pairs {l : List Ref} {x : (Ref × Ref) × Nat} (hx : x ∈ (l.zip l.tail).zipIdx) :
    ∃ j, ∃ hj : j + 1 < l.length, x = ((l[j], l[j + 1]), j) := by
  obtain ⟨k, hk, rfl⟩ := List.mem_iff_getElem.1 hx
  simp only [List.length_zipIdx, List.length_zip, List.length_tail] at hk
  exact ⟨k, by omega, by simp [List.getElem_zipIdx, List.getElem_zip, List.getElem_tail]⟩

theorem getElem_pairs (l : List Ref) {j : Nat} (hj : j < ((l.zip l.tail).zipIdx).length) :
    ∃ hj' : j + 1 < l.length, ((l.zip l.tail).zipIdx)[j] = ((l[j], l[j + 1]), j) := by
  simp only [List.length_zipIdx, List.length_zip, List.length_tail] at hj
  exact ⟨by omega, by simp [List.getElem_zipIdx, List.getElem_zip, List.getElem_tail]⟩

theorem run_nameOf {a : Ref} {x : Mapper} (ha : w.bodyAt a = some (.mapper x)) :
    ∃ s, (nameOf a).run w = .ok s w := by
  simp only [nameOf, EStateM.run_bind, run_mapper ha]
  cases x <;> exact ⟨_, rfl⟩

theorem run_contextPieces {c : Ref} {x : Context} (hc : w.bodyAt c = some (.context x)) :
    ∃ ps, (contextPieces c).run w = .ok ps w := by
  simp only [contextPieces, EStateM.run_bind, run_context hc]
  exact ⟨_, rfl⟩

theorem makeChain_nil : (makeChain []).run w = .error (.chainBroken 0 [.text "chain has no mappers"]) w :=
  rfl

theorem makeChain_meets (hw : w.MappersNested) {l : Ref} {rest : List Ref}
    (hruns : ∀ x ∈ l :: rest, ∃ i o, w.Runs x i o)
    (hmeet : ∀ j (hj : j + 1 < (l :: rest).length), w.Meet (l :: rest)[j] (l :: rest)[j + 1]) :
    ∃ name, (makeChain (l :: rest)).run w =
      .ok w.nodes.size (w.push ⟨1, .mapper (.chain (l :: rest) name)⟩) := by
  obtain ⟨i, o, hl⟩ := hruns l List.mem_cons_self
  obtain ⟨xi, hxi⟩ := hl.input_context
  -- the name reads the kind of each link's output, after the kind of the first link's input
  obtain ⟨v, hv⟩ : ∃ v, (forIn (l :: rest) (toString "chain(" ++ toString xi.backend.kind.name)
      fun l s => do
        let k ← Context.kindOf (← output l)
        pure (ForInStep.yield (s ++ " -> " ++ k.name)) : Act String).run w = .ok v w := by
    refine run_forIn_yields _ (fun x hx b => ?_) _
    obtain ⟨_, ox, hx'⟩ := hruns x hx
    obtain ⟨xo, hxo⟩ := hx'.output_context
    simp only [EStateM.run_bind, run_output hw hx'.output, run_kindOf hxo]
    exact ⟨_, rfl⟩
  unfold makeChain
  simp only [pure_bind]
  rw [EStateM.run_bind, run_forIn_passes]
  · simp only [EStateM.run_bind, run_input hw hl.input, run_kindOf hxi, hv]
    exact ⟨_, run_create _⟩
  · -- every neighbouring pair meets, so the check goes on at each
    intro x hx
    obtain ⟨j, hj, rfl⟩ := mem_pairs hx
    obtain ⟨c, ho, hi⟩ := hmeet j hj
    simp only [EStateM.run_bind, run_output hw ho, run_input hw hi]
    simp

theorem makeChain_breaks (hw : w.MappersNested) (hc : w.Closed) {links : List Ref}
    (hruns : ∀ x ∈ links, ∃ i o, w.Runs x i o) {i : Nat} (hi : i + 1 < links.length)
    (hpre : ∀ j (hj : j + 1 < links.length), j < i → w.Meet links[j] links[j + 1])
    (hbad : ¬ w.Meet links[i] links[i + 1]) :
    ∃ d w', (makeChain links).run w = .error (.chainBroken (i + 1) d) w' := by
  obtain ⟨l, rest, rfl⟩ : ∃ l rest, links = l :: rest :=
    List.exists_cons_of_length_pos (Nat.lt_of_le_of_lt (Nat.zero_le _) hi)
  have hpairs : i < (((l :: rest).zip (l :: rest).tail).zipIdx).length := by
    simp only [List.length_zipIdx, List.length_zip, List.length_tail] at hi ⊢
    omega
  unfold makeChain
  simp only [pure_bind]
  apply exists_error_bind (Fault.chainBroken (i + 1))
  apply run_forIn_stops (Fault.chainBroken (i + 1)) _ i hpairs
  · -- the pairs before `i` meet, so the check goes on past them
    intro j hj hji
    obtain ⟨hj', heq⟩ := getElem_pairs _ hj
    obtain ⟨c, ho, hi⟩ := hpre j hj' hji
    rw [heq]
    simp only [EStateM.run_bind, run_output hw ho, run_input hw hi]
    simp
  · obtain ⟨hi', heq⟩ := getElem_pairs _ hpairs
    obtain ⟨_, o, ha⟩ := hruns _ (List.getElem_mem hi'.le)
    obtain ⟨n, _, hb⟩ := hruns _ (List.getElem_mem hi')
    have hne : o ≠ n := fun h => hbad ⟨o, ha.output, h ▸ hb.input⟩
    obtain ⟨xa, hxa⟩ := ha.output.exists_mapper
    obtain ⟨xb, hxb⟩ := hb.input.exists_mapper
    obtain ⟨sa, hsa⟩ := run_nameOf hxa
    obtain ⟨sb, hsb⟩ := run_nameOf hxb
    obtain ⟨xo, hxo⟩ := ha.output_context
    obtain ⟨xn, hxn⟩ := hb.input_context
    obtain ⟨po, hpo⟩ := run_contextPieces hxo
    obtain ⟨pn, hpn⟩ := run_contextPieces hxn
    -- every link is an object of the store, so letting them all go goes through
    obtain ⟨w₁, hrel, -⟩ := releaseAll_closed hc fun q hq => by
      obtain ⟨_, _, hq'⟩ := hruns q hq
      obtain ⟨_, hxq⟩ := hq'.input.exists_mapper
      exact lt_size_of_bodyAt hxq
    rw [heq]
    simp only [EStateM.run_bind, run_output hw ha.output, run_input hw hb.input]
    rw [if_pos hne]
    simp only [EStateM.run_bind, hsa, hsb, hpo, hpn, hrel]
    exact ⟨_, _, rfl⟩

theorem exists_first_break {links : List Ref}
    (h : ¬ ∀ j (hj : j + 1 < links.length), w.Meet links[j] links[j + 1]) :
    ∃ i, ∃ hi : i + 1 < links.length,
      (∀ j (hj : j + 1 < links.length), j < i → w.Meet links[j] links[j + 1]) ∧
        ¬ w.Meet links[i] links[i + 1] := by
  classical
  have hex : ∃ i, ∃ hi : i + 1 < links.length, ¬ w.Meet links[i] links[i + 1] := by
    simpa only [not_forall] using h
  obtain ⟨hi, hbad⟩ := Nat.find_spec hex
  refine ⟨Nat.find hex, hi, fun j hj hji => ?_, hbad⟩
  -- an earlier pair that did not meet would have been found first
  by_contra hj'
  exact Nat.find_min hex hji ⟨hj, hj'⟩

theorem makeChain_ok_iff (hw : w.MappersNested) (hc : w.Closed) {links : List Ref}
    (hruns : ∀ x ∈ links, ∃ i o, w.Runs x i o) :
    (∃ r w', (makeChain links).run w = .ok r w') ↔
      links ≠ [] ∧ ∀ j (hj : j + 1 < links.length), w.Meet links[j] links[j + 1] := by
  constructor
  · rintro ⟨r, w', hok⟩
    refine ⟨?_, ?_⟩
    · rintro rfl
      rw [makeChain_nil] at hok
      cases hok
    · by_contra hall
      obtain ⟨i, hi, hpre, hbad⟩ := exists_first_break hall
      obtain ⟨d, w'', herr⟩ := makeChain_breaks hw hc hruns hi hpre hbad
      rw [herr] at hok
      cases hok
  · rintro ⟨hne, hmeet⟩
    obtain ⟨l, rest, rfl⟩ := List.exists_cons_of_ne_nil hne
    obtain ⟨name, hok⟩ := makeChain_meets hw hruns hmeet
    exact ⟨_, _, hok⟩

theorem makeChain_folds (hw : w.MappersNested) {f e i o : Ref} {links : List Ref}
    (hruns : ∀ x ∈ links, ∃ i o, w.Runs x i o) (hf : links.head? = some f)
    (he : links.getLast? = some e) (hi : w.InputIs f i) (ho : w.OutputIs e o)
    (hmeet : ∀ j (hj : j + 1 < links.length), w.Meet links[j] links[j + 1]) :
    ∃ w', (makeChain links).run w = .ok w.nodes.size w' ∧
      (∃ name, w' = w.push ⟨1, .mapper (.chain links name)⟩) ∧
      w'.InputIs w.nodes.size i ∧ w'.OutputIs w.nodes.size o ∧
      ∀ src mode,
        (mapTensor w.nodes.size src mode).run w' =
          (do retain src; links.foldlM (fun cur l => keeping cur (mapTensor l cur mode)) src :
            Act Ref).run w' ∧
        (mapFrame w.nodes.size src mode).run w' =
          (do retain src; links.foldlM (fun cur l => keeping cur (mapFrame l cur mode)) src :
            Act Ref).run w' := by
  obtain ⟨rest, rfl⟩ : ∃ rest, links = f :: rest := by
    cases links with
    | nil => simp at hf
    | cons l rest => exact ⟨rest, by simpa using hf⟩
  obtain ⟨name, hok⟩ := makeChain_meets hw hruns hmeet
  have hm : (w.push ⟨1, .mapper (.chain (f :: rest) name)⟩).bodyAt w.nodes.size =
      some (.mapper (.chain (f :: rest) name)) := bodyAt_push_size _ _
  -- every link is older than the chain, so the chain keeps the mappers nested
  have hlt : ∀ c ∈ (Mapper.chain (f :: rest) name).children, c < w.nodes.size := by
    intro c hc
    obtain ⟨_, _, hr⟩ := hruns c (by simpa [Mapper.children] using hc)
    obtain ⟨_, hx⟩ := hr.input.exists_mapper
    exact lt_size_of_bodyAt hx
  have hw' : (w.push ⟨1, .mapper (.chain (f :: rest) name)⟩).MappersNested := hw.push_mapper hlt
  have hk := (Keeps.push ⟨1, .mapper (.chain (f :: rest) name)⟩ : w.Keeps _).skeletons
  exact ⟨_, hok, ⟨name, rfl⟩, .chain hm (hi.of_keeps hk), .chain hm he (ho.of_keeps hk),
    fun src mode => ⟨mapTensor_chain hw' hm src mode, mapFrame_chain hw' hm src mode⟩⟩

/-- Building a chain checks its neighbouring links in order. It goes through exactly when there
are links and each writes where the next reads; an empty list is refused at index 0, and
otherwise the first pair that does not meet is named by the index of its second link. The chain
it makes reads where its first link reads, writes where its last link writes, and maps a tensor
or a frame as the fold of its links' own mappings, which stops at the first link that fails. -/
theorem chain_is_checked_fold (hw : w.MappersNested) (hc : w.Closed) {links : List Ref}
    (hruns : ∀ x ∈ links, ∃ i o, w.Runs x i o) :
    ((∃ r w', (makeChain links).run w = .ok r w') ↔
      links ≠ [] ∧ ∀ j (hj : j + 1 < links.length), w.Meet links[j] links[j + 1]) ∧
    (links = [] →
      (makeChain links).run w = .error (.chainBroken 0 [.text "chain has no mappers"]) w) ∧
    (∀ i (hi : i + 1 < links.length),
      (∀ j (hj : j + 1 < links.length), j < i → w.Meet links[j] links[j + 1]) →
      ¬ w.Meet links[i] links[i + 1] →
      ∃ d w', (makeChain links).run w = .error (.chainBroken (i + 1) d) w') ∧
    (∀ {f e i o : Ref}, links.head? = some f → links.getLast? = some e →
      w.InputIs f i → w.OutputIs e o →
      (∀ j (hj : j + 1 < links.length), w.Meet links[j] links[j + 1]) →
      ∃ w', (makeChain links).run w = .ok w.nodes.size w' ∧
        (∃ name, w' = w.push ⟨1, .mapper (.chain links name)⟩) ∧
        w'.InputIs w.nodes.size i ∧ w'.OutputIs w.nodes.size o ∧
        ∀ src mode,
          (mapTensor w.nodes.size src mode).run w' =
            (do retain src; links.foldlM (fun cur l => keeping cur (mapTensor l cur mode)) src :
              Act Ref).run w' ∧
          (mapFrame w.nodes.size src mode).run w' =
            (do retain src; links.foldlM (fun cur l => keeping cur (mapFrame l cur mode)) src :
              Act Ref).run w') :=
  ⟨makeChain_ok_iff hw hc hruns, fun h => by subst h; exact makeChain_nil,
    fun _ hi hpre hbad => makeChain_breaks hw hc hruns hi hpre hbad,
    fun hf he hi ho hmeet => makeChain_folds hw hruns hf he hi ho hmeet⟩

def roundTripWorld : World where
  nodes := #[⟨1, .context ⟨0, none, .plain .cpu, []⟩⟩,
    ⟨1, .context ⟨1, none, .plain .openVino, []⟩⟩, ⟨1, .mapper (.direct .cpuToOpenVino 0 1 none)⟩,
    ⟨1, .mapper (.direct .openVinoToCpu 1 0 none)⟩]

/-- There and back makes a chain from the CPU context to itself; going there twice breaks at the
second link, which reads from the CPU context the first does not write to. -/
theorem round_trip_chain_checked :
    (∃ w', (makeChain [2, 3]).run roundTripWorld = .ok 4 w' ∧
      w'.InputIs 4 0 ∧ w'.OutputIs 4 0) ∧
    ∃ d w', (makeChain [2, 2]).run roundTripWorld = .error (.chainBroken 1 d) w' := by
  have hn : roundTripWorld.MappersNested := by
    rintro (_ | _ | _ | _ | r) m hm <;> simp [roundTripWorld, World.bodyAt] at hm <;> subst hm <;>
      simp [Mapper.children]
  have hc : roundTripWorld.Closed := by
    constructor
    · rintro (_ | _ | _ | _ | r) x hx <;> simp [roundTripWorld, World.bodyAt] at hx <;> subst hx <;>
        simp [Body.refs, Body.backendRefs, roundTripWorld]
    · rintro (_ | _ | _ | _ | r) x d hx <;> simp [roundTripWorld, World.bodyAt] at hx <;>
        subst hx <;> simp [Body.home?]
  have h2 : roundTripWorld.Runs 2 0 1 :=
    ⟨.direct rfl, .direct rfl, ⟨_, rfl⟩, ⟨_, rfl⟩⟩
  have h3 : roundTripWorld.Runs 3 1 0 :=
    ⟨.direct rfl, .direct rfl, ⟨_, rfl⟩, ⟨_, rfl⟩⟩
  have hr23 : ∀ x ∈ [2, 3], ∃ i o, roundTripWorld.Runs x i o := by
    intro x hx
    simp only [List.mem_cons, List.not_mem_nil, or_false] at hx
    rcases hx with rfl | rfl
    exacts [⟨_, _, h2⟩, ⟨_, _, h3⟩]
  have hr22 : ∀ x ∈ [2, 2], ∃ i o, roundTripWorld.Runs x i o := by
    intro x hx
    simp only [List.mem_cons, List.not_mem_nil, or_false, or_self] at hx
    subst hx
    exact ⟨_, _, h2⟩
  have hmeet : ∀ j (hj : j + 1 < [2, 3].length), roundTripWorld.Meet [2, 3][j] [2, 3][j + 1] := by
    intro j hj
    obtain rfl : j = 0 := by simp at hj; omega
    exact ⟨1, h2.output, h3.input⟩
  -- the first link writes to the OpenVINO context, and the second reads from the CPU one
  have hbad : ¬ roundTripWorld.Meet [2, 2][0] [2, 2][0 + 1] := by
    rintro ⟨c, ho, hi⟩
    have h1 : c = 1 := ho.unique h2.output
    have h0 : c = 0 := hi.unique h2.input
    exact absurd (h1.symm.trans h0) (by decide)
  obtain ⟨w', hok, -, hin, hout, -⟩ :=
    (chain_is_checked_fold hn hc hr23).2.2.2 rfl rfl h2.input h3.output hmeet
  exact ⟨⟨w', hok, hin, hout⟩,
    (chain_is_checked_fold hn hc hr22).2.2.1 0 (by decide) (fun j _ hj => absurd hj (Nat.not_lt_zero j))
      hbad⟩


/-! ## The contract along a chain -/

theorem run_fold_keeping_through {P : Ref → World → Ref → Ref → Prop}
    {step : Ref → Ref → Act Ref} {w₀ : World} {links : List Ref}
    (hstep : ∀ l ∈ links, ∀ cur w₁ r w₂, w₀.Adds w₁ → (step l cur).run w₁ = .ok r w₂ →
      w₁.Adds w₂ ∧ P l w₂ r cur)
    (hP : ∀ l w w' r cur, P l w r cur → w.Adds w' → P l w' r cur) :
    ∀ src w₁ r w', w₀.Adds w₁ →
      (links.foldlM (fun cur l => keeping cur (step l cur)) src).run w₁ = .ok r w' →
      w₁.Adds w' ∧ w'.Through P links r src := by
  induction links with
  | nil =>
    intro src w₁ r w' _ h
    cases h
    exact ⟨Adds.refl _, rfl⟩
  | cons l rest ih =>
    intro src w₁ r w' h₀ h
    rw [List.foldlM_cons] at h
    obtain ⟨next, w₂, hkeep, hrest⟩ := bind_ok h
    obtain ⟨w₃, hrun, hrel⟩ := keeping_run_ok hkeep
    obtain ⟨h₁₃, hP₃⟩ := hstep l List.mem_cons_self src w₁ next w₃ h₀ hrun
    -- the reference to what the link was given is let go, which only adds to the world
    have h₁₂ := h₁₃.trans (release_run_adds hrel)
    obtain ⟨h₂', hthrough⟩ := ih (fun l' hl' => hstep l' (List.mem_cons_of_mem l hl')) next w₂ r
      w' (h₀.trans h₁₂) hrest
    exact ⟨h₁₂.trans h₂', next, hP l _ _ _ _ hP₃ ((release_run_adds hrel).trans h₂'), hthrough⟩

theorem run_retain_fold_through {P : Ref → World → Ref → Ref → Prop}
    {step : Ref → Ref → Act Ref} {links : List Ref} {src r : Ref}
    (hstep : ∀ l ∈ links, ∀ cur w₁ r w₂, w.Adds w₁ → (step l cur).run w₁ = .ok r w₂ →
      w₁.Adds w₂ ∧ P l w₂ r cur)
    (hP : ∀ l w w' r cur, P l w r cur → w.Adds w' → P l w' r cur)
    (h : (do retain src; links.foldlM (fun cur l => keeping cur (step l cur)) src : Act Ref).run w =
      .ok r w') :
    w'.Through P links r src := by
  obtain ⟨u, w₁, hret, h⟩ := bind_ok h
  obtain ⟨n, hn, rfl⟩ := retain_run_ok hret
  exact (run_fold_keeping_through hstep hP src _ r w' ((Adds.refl w).trans_setStrong hn) h).2

theorem mapTensor_direct_hop {l cur r : Ref} {route : Route} {i o : Ref} {d : Option Ref}
    (hl : w.bodyAt l = some (.mapper (.direct route i o d)))
    (h : (mapTensor l cur mode).run w = .ok r w') : w.Adds w' ∧ w'.TensorHop l r cur := by
  have hmaps := of_triple (routeTensor_maps route i o d cur) (Adds.refl w)
  rw [← tensorWith_direct w.nodes.size hl, ← run_mapTensor, h] at hmaps
  exact ⟨hmaps.1, route, i, o, d, hmaps.1.mapper_at hl, hmaps.2⟩

theorem mapFrame_direct_hop {l cur g : Ref} {route : Route} {i o : Ref} {d : Option Ref}
    (hl : w.bodyAt l = some (.mapper (.direct route i o d)))
    (h : (mapFrame l cur mode).run w = .ok g w') : w.Adds w' ∧ w'.FrameHop l g cur := by
  have hmaps := of_triple (routeFrame_maps route i o d cur) (Adds.refl w)
  rw [← frameWith_direct w.nodes.size hl, ← run_mapFrame, h] at hmaps
  exact ⟨hmaps.1, route, i, o, d, hmaps.1.mapper_at hl, hmaps.2⟩

theorem run_retain_fold_error {step : Ref → Ref → Act Ref} {l src : Ref} {rest : List Ref}
    {e : Fault} (hsrc : 0 < w.strongAt src)
    (hfirst : ∀ w₁ : World, (∀ r, w₁.bodyAt r = w.bodyAt r) → (step l src).run w₁ = .error e w₁) :
    (do retain src; (l :: rest).foldlM (fun cur l => keeping cur (step l cur)) src : Act Ref).run w =
      .error e w := by
  obtain ⟨n, hn⟩ : ∃ n, w.nodes[src]? = some n := by
    cases h : w.nodes[src]? with
    | none => simp [strongAt, h] at hsrc
    | some n => exact ⟨n, rfl⟩
  have hstrong : 0 < n.strong := by simpa [strongAt, hn] using hsrc
  have hn₁ : (w.setStrong src n (n.strong + 1)).nodes[src]? =
      some { n with strong := n.strong + 1 } := by
    simp [setStrong, (Array.getElem?_eq_some_iff.1 hn).1]
  -- the source is held by its caller too, so letting it go only takes the count back down
  have hrel : (release src).run (w.setStrong src n (n.strong + 1)) = .ok () w := by
    rw [run_release_of_shared hn₁ (by simp only; omega), Nat.add_sub_cancel]
    exact congrArg _ (setStrong_retain_release hn)
  rw [EStateM.run_bind, run_retain hn, List.foldlM_cons]
  exact run_bind_of_error (keeping_run_error (hfirst _ (bodyAt_setStrong hn _)) hrel)

/-- The contract of a direct mapper and of a chain of direct mappers. A source of another kind
than the first link's input context is refused with a type mismatch by that link, and nothing
changes: no native call is made and nothing is handed out. A result is reached from the source
through one object per link, each of that link's output kind, holding its output context and with
the object before it as parent; so the result has the last link's kind and context. -/
theorem mapper_contract {m l : Ref} {rest : List Ref} {route : Route} {i o : Ref}
    {d : Option Ref} {x : Context} {src : Ref} (hw : w.MappersNested)
    (hm : w.DirectHops m (l :: rest)) (hl : w.bodyAt l = some (.mapper (.direct route i o d)))
    (hi : w.bodyAt i = some (.context x))
    (hd : d.isSome ∨ route = .cpuToOpenVino ∨ route = .openVinoToCpu) (hsrc : 0 < w.strongAt src)
    (mode : AccessMode) :
    (∀ t, w.bodyAt src = some (.tensor t) → t.kind ≠ x.backend.kind →
      (mapTensor m src mode).run w = .error (.typeMismatch x.backend.kind t.kind) w) ∧
    (∀ f, w.bodyAt src = some (.frame f) → f.kind ≠ x.backend.kind →
      (mapFrame m src mode).run w = .error (.typeMismatch x.backend.kind f.kind) w) ∧
    (∀ r w', (mapTensor m src mode).run w = .ok r w' → w'.Through TensorHop (l :: rest) r src) ∧
    (∀ g w', (mapFrame m src mode).run w = .ok g w' → w'.Through FrameHop (l :: rest) g src) := by
  rcases hm with ⟨-, hlinks⟩ | ⟨⟨name, hm⟩, hdirect⟩
  · -- a direct mapper is its own one link
    obtain ⟨rfl, rfl⟩ := List.cons_eq_cons.1 hlinks
    exact ⟨fun t ht hk => (direct_mapper_contract hl hi hd mode).1 t ht hk,
      fun f hf hk => (direct_mapper_contract hl hi hd mode).2.1 f hf hk,
      fun r w' h => ⟨r, (mapTensor_direct_hop hl h).2, rfl⟩,
      fun g w' h => ⟨g, (mapFrame_direct_hop hl h).2, rfl⟩⟩
  -- a chain: its first link checks the kind, and each link adds one object
  have hstep (l' : Ref) (hl' : l' ∈ l :: rest) (w₁ : World) (h₀ : w.Adds w₁) :
      ∃ route i o d, w₁.bodyAt l' = some (.mapper (.direct route i o d)) := by
    obtain ⟨route, i, o, d, h⟩ := hdirect l' hl'
    exact ⟨route, i, o, d, h₀.mapper_at h⟩
  refine ⟨fun t ht hk => ?_, fun f hf hk => ?_, fun r w' h => ?_, fun g w' h => ?_⟩
  · rw [mapTensor_chain hw hm]
    refine run_retain_fold_error hsrc fun w₁ hb => ?_
    rw [← hb] at hl hi ht
    exact (direct_mapper_contract hl hi hd mode).1 t ht hk
  · rw [mapFrame_chain hw hm]
    refine run_retain_fold_error hsrc fun w₁ hb => ?_
    rw [← hb] at hl hi hf
    exact (direct_mapper_contract hl hi hd mode).2.1 f hf hk
  · rw [mapTensor_chain hw hm] at h
    refine run_retain_fold_through (fun l' hl' cur w₁ r w₂ h₀ hrun => ?_)
      (fun _ _ _ _ _ hp ha => hp.of_adds ha) h
    obtain ⟨route, i, o, d, hl'⟩ := hstep l' hl' w₁ h₀
    exact mapTensor_direct_hop hl' hrun
  · rw [mapFrame_chain hw hm] at h
    refine run_retain_fold_through (fun l' hl' cur w₁ g w₂ h₀ hrun => ?_)
      (fun _ _ _ _ _ hp ha => hp.of_adds ha) h
    obtain ⟨route, i, o, d, hl'⟩ := hstep l' hl' w₁ h₀
    exact mapFrame_direct_hop hl' hrun

def dmaDescriptorTensor : Tensor where
  kind := .dma
  layout := ⟨[4], [1], .uint8⟩
  handles := [("dma_fd", .num 17)]
  primary := "dma_fd"

/-- The round-trip world with a chain (4) of its two direct mappers and a DMA tensor (5). -/
def roundTripChainWorld : World where
  nodes := roundTripWorld.nodes ++
    #[⟨1, .mapper (.chain [2, 3] "cpu_to_openvino+openvino_to_cpu")⟩,
      ⟨1, .tensor dmaDescriptorTensor⟩]

/-- The chain there and back refuses a DMA tensor at its first link, which reads from the CPU
context, and leaves the world as it was. -/
theorem round_trip_chain_refuses_dma :
    (mapTensor 4 5 .read).run roundTripChainWorld =
      .error (.typeMismatch .cpu .dma) roundTripChainWorld := by
  have hn : roundTripChainWorld.MappersNested := by
    rintro (_ | _ | _ | _ | _ | _ | r) m hm <;>
      simp [roundTripChainWorld, roundTripWorld, World.bodyAt] at hm <;> subst hm <;>
      simp [Mapper.children]
  have hhops : roundTripChainWorld.DirectHops 4 [2, 3] := by
    refine .inr ⟨⟨_, rfl⟩, fun l hl => ?_⟩
    simp only [List.mem_cons, List.not_mem_nil, or_false] at hl
    rcases hl with rfl | rfl
    exacts [⟨_, _, _, _, rfl⟩, ⟨_, _, _, _, rfl⟩]
  exact (mapper_contract hn hhops rfl rfl (.inr (.inl rfl))
    (show 0 < roundTripChainWorld.strongAt 5 by decide) .read).1 dmaDescriptorTensor rfl (by decide)

end Mapper

end MemBridge
