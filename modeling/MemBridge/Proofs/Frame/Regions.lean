import MemBridge.Proofs.Frame.Carve
import MemBridge.Proofs.Frame.Pool
import MemBridge.Proofs.Lineage.History

/-!
The regions a frame lists.

A frame refers to the regions cut from it without holding them. Adding a region, which cutting one
does last, links the region to the frame and lists it after the regions still alive; asking for the
regions forgets those that are gone and answers the rest; clearing the regions, and handing the
frame out of a pool or again out of a cache, empty the list. No other operation touches it:
setting or clearing a parent changes the child alone, and a release keeps every object but the
devices as it was, only lowering counts (`World.Lowers`).

None of these operations brings back a frame that nothing holds (`World.KeepsFrames`), so a
region that is gone stays gone and forgetting it early or late comes to the same. Along any
history of them (`World.RegionsReached`), logging the frames added to a frame `F` since its list
was last emptied, asking `F` for its regions answers the live frames of the log in the order they
were added. The parent link lives in the region alone: setting the region's parent again leaves it
listed by `F`. Main statement: `regions_answer_live_additions`.
-/

namespace MemBridge

open Std.Do

set_option mvcgen.warning false

-- A lemma of this module reaches `mvcgen` through a `have` (`specN`): named in the list, it would
-- make the proof wait until that lemma's own proof is checked. Where `grind` or `simp_all`
-- follows, the binding is cleared first, so that they do not take it up as a hypothesis.

namespace World

variable {w w' w'' : World}

/-- `w'` has the objects of `w` apart from devices, and no count above the one in `w`: what a
release leaves. -/
def Lowers (w w' : World) : Prop :=
  w.SameObjects w' ∧ ∀ q, w'.strongAt q ≤ w.strongAt q

namespace Lowers

@[grind ←] theorem refl (w : World) : w.Lowers w := ⟨.refl w, fun _ => Nat.le_refl _⟩

@[grind →] theorem trans (h₁ : w.Lowers w') (h₂ : w'.Lowers w'') : w.Lowers w'' :=
  ⟨h₁.1.trans h₂.1, fun q => (h₂.2 q).trans (h₁.2 q)⟩

@[grind ←] theorem trans_setStrong {r : Ref} {n : Node} {k : Nat} (h : w.Lowers w')
    (hn : w'.nodes[r]? = some n) (hk : k ≤ n.strong) : w.Lowers (w'.setStrong r n k) := by
  refine ⟨h.1.trans_setStrong hn, fun q => ?_⟩
  rw [strongAt_setStrong hn]
  split
  · next hq =>
    subst hq
    have : w'.strongAt q = n.strong := by simp [strongAt, hn]
    exact hk.trans (this ▸ h.2 q)
  · exact h.2 q

/-- Dropping the last reference, and dropping one of several. -/
@[grind →] theorem of_setStrong_zero {r : Ref} {n : Node} (hn : w.nodes[r]? = some n)
    (h : (w.setStrong r n 0).Lowers w') : w.Lowers w' :=
  (trans_setStrong (refl w) hn (Nat.zero_le _)).trans h

@[grind →] theorem of_setStrong_pred {r : Ref} {n : Node} (hn : w.nodes[r]? = some n)
    (h : (w.setStrong r n (n.strong - 1)).Lowers w') : w.Lowers w' :=
  (trans_setStrong (refl w) hn (Nat.sub_le _ _)).trans h

@[grind ←] theorem trans_setDevice {r : Ref} {d : Device} (h : w.Lowers w')
    (hd : (w'.bodyAt r).map Body.variant = some .device) :
    w.Lowers (w'.setBody r (.device d)) :=
  ⟨h.1.trans_setDevice hd, fun q => by rw [strongAt_setBody]; exact h.2 q⟩

@[grind ←] theorem mk_nodes {a : Array (Option HostPool)} {hp : Heap} {d c : Nat} {t : Int}
    (h : w.Lowers w') : w.Lowers ⟨w'.nodes, a, hp, d, c, t⟩ := h

@[grind →] theorem frame_at (h : w.Lowers w') {q : Ref} {f : Frame}
    (hf : w.bodyAt q = some (.frame f)) : w'.bodyAt q = some (.frame f) :=
  (h.1.2 q (.frame f) (by simp)).2 hf

end Lowers

end World

namespace World

variable {w w' w'' w₀ : World} {c : Bool} {q : Ref}

def regionsAt (w : World) (r : Ref) : List Ref :=
  match w.bodyAt r with
  | some (.frame f) => f.regions
  | _ => []

theorem regionsAt_of_frame {r : Ref} {f : Frame} (h : w.bodyAt r = some (.frame f)) :
    w.regionsAt r = f.regions := by
  simp [regionsAt, h]

theorem bodyAt_setBody_of_bodyAt {x y : Body} (h : w.bodyAt q = some x) :
    (w.setBody q y).bodyAt q = some y :=
  bodyAt_setBody_of_lt y (lt_size_of_bodyAt h)

def live (w : World) (qs : List Ref) : List Ref :=
  qs.filter fun q => 0 < w.strongAt q

def NotDeadFrame (w : World) (q : Ref) : Prop :=
  ∀ f, w.bodyAt q = some (.frame f) → 0 < w.strongAt q

def ContextsNotDead (w : World) : Prop :=
  ∀ q t k, w.bodyAt q = some (.tensor t) → t.context = .strong k → w.NotDeadFrame k

/-- `w'` keeps every tensor of `w` as it was, every context a context and every frame a frame, and
brings no frame back: a frame no strong reference holds in `w` none holds in `w'`. Each frame lists
the regions it listed or, when `clears`, none, and a tensor of `w'` holds as its context only what
a tensor of `w` holds. -/
structure KeepsFrames (clears : Bool) (w w' : World) : Prop where
  tensor : ∀ q t, w.bodyAt q = some (.tensor t) → w'.bodyAt q = some (.tensor t)
  contexts : ∀ q t k, w'.bodyAt q = some (.tensor t) → t.context = .strong k →
    ∃ q' t', w.bodyAt q' = some (.tensor t') ∧ t'.context = .strong k
  context : ∀ q x, w.bodyAt q = some (.context x) → ∃ x', w'.bodyAt q = some (.context x')
  frame : ∀ q f, w.bodyAt q = some (.frame f) →
    ∃ f', w'.bodyAt q = some (.frame f') ∧ (f'.regions = f.regions ∨ clears ∧ f'.regions = [])
  dead : ∀ q f, w.bodyAt q = some (.frame f) → w.strongAt q = 0 → w'.strongAt q = 0

namespace KeepsFrames

@[grind ←] theorem refl (c : Bool) (w : World) : w.KeepsFrames c w :=
  ⟨fun _ _ h => h, fun q t _ h hk => ⟨q, t, h, hk⟩, fun _ x h => ⟨x, h⟩,
    fun _ f h => ⟨f, h, .inl rfl⟩, fun _ _ _ h => h⟩

@[grind →] theorem trans (h₁ : w.KeepsFrames c w') (h₂ : w'.KeepsFrames c w'') :
    w.KeepsFrames c w'' where
  tensor q t ht := h₂.tensor q t (h₁.tensor q t ht)
  contexts q t k ht hk := by
    obtain ⟨q', t', ht', hk'⟩ := h₂.contexts q t k ht hk
    exact h₁.contexts q' t' k ht' hk'
  context q x hx := by
    obtain ⟨x', hx'⟩ := h₁.context q x hx
    exact h₂.context q x' hx'
  frame q f hf := by
    obtain ⟨f', hf', h'⟩ := h₁.frame q f hf
    obtain ⟨f'', hf'', h''⟩ := h₂.frame q f' hf'
    refine ⟨f'', hf'', ?_⟩
    rcases h'' with h'' | h''
    · rw [h'']; exact h'
    · exact .inr h''
  dead q f hf h0 := by
    obtain ⟨f', hf', -⟩ := h₁.frame q f hf
    exact h₂.dead q f' hf' (h₁.dead q f hf h0)

theorem clears (h : w.KeepsFrames false w') (c : Bool) : w.KeepsFrames c w' where
  tensor := h.tensor
  contexts := h.contexts
  context := h.context
  frame q f hf := by
    obtain ⟨f', hf', h'⟩ := h.frame q f hf
    exact ⟨f', hf', .inl (by simpa using h')⟩
  dead := h.dead

theorem of_lowers (h : w.Lowers w') : w.KeepsFrames c w' where
  tensor q t ht := (h.1.2 q (.tensor t) (by simp)).2 ht
  contexts q t k ht hk := ⟨q, t, (h.1.2 q (.tensor t) (by simp)).1 ht, hk⟩
  context q x hx := ⟨x, (h.1.2 q (.context x) (by simp [Body.variant])).2 hx⟩
  frame q f hf := ⟨f, (h.1.2 q (.frame f) (by simp)).2 hf, .inl rfl⟩
  dead q _ _ h0 := Nat.eq_zero_of_le_zero (h0 ▸ h.2 q)

@[grind →] theorem trans_lowers (h : w₀.KeepsFrames c w) (hl : w.Lowers w') :
    w₀.KeepsFrames c w' :=
  h.trans (of_lowers hl)

theorem setOther (h : w₀.KeepsFrames c w) {y₀ : Body} (hq : w.bodyAt q = some y₀)
    (hy₀ : y₀.variant ≠ .frame ∧ y₀.variant ≠ .tensor ∧ y₀.variant ≠ .context) (y : Body)
    (hy : y.variant ≠ .tensor) : w₀.KeepsFrames c (w.setBody q y) := by
  have hne : ∀ p x, w.bodyAt p = some x →
      x.variant = .frame ∨ x.variant = .tensor ∨ x.variant = .context → p ≠ q := by
    rintro p x hx hv rfl
    rw [hq] at hx
    cases hx
    rcases hv with hv | hv | hv
    exacts [hy₀.1 hv, hy₀.2.1 hv, hy₀.2.2 hv]
  refine h.trans ⟨fun p t ht => ?_, fun p t k ht hk => ⟨p, t, ?_, hk⟩, fun p x hx => ⟨x, ?_⟩,
    fun p f hf => ⟨f, ?_, .inl rfl⟩, fun p _ _ h0 => by rwa [strongAt_setBody]⟩
  · rwa [bodyAt_setBody_of_ne _ (hne p _ ht (.inr (.inl rfl)))]
  · rw [bodyAt_setBody] at ht
    split at ht
    · cases ht
      simp at hy
    · exact ht
  · rwa [bodyAt_setBody_of_ne _ (hne p _ hx (.inr (.inr rfl)))]
  · rwa [bodyAt_setBody_of_ne _ (hne p _ hf (.inl rfl))]

theorem setFrame (h : w₀.KeepsFrames c w) {x : Frame} (hq : w.bodyAt q = some (.frame x))
    (x' : Frame) (hr : x'.regions = x.regions ∨ c ∧ x'.regions = []) :
    w₀.KeepsFrames c (w.setBody q (.frame x')) := by
  refine h.trans ⟨fun p t ht => ?_, fun p t k ht hk => ⟨p, t, ?_, hk⟩, fun p y hy => ⟨y, ?_⟩,
    fun p f hf => ?_, fun p _ _ h0 => by rwa [strongAt_setBody]⟩
  · have hpq : p ≠ q := by
      rintro rfl
      simp_all
    rwa [bodyAt_setBody_of_ne _ hpq]
  · rw [bodyAt_setBody] at ht
    split at ht
    · cases ht
    · exact ht
  · have hpq : p ≠ q := by
      rintro rfl
      simp_all
    rwa [bodyAt_setBody_of_ne _ hpq]
  by_cases hpq : p = q
  · subst hpq
    rw [hq] at hf
    cases hf
    exact ⟨x', bodyAt_setBody_of_lt _ (lt_size_of_bodyAt hq), hr⟩
  · exact ⟨f, by rwa [bodyAt_setBody_of_ne _ hpq], .inl rfl⟩

theorem bump (h : w₀.KeepsFrames c w) {n : Node} (hn : w.nodes[q]? = some n)
    (hq : w₀.NotDeadFrame q) : w₀.KeepsFrames c (w.setStrong q n (n.strong + 1)) where
  tensor p t ht := by rw [bodyAt_setStrong hn]; exact h.tensor p t ht
  contexts p t k ht hk := h.contexts p t k (by rwa [bodyAt_setStrong hn] at ht) hk
  context p x hx := by rw [bodyAt_setStrong hn]; exact h.context p x hx
  frame p f hf := by
    obtain ⟨f', hf', h'⟩ := h.frame p f hf
    exact ⟨f', by rwa [bodyAt_setStrong hn], h'⟩
  dead p f hf h0 := by
    rw [strongAt_setStrong hn]
    split
    · next hpq =>
      subst hpq
      exact absurd (hq f hf) (by omega)
    · exact h.dead p f hf h0

theorem push (h : w₀.KeepsFrames c w) (n : Node)
    (hn : ∀ t k, n.body = .tensor t → t.context = .strong k →
      ∃ q' t', w₀.bodyAt q' = some (.tensor t') ∧ t'.context = .strong k) :
    w₀.KeepsFrames c (w.push n) where
  tensor p t ht := by
    have ht' := h.tensor p t ht
    rwa [bodyAt_push, if_neg (Nat.ne_of_lt (lt_size_of_bodyAt ht'))]
  contexts p t k ht hk := by
    rw [bodyAt_push] at ht
    split at ht
    · exact hn t k (Option.some.inj ht) hk
    · exact h.contexts p t k ht hk
  context p x hx := by
    obtain ⟨x', hx'⟩ := h.context p x hx
    exact ⟨x', by rwa [bodyAt_push, if_neg (Nat.ne_of_lt (lt_size_of_bodyAt hx'))]⟩
  frame p f hf := by
    obtain ⟨f', hf', h'⟩ := h.frame p f hf
    have hp : p ≠ w.nodes.size := Nat.ne_of_lt (lt_size_of_bodyAt hf')
    exact ⟨f', by rwa [bodyAt_push, if_neg hp], h'⟩
  dead p f hf h0 := by
    obtain ⟨f', hf', -⟩ := h.frame p f hf
    have hp : p ≠ w.nodes.size := Nat.ne_of_lt (lt_size_of_bodyAt hf')
    rw [strongAt_push, if_neg hp]
    exact h.dead p f hf h0

theorem notDeadFrame_of_live (h : w₀.KeepsFrames c w) (hl : 0 < w.strongAt q) :
    w₀.NotDeadFrame q := fun f hf => by
  by_contra h0
  have := h.dead q f hf (by omega)
  omega

theorem notDeadFrame_of_tensor (h : w₀.KeepsFrames c w) {t : Tensor}
    (ht : w.bodyAt q = some (.tensor t)) : w₀.NotDeadFrame q := fun f hf => by
  obtain ⟨f', hf', -⟩ := h.frame q f hf
  simp_all

end KeepsFrames

def IsFrame (w : World) (q : Ref) : Prop := ∃ f, w.bodyAt q = some (.frame f)

def ContextsHeld (w : World) : Prop :=
  ∀ q t k, w.bodyAt q = some (.tensor t) → t.context = .strong k →
    ∃ x, w.bodyAt k = some (.context x)

theorem ContextsHeld.notDead (h : w.ContextsHeld) : w.ContextsNotDead := by
  intro q t k ht hk f hf
  obtain ⟨x, hx⟩ := h q t k ht hk
  simp_all

theorem live_append (w : World) (qs qs' : List Ref) : w.live (qs ++ qs') = w.live qs ++ w.live qs' :=
  List.filter_append ..

theorem live_live_self (w : World) (qs : List Ref) : w.live (w.live qs) = w.live qs := by
  simp [live, List.filter_filter]

theorem live_setBody (w : World) (r : Ref) (b : Body) (qs : List Ref) :
    (w.setBody r b).live qs = w.live qs := by
  simp [live, strongAt_setBody]

namespace KeepsFrames

theorem isFrame (h : w.KeepsFrames c w') (hq : w.IsFrame q) : w'.IsFrame q := by
  obtain ⟨f, hf⟩ := hq
  obtain ⟨f', hf', -⟩ := h.frame q f hf
  exact ⟨f', hf'⟩

theorem regionsAt_eq (h : w.KeepsFrames false w') (hq : w.IsFrame q) :
    w'.regionsAt q = w.regionsAt q := by
  obtain ⟨f, hf⟩ := hq
  obtain ⟨f', hf', hr⟩ := h.frame q f hf
  rw [regionsAt_of_frame hf', regionsAt_of_frame hf]
  simpa using hr

theorem live_live (h : w.KeepsFrames c w') {qs : List Ref} (hqs : ∀ q ∈ qs, w.IsFrame q) :
    w'.live (w.live qs) = w'.live qs := by
  simp only [live, List.filter_filter]
  refine List.filter_congr fun q hq => ?_
  obtain ⟨f, hf⟩ := hqs q hq
  by_cases h0 : w.strongAt q = 0
  · simp [h0, h.dead q f hf h0]
  · simp [Nat.pos_of_ne_zero h0]

theorem contextsHeld (h : w.KeepsFrames c w') (hc : w.ContextsHeld) : w'.ContextsHeld := by
  intro q t k ht hk
  obtain ⟨q', t', ht', hk'⟩ := h.contexts q t k ht hk
  obtain ⟨x, hx⟩ := hc q' t' k ht' hk'
  exact h.context k x hx

end KeepsFrames

section SetFrame

variable {r : Ref} {f x : Frame}

/-! Writing a frame over a frame changes no count, no other object and which objects are
frames. -/

theorem isFrame_setFrame (hr : w.bodyAt r = some (.frame f)) :
    (w.setBody r (.frame x)).IsFrame q ↔ w.IsFrame q := by
  by_cases hq : q = r
  · subst hq
    exact ⟨fun _ => ⟨f, hr⟩, fun _ => ⟨x, bodyAt_setBody_of_bodyAt hr⟩⟩
  · simp [IsFrame, bodyAt_setBody_of_ne _ hq]

theorem regionsAt_setFrame (hr : w.bodyAt r = some (.frame f)) (q : Ref) :
    (w.setBody r (.frame x)).regionsAt q = if q = r then x.regions else w.regionsAt q := by
  split
  · next hq =>
    subst hq
    exact regionsAt_of_frame (bodyAt_setBody_of_bodyAt hr)
  · next hq => simp [regionsAt, bodyAt_setBody_of_ne _ hq]

theorem contextsHeld_setFrame (hr : w.bodyAt r = some (.frame f)) (hc : w.ContextsHeld) :
    (w.setBody r (.frame x)).ContextsHeld := by
  intro q t k ht hk
  have hq : q ≠ r := by
    rintro rfl
    simp [bodyAt_setBody_of_bodyAt hr] at ht
  rw [bodyAt_setBody_of_ne _ hq] at ht
  obtain ⟨y, hy⟩ := hc q t k ht hk
  have hk' : k ≠ r := by
    rintro rfl
    simp_all
  exact ⟨y, by rwa [bodyAt_setBody_of_ne _ hk']⟩

end SetFrame

/-- The log `log` of the frames added to `F` accounts for what `F` lists: `F` is a frame, what it
lists and what the log holds are frames, and the live ones of both agree; and every tensor holds a
context, so that no cut takes a reference to a frame. -/
structure RegionsLogged (F : Ref) (log : List Ref) (w : World) : Prop where
  frame : w.IsFrame F
  listed : ∀ g ∈ w.regionsAt F, w.IsFrame g
  logged : ∀ g ∈ log, w.IsFrame g
  live : w.live (w.regionsAt F) = w.live log
  contexts : w.ContextsHeld

def restart (w : World) (F : Ref) (log : List Ref) : List Ref :=
  if w.regionsAt F = [] then [] else log

namespace RegionsLogged

variable {F : Ref} {log : List Ref}

theorem of_keeps (h : w.RegionsLogged F log) (hk : w.KeepsFrames c w')
    (hr : w'.regionsAt F = w.regionsAt F) : w'.RegionsLogged F log where
  frame := hk.isFrame h.frame
  listed g hg := hk.isFrame (h.listed g (hr ▸ hg))
  logged g hg := hk.isFrame (h.logged g hg)
  live := by rw [hr, ← hk.live_live h.listed, h.live, hk.live_live h.logged]
  contexts := hk.contextsHeld h.contexts

theorem keepsFrames (h : w.RegionsLogged F log) (hk : w.KeepsFrames false w') :
    w'.RegionsLogged F log :=
  h.of_keeps hk (hk.regionsAt_eq h.frame)

theorem emptied (hF : w.IsFrame F) (hr : w.regionsAt F = []) (hc : w.ContextsHeld) :
    w.RegionsLogged F [] where
  frame := hF
  listed := by simp [hr]
  logged := by simp
  live := by simp [hr]
  contexts := hc

theorem restarts (h : w.RegionsLogged F log) (hk : w.KeepsFrames true w') :
    w'.RegionsLogged F (w'.restart F log) := by
  obtain ⟨f, hf⟩ := h.frame
  obtain ⟨f', hf', hr⟩ := hk.frame F f hf
  unfold restart
  split
  · next hnil => exact emptied ⟨f', hf'⟩ hnil (hk.contextsHeld h.contexts)
  · next hnil =>
    rcases hr with hr | ⟨-, hr⟩
    · exact h.of_keeps hk (by rw [regionsAt_of_frame hf', regionsAt_of_frame hf, hr])
    · exact absurd ((regionsAt_of_frame hf').trans hr) hnil

theorem setFrame (h : w.RegionsLogged F log) {r : Ref} {f x : Frame}
    (hr : w.bodyAt r = some (.frame f)) {L : List Ref}
    (hF : r = F → (∀ g ∈ x.regions, w.IsFrame g) ∧ (∀ g ∈ L, w.IsFrame g) ∧
      w.live x.regions = w.live L) :
    (w.setBody r (.frame x)).RegionsLogged F (if r = F then L else log) where
  frame := (isFrame_setFrame hr).2 h.frame
  listed g hg := by
    rw [regionsAt_setFrame hr] at hg
    refine (isFrame_setFrame hr).2 ?_
    split at hg
    · next e => exact (hF e.symm).1 g hg
    · exact h.listed g hg
  logged g hg := by
    refine (isFrame_setFrame hr).2 ?_
    split at hg
    · next e => exact (hF e).2.1 g hg
    · exact h.logged g hg
  live := by
    rw [regionsAt_setFrame hr, live_setBody, live_setBody]
    by_cases e : r = F
    · subst e
      simpa using (hF rfl).2.2
    · simpa [e, Ne.symm e] using h.live
  contexts := contextsHeld_setFrame hr h.contexts

theorem prune (h : w.RegionsLogged F log) {r : Ref} {f : Frame} (hr : w.bodyAt r = some (.frame f)) :
    (w.setBody r (.frame { f with regions := w.live f.regions })).RegionsLogged F log := by
  have h' : (w.setBody r (.frame { f with regions := w.live f.regions })).RegionsLogged F
      (if r = F then log else log) := h.setFrame hr fun e => by
    subst e
    have hl := h.live
    rw [regionsAt_of_frame hr] at hl
    refine ⟨fun g hg => h.listed g ?_, h.logged, by rw [live_live_self, hl]⟩
    rw [regionsAt_of_frame hr]
    exact List.mem_of_mem_filter hg
  simpa using h'

theorem append (h : w.RegionsLogged F log) (hk : w.KeepsFrames false w') {r g : Ref} {f : Frame}
    (hr : w'.bodyAt r = some (.frame f)) (hg : w'.IsFrame g) :
    (w'.setBody r (.frame { f with regions := w'.live f.regions ++ [g] })).RegionsLogged F
      (if r = F then log ++ [g] else log) := by
  have h' := h.keepsFrames hk
  refine h'.setFrame hr fun e => ?_
  subst e
  have hl := h'.live
  rw [regionsAt_of_frame hr] at hl
  refine ⟨?_, ?_, ?_⟩
  · simp only [List.mem_append, List.mem_singleton]
    rintro g' (hg' | rfl)
    · exact h'.listed g' (by rw [regionsAt_of_frame hr]; exact List.mem_of_mem_filter hg')
    · exact hg
  · simp only [List.mem_append, List.mem_singleton]
    rintro g' (hg' | rfl)
    · exact h'.logged g' hg'
    · exact hg
  · calc w'.live (w'.live f.regions ++ [g])
        = w'.live (w'.live f.regions) ++ w'.live [g] := live_append ..
      _ = w'.live log ++ w'.live [g] := by rw [live_live_self, hl]
      _ = w'.live (log ++ [g]) := (live_append ..).symm

end RegionsLogged

end World

namespace Act

open World

variable {w₀ w₁ : World}

/-! A release lowers counts and changes devices' tallies and host memory: the objects stay. -/

theorem node_lowers (r : Ref) :
    ⦃fun w => ⌜w₀.Lowers w⌝⦄ node r
    ⦃post⟨fun n w => ⌜w₀.Lowers w ∧ w.nodes[r]? = some n⌝, fun _ w => ⌜w₀.Lowers w⌝⟩⦄ := by
  unfold node broken
  mvcgen

theorem device_lowers (r : Ref) :
    ⦃fun w => ⌜w₀.Lowers w⌝⦄ device r
    ⦃post⟨fun d w => ⌜w₀.Lowers w ∧ w.bodyAt r = some (.device d)⌝,
      fun _ w => ⌜w₀.Lowers w⌝⟩⦄ := by
  unfold device body broken
  have spec1 := @node_lowers
  mvcgen [spec1] <;> clear spec1 <;> grind [bodyAt_of_getElem?]

theorem modifyDevice_lowers (r : Ref) (f : Device → Device) :
    ⦃fun w => ⌜w₀.Lowers w⌝⦄ modifyDevice r f
    ⦃post⟨fun _ w => ⌜w₀.Lowers w⌝, fun _ w => ⌜w₀.Lowers w⌝⟩⦄ := by
  unfold modifyDevice
  have spec1 := @device_lowers
  mvcgen [setBody_eq, spec1] <;> clear spec1 <;> grind

theorem dropSelf_lowers (x : Body) :
    ⦃fun w => ⌜w₀.Lowers w⌝⦄ dropSelf x
    ⦃post⟨fun _ w => ⌜w₀.Lowers w⌝, fun _ w => ⌜w₀.Lowers w⌝⟩⦄ := by
  unfold dropSelf
  have spec1 := @modifyDevice_lowers
  have spec2 := @device_lowers
  mvcgen [spec1, spec2] <;> clear spec1 spec2 <;> grind

theorem freeBuffer_lowers (b : Buffer) :
    ⦃fun w => ⌜w₀.Lowers w⌝⦄ freeBuffer b
    ⦃post⟨fun _ w => ⌜w₀.Lowers w⌝, fun _ w => ⌜w₀.Lowers w⌝⟩⦄ := by
  unfold freeBuffer
  mvcgen

theorem closeAllocator_lowers (a : Nat) :
    ⦃fun w => ⌜w₀.Lowers w⌝⦄ closeAllocator a
    ⦃post⟨fun _ w => ⌜w₀.Lowers w⌝, fun _ w => ⌜w₀.Lowers w⌝⟩⦄ := by
  unfold closeAllocator
  mvcgen

theorem drain_lowers (ts : List Task) (fuel : Nat) :
    ⦃fun w => ⌜w₀.Lowers w⌝⦄ drain ts fuel
    ⦃post⟨fun _ w => ⌜w₀.Lowers w⌝, fun _ w => ⌜w₀.Lowers w⌝⟩⦄ := by
  -- the cascade puts the tasks of a dropped object in front of the rest: induction on the fuel
  induction fuel generalizing ts w₀ with
  | zero => cases ts <;> simp only [drain] <;> mvcgen
  | succ fuel ih =>
    cases ts with
    | nil => simp only [drain]; mvcgen
    | cons t rest =>
      cases t with
      | free b => simp only [drain]; mvcgen [ih, freeBuffer_lowers] <;> grind
      | close a => simp only [drain]; mvcgen [ih, closeAllocator_lowers] <;> grind
      | release r =>
        rw [drain_release]
        have spec1 := @node_lowers
        have spec2 := @dropSelf_lowers
        mvcgen [ih, spec1, spec2] <;> clear spec1 spec2 <;> grind

theorem release_lowers (r : Ref) :
    ⦃fun w => ⌜w = w₁⌝⦄ release r
    ⦃post⟨fun _ w => ⌜w₁.Lowers w⌝, fun _ w => ⌜w₁.Lowers w⌝⟩⦄ := by
  unfold release runTasks
  have spec1 := @drain_lowers
  mvcgen [spec1]
  clear spec1
  grind

theorem releaseAll_lowers (rs : List Ref) :
    ⦃fun w => ⌜w = w₁⌝⦄ releaseAll rs
    ⦃post⟨fun _ w => ⌜w₁.Lowers w⌝, fun _ w => ⌜w₁.Lowers w⌝⟩⦄ := by
  unfold releaseAll runTasks
  have spec1 := @drain_lowers
  mvcgen [spec1]
  clear spec1
  grind

end Act

namespace Act

open World

variable {w₀ : World} {c : Bool}

/-! Each step seen from the world an operation started in: `w₀.KeepsFrames c w`. -/

theorem lift_reads {w₁ : World} {α : Type} (x : Except Fault α) :
    ⦃fun w => ⌜w = w₁⌝⦄ lift x
    ⦃post⟨fun a w => ⌜w = w₁ ∧ x = .ok a⌝, fun _ w => ⌜w = w₁⌝⟩⦄ := by
  mvcgen [lift, -Act.lift_spec]

theorem retain_keepsFrames (q : Ref) :
    ⦃fun w => ⌜w₀.KeepsFrames c w ∧ w₀.NotDeadFrame q⌝⦄ retain q
    ⦃post⟨fun _ w => ⌜w₀.KeepsFrames c w⌝, fun _ w => ⌜w₀.KeepsFrames c w⌝⟩⦄ := by
  mvcgen [retain_eq, -Act.retain_spec, -Act.node_spec, node_reads]
  all_goals grind [KeepsFrames.bump]

theorem create_keepsFrames (x : Body) :
    ⦃fun w => ⌜w₀.KeepsFrames c w ∧ ∀ t k, x = .tensor t → t.context = .strong k →
      ∃ q' t', w₀.bodyAt q' = some (.tensor t') ∧ t'.context = .strong k⌝⦄ create x
    ⦃post⟨fun _ w => ⌜w₀.KeepsFrames c w⌝, fun _ w => ⌜w₀.KeepsFrames c w⌝⟩⦄ := by
  mvcgen [create_eq, -Act.create_spec]
  grind [KeepsFrames.push]

theorem release_keepsFrames (q : Ref) :
    ⦃fun w => ⌜w₀.KeepsFrames c w⌝⦄ release q
    ⦃post⟨fun _ w => ⌜w₀.KeepsFrames c w⌝, fun _ w => ⌜w₀.KeepsFrames c w⌝⟩⦄ := by
  have spec1 := @release_lowers
  mvcgen [-Act.release_spec, spec1] <;> clear spec1 <;> grind

theorem releaseAll_keepsFrames (qs : List Ref) :
    ⦃fun w => ⌜w₀.KeepsFrames c w⌝⦄ releaseAll qs
    ⦃post⟨fun _ w => ⌜w₀.KeepsFrames c w⌝, fun _ w => ⌜w₀.KeepsFrames c w⌝⟩⦄ := by
  have spec1 := @releaseAll_lowers
  mvcgen [-Act.releaseAll_spec, spec1] <;> clear spec1 <;> grind

theorem setBody_keepsFrames (q : Ref) (y : Body) :
    ⦃fun w => ⌜w₀.KeepsFrames c w ∧
      (∃ y₀, w.bodyAt q = some y₀ ∧ y₀.variant ≠ .frame ∧ y₀.variant ≠ .tensor ∧
        y₀.variant ≠ .context) ∧
      y.variant ≠ .tensor⌝⦄ setBody q y
    ⦃post⟨fun _ w => ⌜w₀.KeepsFrames c w⌝, fun _ w => ⌜w₀.KeepsFrames c w⌝⟩⦄ := by
  mvcgen [setBody_eq]
  grind [KeepsFrames.setOther]

theorem frame_at {w₁ : World} (r : Ref) :
    ⦃fun w => ⌜w = w₁⌝⦄ frame r
    ⦃post⟨fun f w => ⌜w = w₁ ∧ w₁.bodyAt r = some (.frame f)⌝,
      fun _ w => ⌜w = w₁ ∧ ∀ f, w₁.bodyAt r ≠ some (.frame f)⌝⟩⦄ := by
  apply triple_of_run
  rintro w rfl
  by_cases hx : ∃ f, w.bodyAt r = some (.frame f)
  · obtain ⟨f, hf⟩ := hx
    simpa [run_frame hf] using hf
  · have h := of_triple (@frame_reads w r) rfl
    revert h
    generalize (frame r).run w = res
    cases res with
    | ok f w' => exact fun h => absurd ⟨f, h.2⟩ hx
    | error e w' => exact fun h => ⟨h, fun f h' => hx ⟨f, h'⟩⟩

theorem modifyFrame_at {w₁ : World} (r : Ref) (fn : Frame → Frame) :
    ⦃fun w => ⌜w = w₁⌝⦄ modifyFrame r fn
    ⦃post⟨fun _ w => ⌜∃ x, w₁.bodyAt r = some (.frame x) ∧ w = w₁.setBody r (.frame (fn x))⌝,
      fun _ w => ⌜w = w₁ ∧ ∀ x, w₁.bodyAt r ≠ some (.frame x)⌝⟩⦄ := by
  apply triple_of_run
  rintro w rfl
  by_cases hx : ∃ x, w.bodyAt r = some (.frame x)
  · obtain ⟨x, hx⟩ := hx
    simp only [run_modifyFrame hx]
    exact ⟨x, hx, rfl⟩
  · have h := of_triple (@Act.modifyFrame_sets w r fn) rfl
    revert h
    generalize (modifyFrame r fn).run w = res
    cases res with
    | ok _ w' => exact fun h => absurd (h.imp fun _ h => h.1) hx
    | error e w' => exact fun h => ⟨h, fun x h' => hx ⟨x, h'⟩⟩

theorem modifyFrame_keepsFrames (r : Ref) (fn : Frame → Frame) :
    ⦃fun w => ⌜w₀.KeepsFrames c w ∧ ∀ x, (fn x).regions = x.regions ∨ c ∧ (fn x).regions = []⌝⦄
    modifyFrame r fn
    ⦃post⟨fun _ w => ⌜w₀.KeepsFrames c w ∧ ∃ x, w.bodyAt r = some (.frame (fn x))⌝,
      fun _ w => ⌜w₀.KeepsFrames c w⌝⟩⦄ := by
  mvcgen [-Act.modifyFrame_spec, modifyFrame_sets]
  all_goals grind [KeepsFrames.setFrame, bodyAt_setBody_of_bodyAt]

end Act

namespace Tensor

open Act World

variable {w₀ : World} {c : Bool}

theorem slice_keepsFrames (r : Ref) (ranges : List (Nat × Nat)) :
    ⦃fun w => ⌜w₀.KeepsFrames c w ∧ w₀.ContextsNotDead⌝⦄ slice r ranges
    ⦃post⟨fun _ w => ⌜w₀.KeepsFrames c w⌝, fun _ w => ⌜w₀.KeepsFrames c w⌝⟩⦄ := by
  have hretain := @retain_keepsFrames w₀ c
  have hcreate := @create_keepsFrames w₀ c
  have spec1 := @lift_reads
  mvcgen [slice, -Act.tensor_spec, tensor_reads, -Act.lift_spec, spec1, -Act.retain_spec,
    hretain, -Act.create_spec, hcreate] <;> clear spec1
  -- the loop only checks the ranges, in the world where the tensor was read
  case inv1 => rename_i s₁ _; exact post⟨fun _ w => ⌜w = s₁⌝, fun _ w => ⌜w₀.KeepsFrames c w⌝⟩
  all_goals grind [KeepsFrames.contexts, KeepsFrames.notDeadFrame_of_tensor, ContextsNotDead]

theorem sliceRegion_keepsFrames (r : Ref) (y x : Nat × Nat) :
    ⦃fun w => ⌜w₀.KeepsFrames c w ∧ w₀.ContextsNotDead⌝⦄ sliceRegion r y x
    ⦃post⟨fun _ w => ⌜w₀.KeepsFrames c w⌝, fun _ w => ⌜w₀.KeepsFrames c w⌝⟩⦄ := by
  have hslice := @slice_keepsFrames w₀ c
  have spec1 := @lift_reads
  mvcgen [sliceRegion, -Act.tensor_spec, tensor_reads, -Act.lift_spec, spec1, hslice] <;>
    clear spec1 <;>
    grind

end Tensor

namespace Frame

open Act World

variable {w₀ w₁ : World} {c : Bool}

theorem inLineage_first (r candidate : Ref) (fuel : Nat) :
    ⦃fun w => ⌜w = w₁⌝⦄ inLineage r candidate (fuel + 1)
    ⦃post⟨fun b w => ⌜w = w₁ ∧ (candidate = r → b = true)⌝, fun _ w => ⌜w = w₁⌝⟩⦄ := by
  simp only [inLineage]
  mvcgen [-inLineage_spec, inLineage_reads, -Act.frame_spec, frame_reads] <;> grind

theorem setParent_keepsFrames (g : Ref) (p : Option Ref) :
    ⦃fun w => ⌜w₀.KeepsFrames c w⌝⦄ setParent g p
    ⦃post⟨fun _ w => ⌜w₀.KeepsFrames c w ∧ (∀ x, p = some x → x ≠ g) ∧
        ∃ fg, w.bodyAt g = some (.frame fg) ∧ fg.parent = p⌝,
      fun _ w => ⌜w₀.KeepsFrames c w⌝⟩⦄ := by
  have hmodify := @modifyFrame_keepsFrames w₀ c
  have spec1 := @inLineage_first
  have spec2 := @release_lowers
  mvcgen [setParent, -setParent_spec, -inLineage_spec, spec1, -Act.frame_spec,
    frame_reads, -Act.modifyFrame_spec, hmodify, -Act.release_spec, spec2] <;> clear spec1 spec2
  all_goals grind

theorem pruneRegions_prunes (r : Ref) :
    ⦃fun w => ⌜w = w₁⌝⦄ pruneRegions r
    ⦃post⟨fun live w => ⌜∃ f, w₁.bodyAt r = some (.frame f) ∧
        live = w₁.live f.regions ∧ w = w₁.setBody r (.frame { f with regions := live })⌝,
      fun _ w => ⌜w = w₁ ∧ ∀ f, w₁.bodyAt r = some (.frame f) → ∃ g ∈ f.regions,
        w₁.nodes.size ≤ g⌝⟩⦄ := by
  unfold pruneRegions
  mvcgen [-Act.frame_spec, -Act.alive_spec, -Act.modifyFrame_spec, frame_at, alive_reads,
    modifyFrame_at] invariants
  · post⟨fun ⟨cur, live⟩ w => ⌜w = w₁ ∧ live = w₁.live cur.prefix⌝,
      fun _ w => ⌜w = w₁ ∧ ∀ f, w₁.bodyAt r = some (.frame f) → ∃ g ∈ f.regions,
        w₁.nodes.size ≤ g⌝⟩
  all_goals simp_all [World.live]
  -- the reference found past the store is the one at the cursor
  exact fun _ hle => ⟨_, .inr (.inl rfl), hle⟩

theorem run_pruneRegions {w : World} {r : Ref} {f : Frame} (hr : w.bodyAt r = some (.frame f))
    (hl : ∀ g ∈ f.regions, g < w.nodes.size) :
    (pruneRegions r).run w =
      .ok (w.live f.regions) (w.setBody r (.frame { f with regions := w.live f.regions })) := by
  have h := of_triple (@pruneRegions_prunes w r) rfl
  revert h
  cases (pruneRegions r).run w with
  | ok live w' =>
    rintro ⟨f', hf', rfl, rfl⟩
    obtain rfl : f = f' := by simpa [hr] using hf'
    rfl
  | error e w' =>
    rintro ⟨-, hfail⟩
    obtain ⟨g, hg, hle⟩ := hfail f hr
    exact absurd (hl g hg) (Nat.not_lt.2 hle)

theorem clearMetadata_keepsFrames (r : Ref) :
    ⦃fun w => ⌜w₀.KeepsFrames c w⌝⦄ clearMetadata r
    ⦃post⟨fun _ w => ⌜w₀.KeepsFrames c w⌝, fun _ w => ⌜w₀.KeepsFrames c w⌝⟩⦄ := by
  have hmodify := @modifyFrame_keepsFrames w₀ c
  have hrelease := @releaseAll_keepsFrames w₀ c
  mvcgen [clearMetadata, -clearMetadata_spec, -Act.frame_spec, frame_reads,
    -Act.modifyFrame_spec, hmodify, -dropDictionary_spec, dropDictionary, -Act.releaseAll_spec,
    hrelease]
  case inv1 => exact post⟨fun _ w => ⌜w₀.KeepsFrames c w⌝, fun _ w => ⌜w₀.KeepsFrames c w⌝⟩
  all_goals grind

theorem clearRegions_keepsFrames (r : Ref) :
    ⦃fun w => ⌜w₀.KeepsFrames true w⌝⦄ clearRegions r
    ⦃post⟨fun _ w => ⌜w₀.KeepsFrames true w⌝, fun _ w => ⌜w₀.KeepsFrames true w⌝⟩⦄ := by
  have hclear := @modifyFrame_keepsFrames w₀ true
  mvcgen [clearRegions, -clearRegions_spec, -Act.modifyFrame_spec, hclear] <;> simp_all

theorem addRegion_fails_keepsFrames (r g : Ref) :
    ⦃fun w => ⌜w₀.KeepsFrames false w ∧ w₀.NotDeadFrame r⌝⦄ addRegion r g
    ⦃post⟨fun _ _ => ⌜True⌝, fun _ w => ⌜w₀.KeepsFrames false w⌝⟩⦄ := by
  have hretain := @retain_keepsFrames w₀ false
  have hparent := @setParent_keepsFrames w₀ false
  have spec1 := @pruneRegions_prunes
  have spec2 := @modifyFrame_at
  mvcgen [addRegion, -Act.retain_spec, hretain, -setParent_spec, hparent, spec1,
    -Act.modifyFrame_spec, spec2] <;> clear spec1 spec2
  all_goals grind [bodyAt_setBody_of_bodyAt]

theorem addRegion_appends {w w' : World} {r g : Ref} (hk : w₀.KeepsFrames false w)
    (hr : w₀.NotDeadFrame r) (h : (addRegion r g).run w = .ok () w') :
    ∃ wm f fg, w₀.KeepsFrames false wm ∧ wm.bodyAt r = some (.frame f) ∧
      wm.bodyAt g = some (.frame fg) ∧ fg.parent = some r ∧ r ≠ g ∧
      w' = wm.setBody r (.frame { f with regions := wm.live f.regions ++ [g] }) := by
  obtain ⟨_, w₁, h₁, h₂⟩ := bind_ok h
  obtain ⟨_, w₂, h₃, h₄⟩ := bind_ok h₂
  obtain ⟨live, w₃, h₅, h₆⟩ := bind_ok h₄
  have k₁ := of_triple (retain_keepsFrames r) ⟨hk, hr⟩
  rw [h₁] at k₁
  have k₂ := of_triple (setParent_keepsFrames g (some r)) k₁
  rw [h₃] at k₂
  obtain ⟨hk₂, hne, fg, hg, hpar⟩ := k₂
  have k₃ := of_triple (@pruneRegions_prunes w₂ r) rfl
  rw [h₅] at k₃
  obtain ⟨f, hf, hlive, rfl⟩ := k₃
  have k₄ := of_triple
    (@modifyFrame_at (w₂.setBody r (.frame { f with regions := live })) r
      fun f => { f with regions := live ++ [g] }) rfl
  rw [h₆] at k₄
  obtain ⟨x, hx, rfl⟩ := k₄
  rw [bodyAt_setBody_of_bodyAt hf] at hx
  cases hx
  refine ⟨w₂, f, fg, hk₂, hf, hg, hpar, hne r rfl, ?_⟩
  rw [setBody_setBody, hlive]

theorem addRegion_keepsFrames (r g : Ref) :
    ⦃fun w => ⌜w₀.KeepsFrames false w ∧ w₀.NotDeadFrame r⌝⦄ addRegion r g
    ⦃post⟨fun _ w => ⌜∃ wm f fg, w₀.KeepsFrames false wm ∧ wm.bodyAt r = some (.frame f) ∧
        wm.bodyAt g = some (.frame fg) ∧ fg.parent = some r ∧ r ≠ g ∧
        w = wm.setBody r (.frame { f with regions := wm.live f.regions ++ [g] })⌝,
      fun _ w => ⌜w₀.KeepsFrames false w⌝⟩⦄ := by
  apply triple_of_run
  rintro w ⟨hk, hr⟩
  have hfails := of_triple (addRegion_fails_keepsFrames r g) ⟨hk, hr⟩
  revert hfails
  cases h : (addRegion r g).run w with
  | ok _ w' => exact fun _ => addRegion_appends hk hr h
  | error e w' => exact id

theorem make_keepsFrames (media : MediaType) (format : Nat) (tensors : List Ref) :
    ⦃fun w => ⌜w₀.KeepsFrames c w⌝⦄ make media format tensors
    ⦃post⟨fun _ w => ⌜w₀.KeepsFrames c w⌝, fun _ w => ⌜w₀.KeepsFrames c w⌝⟩⦄ := by
  have hrelease := @releaseAll_keepsFrames w₀ c
  have hcreate := @create_keepsFrames w₀ c
  mvcgen [make, -make_spec, -Act.tensor_spec, tensor_reads, -Act.releaseAll_spec, hrelease,
    -Act.create_spec, hcreate]
  case inv1 => exact post⟨fun _ w => ⌜w₀.KeepsFrames c w⌝, fun _ w => ⌜w₀.KeepsFrames c w⌝⟩
  all_goals grind

theorem region_keepsFrames (r : Ref) (rect : Rect) :
    ⦃fun w => ⌜w₀.KeepsFrames false w ∧ w₀.NotDeadFrame r ∧ w₀.ContextsNotDead⌝⦄ region r rect
    ⦃post⟨fun g w => ⌜∃ wm f fg, w₀.KeepsFrames false wm ∧ wm.bodyAt r = some (.frame f) ∧
        wm.bodyAt g = some (.frame fg) ∧ fg.parent = some r ∧ r ≠ g ∧
        w = wm.setBody r (.frame { f with regions := wm.live f.regions ++ [g] })⌝,
      fun _ w => ⌜w₀.KeepsFrames false w⌝⟩⦄ := by
  have hcut := @Tensor.sliceRegion_keepsFrames w₀ false
  have hrelease := @releaseAll_keepsFrames w₀ false
  have hmake := @make_keepsFrames w₀ false
  have hadd := @addRegion_keepsFrames w₀
  have spec1 := @lift_reads
  mvcgen [region, -Act.frame_spec, frame_reads, -Act.lift_spec, spec1, -Act.tensor_spec,
    tensor_reads, hcut, -Act.releaseAll_spec, hrelease, -make_spec, hmake, hadd] <;> clear spec1
  case inv1 => exact post⟨fun _ w => ⌜w₀.KeepsFrames false w⌝, fun _ w => ⌜w₀.KeepsFrames false w⌝⟩
  all_goals grind

end Frame

namespace FramePool

open Act World

variable {w₀ w₁ : World}

theorem firstFree_reads : ∀ fs : List Ref,
    ⦃fun w => ⌜w = w₁⌝⦄ firstFree fs
    ⦃post⟨fun o w => ⌜w = w₁ ∧ ∀ f, o = some f → w₁.strongAt f = 1⌝, fun _ w => ⌜w = w₁⌝⟩⦄
  | [] => by mvcgen [firstFree]; simp_all
  | f :: rest => by
    have ih := firstFree_reads rest
    mvcgen [firstFree, isFree, strongCount, -Act.node_spec, node_reads, ih]
    all_goals simp_all [World.strongAt]

theorem acquire_keepsFrames (p : Ref) :
    ⦃fun w => ⌜w₀.KeepsFrames true w⌝⦄ acquire p
    ⦃post⟨fun _ w => ⌜w₀.KeepsFrames true w⌝, fun _ w => ⌜w₀.KeepsFrames true w⌝⟩⦄ := by
  have hpool := @setBody_keepsFrames w₀ true
  have hmeta := @Frame.clearMetadata_keepsFrames w₀ true
  have hclear := @Frame.clearRegions_keepsFrames w₀
  have hparent := @Frame.setParent_keepsFrames w₀ true
  have hretain := @retain_keepsFrames w₀ true
  have spec1 := @firstFree_reads
  mvcgen [acquire, framePool_reads, hpool, spec1, -Frame.clearMetadata_spec, hmeta,
    -Frame.clearRegions_spec, hclear, Frame.clearParent, -Frame.setParent_spec, hparent,
    -Act.retain_spec, hretain] <;> clear spec1
  all_goals grind [KeepsFrames.notDeadFrame_of_live]

end FramePool

namespace Mapper

open Act World

variable {w₀ w₁ : World}

theorem checkReissue_reads (c : Cache) (v : Ref) (h : Handle) :
    ⦃fun w => ⌜w = w₁⌝⦄ checkReissue c v h
    ⦃post⟨fun _ w => ⌜w = w₁⌝, fun _ w => ⌜w = w₁⌝⟩⦄ := by
  mvcgen [checkReissue, -checkReissue_spec, strongCount, -Act.node_spec, node_reads,
    -Mapper.output_spec, output_reads, -Context.kindOf_spec, Context.kindOf_reads] <;> simp_all

theorem cacheOf_reads (m : Ref) :
    ⦃fun w => ⌜w = w₁⌝⦄ cacheOf m
    ⦃post⟨fun c w => ⌜w = w₁ ∧ w₁.bodyAt m = some (.mapper (.cache c))⌝, fun _ w => ⌜w = w₁⌝⟩⦄ := by
  unfold cacheOf broken
  mvcgen [-Act.mapper_spec, mapper_reads] <;> simp_all

theorem reissueFrame_keepsFrames (m : Ref) (c : Cache) (v : Ref) (h : Handle) :
    ⦃fun w => ⌜w₀.KeepsFrames true w ∧ w₀.NotDeadFrame v⌝⦄ reissueFrame m c v h
    ⦃post⟨fun _ w => ⌜w₀.KeepsFrames true w⌝, fun _ w => ⌜w₀.KeepsFrames true w⌝⟩⦄ := by
  have hmeta := @Frame.clearMetadata_keepsFrames w₀ true
  have hclear := @Frame.clearRegions_keepsFrames w₀
  have hparent := @Frame.setParent_keepsFrames w₀ true
  have hcache := @setBody_keepsFrames w₀ true
  have hretain := @retain_keepsFrames w₀ true
  have spec1 := @checkReissue_reads
  have spec2 := @cacheOf_reads
  mvcgen [reissueFrame, -checkReissue_spec, spec1, -Frame.clearMetadata_spec, hmeta,
    -Frame.clearRegions_spec, hclear, Frame.clearParent, -Frame.setParent_spec, hparent,
    -cacheOf_spec, spec2, setCache, hcache, -Act.retain_spec, hretain] <;> clear spec1 spec2
  all_goals grind

end Mapper

namespace World

open Act

/-- The worlds a history of frame operations reaches, with the log of the frames added to `F`
since its list was last emptied. A history starts where `F` is a frame listing frames and every
tensor holds a context object, logging `F`'s list. A step cuts or adds a region of a frame its
caller holds, asks a frame for its regions, sets or clears a parent, makes a frame, releases a
reference, empties a frame's list, hands a frame out of a pool, or hands out again a frame a cache
holds. -/
inductive RegionsReached (F : Ref) : List Ref → World → Prop
  | start {w : World} {f : Frame} : w.bodyAt F = some (.frame f) →
      (∀ g ∈ f.regions, w.IsFrame g) → w.ContextsHeld → RegionsReached F f.regions w
  | regions {log : List Ref} {w : World} (r : Ref) : RegionsReached F log w →
      RegionsReached F log ((Frame.regionsOf r).after w)
  | addRegion {log : List Ref} {w w' : World} {r g : Ref} : RegionsReached F log w →
      0 < w.strongAt r → (Frame.addRegion r g).run w = .ok () w' →
      RegionsReached F (if r = F then log ++ [g] else log) w'
  | addRegionFails {log : List Ref} {w w' : World} {r g : Ref} {e : Fault} :
      RegionsReached F log w → 0 < w.strongAt r → (Frame.addRegion r g).run w = .error e w' →
      RegionsReached F log w'
  | region {log : List Ref} {w w' : World} {r g : Ref} {rect : Rect} : RegionsReached F log w →
      0 < w.strongAt r → (Frame.region r rect).run w = .ok g w' →
      RegionsReached F (if r = F then log ++ [g] else log) w'
  | regionFails {log : List Ref} {w w' : World} {r : Ref} {rect : Rect} {e : Fault} :
      RegionsReached F log w → 0 < w.strongAt r → (Frame.region r rect).run w = .error e w' →
      RegionsReached F log w'
  | setParent {log : List Ref} {w : World} (g : Ref) (p : Option Ref) : RegionsReached F log w →
      RegionsReached F log ((Frame.setParent g p).after w)
  | make {log : List Ref} {w : World} (media : MediaType) (format : Nat) (tensors : List Ref) :
      RegionsReached F log w → RegionsReached F log ((Frame.make media format tensors).after w)
  | release {log : List Ref} {w : World} (q : Ref) : RegionsReached F log w →
      RegionsReached F log ((release q).after w)
  | clearRegions {log : List Ref} {w : World} (r : Ref) : RegionsReached F log w →
      RegionsReached F (((Frame.clearRegions r).after w).restart F log)
        ((Frame.clearRegions r).after w)
  | acquire {log : List Ref} {w : World} (p : Ref) : RegionsReached F log w →
      RegionsReached F (((FramePool.acquire p).after w).restart F log)
        ((FramePool.acquire p).after w)
  | reissue {log : List Ref} {w : World} (m : Ref) (c : Cache) (v : Ref) (h : Handle) :
      RegionsReached F log w → 0 < w.strongAt v →
      RegionsReached F (((Mapper.reissueFrame m c v h).after w).restart F log)
        ((Mapper.reissueFrame m c v h).after w)

variable {F : Ref} {log : List Ref} {w : World}

theorem keepsFrames_after {α : Type} {x : Act α} {c : Bool} {Q : α → World → Prop}
    (h : match x.run w with
      | .ok a w' => w.KeepsFrames c w' ∧ Q a w'
      | .error _ w' => w.KeepsFrames c w') : w.KeepsFrames c (x.after w) :=
  after_of_run h (fun _ _ h => h.1) (fun _ _ h => h)

theorem RegionsReached.logged (h : RegionsReached F log w) : w.RegionsLogged F log := by
  induction h with
  | start hF hl hc =>
    exact ⟨⟨_, hF⟩, by rwa [regionsAt_of_frame hF], hl, by rw [regionsAt_of_frame hF], hc⟩
  | regions r _ ih =>
    refine after_of_run (of_triple (Frame.pruneRegions_prunes r) rfl) ?_ fun _ _ hw => hw.1 ▸ ih
    rintro _ _ ⟨f, hf, rfl, rfl⟩
    exact ih.prune hf
  | addRegion _ hr hrun ih =>
    obtain ⟨wm, f, fg, hk, hf, hg, -, -, rfl⟩ :=
      Frame.addRegion_appends (.refl false _) (fun _ _ => hr) hrun
    exact ih.append hk hf ⟨fg, hg⟩
  | @addRegionFails _ _ _ r g _ _ hr hrun ih =>
    have hk := of_triple (Frame.addRegion_fails_keepsFrames r g) ⟨.refl false _, fun _ _ => hr⟩
    rw [hrun] at hk
    exact ih.keepsFrames hk
  | @region _ _ _ r _ rect _ hr hrun ih =>
    have hk := of_triple (Frame.region_keepsFrames r rect)
      ⟨.refl false _, fun _ _ => hr, ih.contexts.notDead⟩
    rw [hrun] at hk
    obtain ⟨wm, f, fg, hk, hf, hg, -, -, rfl⟩ := hk
    exact ih.append hk hf ⟨fg, hg⟩
  | @regionFails _ _ _ r rect _ _ hr hrun ih =>
    have hk := of_triple (Frame.region_keepsFrames r rect)
      ⟨.refl false _, fun _ _ => hr, ih.contexts.notDead⟩
    rw [hrun] at hk
    exact ih.keepsFrames hk
  | setParent g p _ ih =>
    exact ih.keepsFrames (keepsFrames_after (of_triple (Frame.setParent_keepsFrames g p) (.refl _ _)))
  | make media format tensors _ ih =>
    exact ih.keepsFrames (after_of_run (of_triple (Frame.make_keepsFrames media format tensors)
      (.refl _ _)) (fun _ _ h => h) (fun _ _ h => h))
  | release q _ ih =>
    exact ih.keepsFrames (after_of_run (of_triple (release_keepsFrames q) (.refl _ _))
      (fun _ _ h => h) (fun _ _ h => h))
  | clearRegions r _ ih =>
    exact ih.restarts (after_of_run (of_triple (Frame.clearRegions_keepsFrames r) (.refl _ _))
      (fun _ _ h => h) (fun _ _ h => h))
  | acquire p _ ih =>
    exact ih.restarts (after_of_run (of_triple (FramePool.acquire_keepsFrames p) (.refl _ _))
      (fun _ _ h => h) (fun _ _ h => h))
  | reissue m c v h _ hv ih =>
    exact ih.restarts (after_of_run (of_triple (Mapper.reissueFrame_keepsFrames m c v h)
      ⟨.refl _ _, fun _ _ => hv⟩) (fun _ _ h => h) (fun _ _ h => h))

end World

open World in
/-- Along any history of frame operations, asking `F` for its regions succeeds and answers the
frames added to `F` since its list was last emptied that something still holds, in the order they
were added, and leaves `F` listing just those. -/
theorem regions_answer_live_additions {F : Ref} {log : List Ref} {w : World}
    (h : RegionsReached F log w) :
    ∃ f, w.bodyAt F = some (.frame f) ∧
      (Frame.regionsOf F).run w = .ok (w.live log) (w.setBody F (.frame { f with regions := w.live log })) := by
  have hl := h.logged
  obtain ⟨f, hf⟩ := hl.frame
  have hlive := hl.live
  rw [regionsAt_of_frame hf] at hlive
  refine ⟨f, hf, ?_⟩
  rw [← hlive]
  refine Frame.run_pruneRegions hf fun g hg => ?_
  obtain ⟨fg, hfg⟩ := hl.listed g (by rwa [regionsAt_of_frame hf])
  exact lt_size_of_bodyAt hfg

open World in
/-- Cutting the corner of the frame of two rows of three bytes logs the region, and the frame then
answers it. -/
theorem corner_region_answered :
    ∃ g w, (Frame.region 1 ⟨0, 0, 1, 1⟩).run Frame.rowsFrameWorld = .ok g w ∧
      RegionsReached 1 [g] w ∧ ∃ f, w.bodyAt 1 = some (.frame f) ∧
        (Frame.regionsOf 1).run w =
          .ok (w.live [g]) (w.setBody 1 (.frame { f with regions := w.live [g] })) := by
  obtain ⟨g, w, hrun⟩ : ∃ g w, (Frame.region 1 ⟨0, 0, 1, 1⟩).run Frame.rowsFrameWorld = .ok g w :=
    ⟨_, _, rfl⟩
  have hcontexts : Frame.rowsFrameWorld.ContextsHeld := by
    intro q t k ht hk
    rcases q with _ | _ | q <;> simp [bodyAt, Frame.rowsFrameWorld] at ht
    subst ht
    simp [Tensor.hostRows] at hk
  have hstart : RegionsReached 1 [] Frame.rowsFrameWorld :=
    @RegionsReached.start 1 _ Frame.rowsFrame rfl (by simp [Frame.rowsFrame]) hcontexts
  have h : RegionsReached 1 [g] w := by simpa using hstart.region (by decide) hrun
  exact ⟨g, w, hrun, h, regions_answer_live_additions h⟩

/-- A region whose parent is cleared stays listed: the corner cut from the frame of two rows of
three bytes, once it has no parent, is still answered as a region of the frame. -/
theorem parentless_region_still_listed :
    ∃ g w w' fg, (Frame.region 1 ⟨0, 0, 1, 1⟩).run Frame.rowsFrameWorld = .ok g w ∧
      (Frame.clearParent g).run w = .ok () w' ∧ w'.bodyAt g = some (.frame fg) ∧
      fg.parent = none ∧ ∃ w'', (Frame.regionsOf 1).run w' = .ok [g] w'' :=
  ⟨_, _, _, _, rfl, rfl, rfl, rfl, _, rfl⟩

end MemBridge
