import MemBridge.Proofs.Mapper.Resolution

/-!
Registries along a history of requests. Every world reached from empty registries by asking for
mappers, attaching them (never a cache, in a `plain` history), resolving context lists, or steps
that keep every object is sound (`World.Reachable.sound`). So resolution answers with a mapper
between the list's ends, and a context asked for a mapper to itself answers with its registered
mapper or its identity.
-/

namespace MemBridge

open Std.Do

namespace Act

def after {α : Type} (x : Act α) (w : World) : World :=
  match x.run w with
  | .ok _ w' => w'
  | .error _ w' => w'

theorem after_of_run {α : Type} {x : Act α} {w : World} {Q : α → World → Prop}
    {E : Fault → World → Prop} {R : World → Prop}
    (h : match x.run w with
      | .ok a w' => Q a w'
      | .error e w' => E e w')
    (hq : ∀ a w', Q a w' → R w') (he : ∀ e w', E e w' → R w') : R (x.after w) := by
  unfold after
  split <;> rename_i heq <;> rw [heq] at h
  · exact hq _ _ h
  · exact he _ _ h

end Act

namespace World

open Act

/-- The worlds a history of registry requests reaches. It starts from a world whose mappers are
nested and whose contexts have empty registries; with `plain`, no cache is ever attached by hand.
The last step keeps every object and every mapper's skeleton and writes no registry entry that
was not there before: releasing a reference is such a step, and so is making objects that are no
registry entries. -/
inductive Reachable (plain : Bool) : World → Prop
  | fresh {w : World} : w.MappersNested →
      (∀ r x, w.bodyAt r = some (.context x) → x.registry = []) → Reachable plain w
  | getMapper {w : World} (r i o : Ref) : Reachable plain w →
      Reachable plain ((Context.getMapper r i o).after w)
  | attach {w : World} (r m : Ref) : Reachable plain w → (plain = true → ¬ w.IsCache m) →
      Reachable plain ((Context.attachMapper r m).after w)
  | resolve {w : World} (cs : List Ref) (cache : Option PoolPolicy) : Reachable plain w →
      Reachable plain ((Mapper.resolve cs cache).after w)
  | frame {w w' : World} : Reachable plain w → w.Keeps w' → w'.MappersNested →
      (∀ r x', w'.bodyAt r = some (.context x') → ∀ e ∈ x'.registry,
        ∃ x, w.bodyAt r = some (.context x) ∧ e ∈ x.registry) →
      Reachable plain w'

namespace Reachable

variable {plain : Bool} {w : World}

theorem sound (h : w.Reachable plain) : w.Sound plain := by
  induction h with
  | fresh hn hempty =>
    exact ⟨hn, fun r x hx e he => by simp [hempty r x hx] at he⟩
  | getMapper r i o _ ih =>
    exact after_of_run (of_triple (@Context.getMapper_sound _ plain r i o) ⟨rfl, ih⟩)
      (fun _ _ h => h.2.1) (fun _ _ h => h.2.1)
  | attach r m _ hm ih =>
    exact after_of_run (of_triple (@Context.attachMapper_sound _ plain r m) ⟨rfl, ih, hm⟩)
      (fun _ _ h => h.2) (fun _ _ h => h.2.1)
  | resolve cs cache _ ih =>
    exact after_of_run (of_triple (@Mapper.resolve_sound _ plain cs cache) ⟨rfl, ih⟩)
      (fun _ _ h => h.2.1) (fun _ _ h => h.2.1)
  | frame _ hk hn hreg ih =>
    refine ⟨hn, fun r x' hx' e he => ?_⟩
    obtain ⟨x, hx, he'⟩ := hreg r x' hx' e he
    exact (ih.registries r x hx e he').of_keeps hk

theorem release (h : w.Reachable plain) (r : Ref) : ((Act.release r).after w).Reachable plain := by
  have hsame : w.SameObjects ((Act.release r).after w) :=
    after_of_run (of_triple (@release_drops w r) rfl) (fun _ _ h => h) (fun _ _ h => h.1)
  refine h.frame (Keeps.of_sameObjects hsame) (h.sound.of_sameObjects hsame).nested
    fun r' x' hx' e he => ⟨x', ?_, he⟩
  exact (hsame.2 r' (.context x') (by simp [Body.variant])).1 hx'

end Reachable

end World

namespace Mapper

open Act World

/-- How resolving `cs` with `cache` may end, in a history that attached caches by hand or not
(`plain`). It answers with a mapper that `input` and `output` find to run from the first context
of the list to the last, that is a cache of the policy asked for unless the list is a pair of one
context, and that in a `plain` history is no cache when no policy is asked for. Or it fails with a
fault that is no broken chain, that is the complaint about a list of fewer than two contexts when
the list is one, and that names the kinds of a neighbouring pair when it finds no mapper. -/
def ResolvedAsAsked (plain : Bool) (cs : List Ref) (cache : Option PoolPolicy) :
    EStateM.Result Fault World Ref → Prop
  | .ok m w => 2 ≤ cs.length ∧ ∃ first last, cs.head? = some first ∧ cs.getLast? = some last ∧
      (input m).run w = .ok first w ∧ (output m).run w = .ok last w ∧
      (∀ p, cache = some p → ¬ (cs.length = 2 ∧ first = last) →
        ∃ c, w.bodyAt m = some (.mapper (.cache c)) ∧ c.policy = p) ∧
      (plain = true → cache = none → ¬ w.IsCache m)
  | .error e w => e.Unbroken ∧
      (cs.length < 2 → e = .invalidArgument
        s!"mapper resolution needs at least two contexts, got {cs.length}") ∧
      ∀ a b, e = .noMapper a b →
        ∃ p ∈ cs.zip cs.tail, w.kindAt p.1 = some a ∧ w.kindAt p.2 = some b

/-- In every reachable world, resolution ends as asked: the registry entry it answers with is
sound for the two ends and the policy, so the mapper runs between the ends of the list. -/
theorem resolve_as_asked {plain : Bool} {w : World} (hw : w.Reachable plain) (cs : List Ref)
    (cache : Option PoolPolicy) : ResolvedAsAsked plain cs cache ((resolve cs cache).run w) := by
  have h := of_triple (@resolve_sound w plain cs cache) ⟨rfl, hw.sound⟩
  generalize (resolve cs cache).run w = res at h ⊢
  cases res with
  | ok m w' =>
    obtain ⟨-, hs, hlen, first, last, hf, hl, he⟩ := h
    refine ⟨hlen, first, last, hf, hl, run_input hs.nested he.input,
      run_output hs.nested he.output, ?cached, ?uncached⟩
    case cached =>
      intro p hp hpair
      exact he.cached p (by simp [hpair, hp])
    case uncached =>
      intro hplain hnone
      -- the key has no policy either way: none was asked for
      exact he.uncached hplain (by split <;> simp [hnone])
  | error e w' =>
    obtain ⟨-, -, hu, hfew, hkinds⟩ := h
    exact ⟨hu, hfew, hkinds⟩

/-- Two contexts, of VA-API (0) and DMA memory (1), a direct mapper between them (2) and a cache
in front of it (3); nothing is registered yet. -/
def vaDmaWorld : World where
  nodes := #[⟨1, .context ⟨0, none, .plain .vaapi, []⟩⟩, ⟨1, .context ⟨1, none, .plain .dma, []⟩⟩,
    ⟨1, .mapper (.direct .vaapiToDma 0 1 none)⟩,
    ⟨1, .mapper (.cache { inner := 2, policy := .strict, name := "cache(vaapi_to_dma)" })⟩]

theorem vaDmaWorld_reachable (plain : Bool) : vaDmaWorld.Reachable plain := by
  refine .fresh ?nested ?empty
  case nested =>
    rintro (_ | _ | _ | _ | r) m h <;> simp [vaDmaWorld, bodyAt] at h <;> subst h <;>
      simp [Mapper.children]
  case empty =>
    rintro (_ | _ | _ | _ | r) x h <;> simp [vaDmaWorld, bodyAt] at h <;> subst h <;> rfl

theorem vaDma_resolution_as_asked :
    vaDmaWorld.Reachable true ∧
      ResolvedAsAsked true [0, 1] none ((resolve [0, 1] none).run vaDmaWorld) :=
  ⟨vaDmaWorld_reachable true, resolve_as_asked (vaDmaWorld_reachable true) [0, 1] none⟩

/-- A cache attached by hand is registered under the uncached key of its ends, so resolving the
two contexts without a policy answers with the cache. -/
theorem attached_cache_answers_uncached :
    ((Context.attachMapper 0 3).after vaDmaWorld).Reachable false ∧
      ∃ w', (resolve [0, 1] none).run ((Context.attachMapper 0 3).after vaDmaWorld) = .ok 3 w' ∧
        w'.IsCache 3 :=
  ⟨.attach 0 3 (vaDmaWorld_reachable false) (by simp), _, rfl, _, rfl⟩

end Mapper

/-! ## A context's own pair -/

namespace Mapper

open Act World

variable {w w' : World} {m c src : Ref} {mode : AccessMode}

theorem run_mapTensor : (mapTensor m src mode).run w =
    (tensorWith (w.nodes.size + 1) m src mode).run w := by
  simp [mapTensor, depth, EStateM.run_bind]

theorem run_mapFrame : (mapFrame m src mode).run w =
    (frameWith (w.nodes.size + 1) m src mode).run w := by
  simp [mapFrame, depth, EStateM.run_bind]

theorem mapTensor_identity (hm : w.bodyAt m = some (.mapper (.identity c))) {n : Node}
    (hn : w.nodes[src]? = some n) :
    (mapTensor m src mode).run w = .ok src (w.setStrong src n (n.strong + 1)) := by
  rw [run_mapTensor]
  simp [tensorWith, EStateM.run_bind, run_mapper hm, run_retain hn]

theorem mapFrame_identity (hm : w.bodyAt m = some (.mapper (.identity c))) {n : Node}
    (hn : w.nodes[src]? = some n) :
    (mapFrame m src mode).run w = .ok src (w.setStrong src n (n.strong + 1)) := by
  rw [run_mapFrame]
  simp [frameWith, EStateM.run_bind, run_mapper hm, run_retain hn]

end Mapper

namespace Context

open Act World

variable {plain : Bool} {w : World} {c : Ref} {x : Context}

theorem getMapper_self (hs : w.Sound plain) (hc : w.bodyAt c = some (.context x)) :
    ∃ m w', (getMapper c c c).run w = .ok (some m) w' ∧
      (∀ m₀, w.LiveEntry c ⟨c, c, none⟩ m₀ → m = m₀) ∧
      ((∀ m₀, ¬ w.LiveEntry c ⟨c, c, none⟩ m₀) → w'.bodyAt m = some (.mapper (.identity c))) := by
  have h := of_triple (@getMapper_sound w plain c c c) ⟨rfl, hs⟩
  generalize (getMapper c c c).run w = res at h ⊢
  cases res with
  | ok res w' =>
    obtain ⟨-, -, hsome, hentry⟩ := h
    obtain ⟨m, rfl⟩ := Option.isSome_iff_exists.1 (hsome rfl)
    obtain ⟨-, hlive, hid⟩ := hentry m rfl
    exact ⟨m, w', rfl, hlive, fun hnone => hid hnone rfl (by simp [hc])⟩
  | error e w' =>
    -- a context whose registry names only objects always answers for its own pair
    exact (h.2.2.2 rfl (hs.registryAt hc) ⟨x, hc⟩).elim

end Context

namespace Mapper

open Act World

variable {plain : Bool} {w : World} {c : Ref} {x : Context}

theorem resolve_self_pair {m : Ref} {w' : World} (cache : Option PoolPolicy)
    (h : (Context.getMapper c c c).run w = .ok (some m) w') :
    (resolve [c, c] cache).run w = .ok m w' := by
  simp [resolve, EStateM.run_bind, h]

/-- In every reachable world a context answers for its own pair, asked directly or by resolving
the pair, with one mapper: the live mapper registered for the pair if there is one, and otherwise
a new identity of the context, which hands back the tensor or frame it is given. -/
theorem self_pair_answer (hw : w.Reachable plain) (hc : w.bodyAt c = some (.context x))
    (cache : Option PoolPolicy) :
    ∃ m w', (Context.getMapper c c c).run w = .ok (some m) w' ∧
      (resolve [c, c] cache).run w = .ok m w' ∧
      (∀ m₀, w.LiveEntry c ⟨c, c, none⟩ m₀ → m = m₀) ∧
      ((∀ m₀, ¬ w.LiveEntry c ⟨c, c, none⟩ m₀) →
        w'.bodyAt m = some (.mapper (.identity c)) ∧
        ∀ src mode n, w'.nodes[src]? = some n →
          (mapTensor m src mode).run w' = .ok src (w'.setStrong src n (n.strong + 1)) ∧
          (mapFrame m src mode).run w' = .ok src (w'.setStrong src n (n.strong + 1))) := by
  obtain ⟨m, w', hrun, hlive, hid⟩ := Context.getMapper_self hw.sound hc
  refine ⟨m, w', hrun, resolve_self_pair cache hrun, hlive, fun hnone => ?_⟩
  have hm := hid hnone
  exact ⟨hm, fun src mode n hn => ⟨mapTensor_identity hm hn, mapFrame_identity hm hn⟩⟩

def fdFiveTensor : Tensor where
  kind := .dma
  layout := ⟨[4], [1], .uint8⟩
  handles := [("dma_fd", .num 5)]
  primary := "dma_fd"

def identityCache : Cache where
  inner := 1
  policy := .reissue
  tensors := [⟨.num 5, .read, some 3⟩]
  name := "cache(identity)"

/-- A context of DMA memory (0), its identity (1) behind `identityCache` (2), the tensor the cache
holds (3), and another tensor with the same handle (4); nothing is registered yet. -/
def selfCacheWorld : World where
  nodes := #[⟨1, .context ⟨0, none, .plain .dma, []⟩⟩, ⟨1, .mapper (.identity 0)⟩,
    ⟨1, .mapper (.cache identityCache)⟩, ⟨2, .tensor fdFiveTensor⟩, ⟨1, .tensor fdFiveTensor⟩]

theorem selfCacheWorld_reachable (plain : Bool) : selfCacheWorld.Reachable plain := by
  refine .fresh ?nested ?empty
  case nested =>
    rintro (_ | _ | _ | _ | _ | r) m h <;> simp [selfCacheWorld, bodyAt] at h <;> subst h <;>
      simp [Mapper.children, identityCache]
  case empty =>
    rintro (_ | _ | _ | _ | _ | r) x h <;> simp [selfCacheWorld, bodyAt] at h
    subst h
    rfl

/-- With nothing registered for it, the context answers for its own pair with its identity. -/
theorem fresh_self_pair_is_identity :
    ∃ m w', (Context.getMapper 0 0 0).run selfCacheWorld = .ok (some m) w' ∧
      w'.bodyAt m = some (.mapper (.identity 0)) := by
  obtain ⟨m, w', hrun, -, -, hid⟩ :=
    self_pair_answer (selfCacheWorld_reachable true)
      (show selfCacheWorld.bodyAt 0 = some (.context _) from rfl) none
  -- the context's registry is empty
  have hnone : ∀ m₀, ¬ selfCacheWorld.LiveEntry 0 ⟨0, 0, none⟩ m₀ := by
    rintro m₀ ⟨x, hx, hl, -⟩
    simp [selfCacheWorld, bodyAt] at hx
    subst hx
    simp at hl
  exact ⟨m, w', hrun, (hid hnone).1⟩

/-- Once the cache is attached to the context, it is registered for the context's own pair, so
resolving the pair answers with the cache, which hands out tensor 3 for tensor 4. -/
theorem attached_cache_answers_self_pair :
    ((Context.attachMapper 0 2).after selfCacheWorld).Reachable false ∧
      ∃ w', (resolve [0, 0] none).run ((Context.attachMapper 0 2).after selfCacheWorld) =
          .ok 2 w' ∧
        ∃ w'', (mapTensor 2 4 .read).run w' = .ok 3 w'' := by
  refine ⟨.attach 0 2 (selfCacheWorld_reachable false) (by simp), _, rfl, ?_⟩
  rw [run_mapTensor, tensorWith_cache_hit _ rfl rfl rfl rfl]
  exact ⟨_, rfl⟩

end Mapper

end MemBridge
