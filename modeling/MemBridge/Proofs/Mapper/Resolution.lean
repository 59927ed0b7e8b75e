import MemBridge.Proofs.Context.Registry
import MemBridge.Mapper.Resolve

/-!
Resolution runs between the ends it was asked for.

`Mapper.resolve` answers with a registered mapper, the identity of a context, one hop, or a
chain of hops, each possibly behind a cache, and registers what it built in both end contexts.
Whatever the path, in a sound world the answer is a sound registry entry for the two ends and
the policy asked for (`World.EntrySound`): it reads from the first context, writes to the last
one, is a cache of the policy when one is asked for and, in a history without hand-attached
caches, no cache otherwise. The hops of a list of contexts meet (each writes where the next
reads), so the chain of them is never broken.
-/

namespace MemBridge

open Std.Do

set_option mvcgen.warning false

-- A lemma of this module reaches `mvcgen` through a `have` (`specN`): named in the list, it would
-- make the proof wait until that lemma's own proof is checked. Where `grind` or `simp_all`
-- follows, the binding is cleared first, so that they do not take it up as a hypothesis.

def Fault.Unbroken : Fault → Prop
  | .chainBroken .. => False
  | _ => True

theorem Fault.Ordinary.unbroken {e : Fault} (h : e.Ordinary) : e.Unbroken := by
  cases e <;> simp_all [Fault.Ordinary, Fault.Unbroken]

namespace World

/-- Mappers `ms` run one after another from context `a` to context `b`, each reading from the
context the one before writes to. -/
inductive Path (w : World) : Ref → List Ref → Ref → Prop
  | one {m a b : Ref} : w.InputIs m a → w.OutputIs m b → w.Path a [m] b
  | cons {m a b c : Ref} {ms : List Ref} :
      w.InputIs m a → w.OutputIs m b → w.Path b ms c → w.Path a (m :: ms) c

namespace Path

variable {w w' : World} {a b : Ref} {ms : List Ref}

theorem of_keeps (hk : w.Keeps w') (h : w.Path a ms b) : w'.Path a ms b := by
  induction h with
  | one hi ho => exact .one (hi.of_keeps hk.skeletons) (ho.of_keeps hk.skeletons)
  | cons hi ho _ ih => exact .cons (hi.of_keeps hk.skeletons) (ho.of_keeps hk.skeletons) ih

theorem input_of_mem (h : w.Path a ms b) {m : Ref} (hm : m ∈ ms) : ∃ i, w.InputIs m i := by
  induction h with
  | one hi _ => exact ⟨_, List.mem_singleton.1 hm ▸ hi⟩
  | cons hi _ _ ih =>
    rcases List.mem_cons.1 hm with rfl | hm
    · exact ⟨_, hi⟩
    · exact ih hm

theorem exists_cons (h : w.Path a ms b) : ∃ m rest, ms = m :: rest ∧ w.InputIs m a := by
  cases h with
  | one hi _ => exact ⟨_, [], rfl, hi⟩
  | cons hi _ _ => exact ⟨_, _, rfl, hi⟩

theorem output_of_getLast (h : w.Path a ms b) {l : Ref} (hl : ms.getLast? = some l) :
    w.OutputIs l b := by
  induction h with
  | one _ ho => simp_all
  | @cons m _ _ _ rest _ _ hp ih =>
    obtain ⟨m', rest', rfl, -⟩ := hp.exists_cons
    exact ih (by simpa using hl)

theorem meet (h : w.Path a ms b) : ∀ p ∈ ms.zip ms.tail, ∃ c, w.OutputIs p.1 c ∧ w.InputIs p.2 c := by
  induction h with
  | one => simp
  | @cons m _ c _ rest _ ho hp ih =>
    obtain ⟨m', rest', rfl, hi'⟩ := hp.exists_cons
    intro p hp'
    rcases List.mem_cons.1 (by simpa using hp') with rfl | hp'
    · exact ⟨c, ho, hi'⟩
    · exact ih p (by simpa using hp')

theorem ne_nil (h : w.Path a ms b) : ms ≠ [] := by
  cases h <;> simp

theorem meet_at (h : w.Path a ms b) {l₁ l₂ : List ((Ref × Ref) × Nat)} {p : (Ref × Ref) × Nat}
    (hs : (ms.zip ms.tail).zipIdx = l₁ ++ p :: l₂) :
    ∃ c, w.OutputIs p.1.1 c ∧ w.InputIs p.1.2 c :=
  h.meet p.1 (List.fst_mem_of_mem_zipIdx (hs ▸ List.mem_append_right _ List.mem_cons_self))

theorem chain_ends (h : w.Path a ms b) {m : Ref} {name : String}
    (hm : w.bodyAt m = some (.mapper (.chain ms name))) : w.InputIs m a ∧ w.OutputIs m b := by
  obtain ⟨l, rest, rfl, hi⟩ := h.exists_cons
  have hl : (l :: rest).getLast? = some ((l :: rest).getLast (List.cons_ne_nil l rest)) :=
    List.getLast?_eq_some_getLast _
  exact ⟨.chain hm hi, .chain hm hl (h.output_of_getLast hl)⟩

theorem sound_push_chain {plain : Bool} (h : w.Path a ms b) (hs : w.Sound plain) (name : String) :
    (w.push ⟨1, .mapper (.chain ms name)⟩).Sound plain :=
  hs.push_mapper fun c hc => by
    obtain ⟨i, hi⟩ := h.input_of_mem (by simpa [Mapper.children] using hc)
    obtain ⟨x, hx⟩ := hi.exists_mapper
    exact lt_size_of_bodyAt hx

theorem push_chain_ends (h : w.Path a ms b) (name : String) :
    (w.push ⟨1, .mapper (.chain ms name)⟩).InputIs w.nodes.size a ∧
      (w.push ⟨1, .mapper (.chain ms name)⟩).OutputIs w.nodes.size b :=
  (h.of_keeps (Keeps.push _)).chain_ends (bodyAt_push_size _ _)

theorem of_hops {plain : Bool} : ∀ {a : Ref} {cs hs : List Ref} {b : Ref}, cs.getLast? = some b →
    List.Forall₂ (fun p m => w.EntrySound plain (⟨p.1, p.2, none⟩, m)) ((a :: cs).zip cs) hs →
    w.Path a hs b
  | _, [], _, _, hb, _ => by simp at hb
  | a, [c], hs, b, hb, h => by
    obtain rfl : c = b := by simpa using hb
    obtain ⟨m, hm, rfl⟩ : ∃ m, w.EntrySound plain (⟨a, c, none⟩, m) ∧ hs = [m] := by
      cases h with
      | cons hm hr => cases hr; exact ⟨_, hm, rfl⟩
    exact .one hm.input hm.output
  | a, c :: d :: cs, hs, b, hb, h => by
    cases h with
    | cons hm hr =>
      exact .cons hm.input hm.output (of_hops (by simpa using hb) hr)

end Path

theorem hops_single {R : Ref × Ref → Ref → Prop} :
    ∀ {cs : List Ref} {h f l : Ref}, List.Forall₂ R (cs.zip cs.tail) [h] → cs.head? = some f →
      cs.getLast? = some l → R (f, l) h
  | [], _, _, _, hr, _, _ => by cases hr
  | [_], _, _, _, hr, _, _ => by cases hr
  | [a, b], _, _, _, hr, hf, hl => by
    cases hr with
    | cons hab _ => simp_all
  | _ :: _ :: _ :: _, _, _, _, hr, _, _ => by
    cases hr with
    | cons _ hr' => cases hr'

theorem Path.of_list {plain : Bool} {w : World} {cs hs : List Ref} {f l : Ref}
    (h2 : 2 ≤ cs.length) (hf : cs.head? = some f) (hl : cs.getLast? = some l)
    (hr : List.Forall₂ (fun p m => w.EntrySound plain (⟨p.1, p.2, none⟩, m)) (cs.zip cs.tail) hs) :
    w.Path f hs l := by
  obtain ⟨rest, rfl⟩ : ∃ rest, cs = f :: rest := by
    cases cs with
    | nil => simp at hf
    | cons c rest => exact ⟨rest, by simpa using hf⟩
  obtain ⟨c, rest, rfl⟩ : ∃ c rest', rest = c :: rest' :=
    List.exists_cons_of_ne_nil (by rintro rfl; simp at h2)
  exact Path.of_hops (by simpa using hl) hr

theorem EntrySound.chain {plain : Bool} {w : World} {m f l : Ref} {links : List Ref} {name : String}
    (hm : w.bodyAt m = some (.mapper (.chain links name))) (h : w.Path f links l) :
    w.EntrySound plain (⟨f, l, none⟩, m) :=
  EntrySound.uncached_of_ends (h.chain_ends hm).1 (h.chain_ends hm).2 (by simp [IsCache, hm])

theorem EntrySound.cache {plain : Bool} {w : World} {m inner f l : Ref} {c : Cache}
    {p : PoolPolicy} (hm : w.bodyAt m = some (.mapper (.cache c))) (hc : c.inner = inner)
    (hp : c.policy = p) (h : w.EntrySound plain (⟨f, l, none⟩, inner)) :
    w.EntrySound plain (⟨f, l, some p⟩, m) where
  input := .cache hm (hc ▸ h.input)
  output := .cache hm (hc ▸ h.output)
  cached _ h := ⟨c, hm, by simp_all⟩
  uncached _ h := by simp at h

theorem EntrySound.push_cache {plain : Bool} {w : World} {inner f l : Ref} {policy : PoolPolicy}
    {name : String} (h : w.EntrySound plain (⟨f, l, none⟩, inner)) :
    (w.push ⟨1, .mapper (.cache { inner, policy, name })⟩).EntrySound plain
      (⟨f, l, some policy⟩, w.nodes.size) :=
  EntrySound.cache (bodyAt_push_size _ _) rfl rfl (h.of_keeps (Keeps.push _))

theorem Sound.push_cache {plain : Bool} {w : World} (hs : w.Sound plain) {inner i : Ref}
    (hi : w.InputIs inner i) {c : Cache} (hc : c.inner = inner) :
    (w.push ⟨1, .mapper (.cache c)⟩).Sound plain := by
  refine hs.push_mapper fun r hr => ?_
  obtain ⟨x, hx⟩ := hi.exists_mapper
  simp only [Mapper.children, List.mem_singleton] at hr
  exact hr ▸ hc ▸ lt_size_of_bodyAt hx

theorem Sound.push_cache_entry {plain : Bool} {w : World} (hs : w.Sound plain) {inner : Ref}
    {key : MapperKey} (h : w.EntrySound plain (key, inner)) {policy : PoolPolicy} {name : String} :
    (w.push ⟨1, .mapper (.cache { inner, policy, name })⟩).Sound plain :=
  hs.push_cache h.input rfl

end World

namespace Act

open World

variable {w₁ : World} {plain : Bool}

theorem collect_sound {α : Type} (items : List α) (step : α → Act Ref)
    (P : α → Ref → World → Prop) (E : α → Fault → World → Prop)
    (hP : ∀ x m w w', P x m w → w.Keeps w' → P x m w')
    (hE : ∀ x e w w', E x e w → w.Keeps w' → E x e w')
    (hstep : ∀ x (w₁ : World), ⦃fun w => ⌜w = w₁ ∧ w.Sound plain⌝⦄ step x
      ⦃post⟨fun m w => ⌜w₁.Keeps w ∧ w.Sound plain ∧ P x m w⌝,
        fun e w => ⌜w₁.Keeps w ∧ w.Sound plain ∧ E x e w⌝⟩⦄) :
    ⦃fun w => ⌜w = w₁ ∧ w.Sound plain⌝⦄ collect items step
    ⦃post⟨fun made w => ⌜w₁.Keeps w ∧ w.Sound plain ∧
        List.Forall₂ (fun x m => P x m w) items made⌝,
      fun e w => ⌜w₁.Keeps w ∧ w.Sound plain ∧ ((∃ x ∈ items, E x e w) ∨ e.Ordinary)⌝⟩⦄ := by
  unfold collect
  mvcgen [-Act.collect_spec, hstep, releaseAll_drops] invariants
  · post⟨fun ⟨cur, made⟩ w => ⌜w₁.Keeps w ∧ w.Sound plain ∧
        List.Forall₂ (fun x m => P x m w) cur.prefix made⌝,
      fun e w => ⌜w₁.Keeps w ∧ w.Sound plain ∧ ((∃ x ∈ items, E x e w) ∨ e.Ordinary)⌝⟩
  case vc2.step.post.success =>
    -- the objects made so far keep their promises in the world after the step
    rename_i hmade _ _ hx
    obtain ⟨hk, -, hl⟩ := hmade
    obtain ⟨hk', hs', hr⟩ := hx
    exact ⟨hk.trans hk', hs', List.rel_append (hl.imp fun x m h => hP x m _ _ h hk') (.cons hr .nil)⟩
  case vc3.step.post.except.handle.post.success | vc4.step.post.except.handle.post.except.handle =>
    -- a failed step: the objects made so far are released, which keeps the objects
    simp only [EStateM.Backtrackable.restore, EStateM.dummyRestore] at *
    grind [Keeps.trans, Keeps.of_sameObjects, Sound.of_sameObjects]
  all_goals grind [Keeps.refl, List.Forall₂.nil]

end Act

namespace Mapper

open Act World

variable {w₁ : World} {plain : Bool}

theorem nameOf_reads (m : Ref) :
    ⦃fun w => ⌜w = w₁⌝⦄ nameOf m ⦃World.Untouched w₁⦄ := by
  unfold nameOf
  mvcgen [-Act.mapper_spec, mapper_reads] <;> simp_all

theorem contextPieces_reads (c : Ref) :
    ⦃fun w => ⌜w = w₁⌝⦄ contextPieces c ⦃World.Untouched w₁⦄ := by
  unfold contextPieces
  mvcgen [-Act.context_spec, context_reads] <;> simp_all

theorem makeChain_pushes (links : List Ref) :
    ⦃fun w => ⌜w = w₁ ∧ ∃ a b, w.Path a links b⌝⦄ makeChain links
    ⦃post⟨fun m w => ⌜m = w₁.nodes.size ∧
        ∃ name, w = w₁.push ⟨1, .mapper (.chain links name)⟩⌝,
      fun e w => ⌜w = w₁ ∧ e.Ordinary⌝⟩⦄ := by
  unfold makeChain
  mvcgen [-Act.create_spec, -Mapper.output_spec, -Context.kindOf_spec, -Act.releaseAll_spec,
    output_reads, input_reads, nameOf_reads, contextPieces_reads, Context.kindOf_reads,
    releaseAll_drops, create_pushes] invariants
  · post⟨fun _ w => ⌜w = w₁ ∧ ∃ a b, w.Path a links b⌝, fun e w => ⌜w = w₁ ∧ e.Ordinary⌝⟩
  · post⟨fun _ w => ⌜w = w₁ ∧ ∃ a b, w.Path a links b⌝, fun e w => ⌜w = w₁ ∧ e.Ordinary⌝⟩
  all_goals grind [→ Path.meet_at, OutputIs.unique, InputIs.unique, Path.ne_nil]

theorem makeCache_pushes (inner : Ref) (policy : PoolPolicy) :
    ⦃fun w => ⌜w = w₁⌝⦄ makeCache inner policy
    ⦃post⟨fun m w => ⌜m = w₁.nodes.size ∧
        ∃ name, w = w₁.push ⟨1, .mapper (.cache { inner, policy, name })⟩⌝,
      fun e w => ⌜w = w₁ ∧ e.Ordinary⌝⟩⦄ := by
  unfold makeCache
  have spec1 := @nameOf_reads
  mvcgen [-Act.create_spec, spec1, create_pushes] <;> clear spec1
  all_goals grind

theorem hop_sound (i o : Ref) :
    ⦃fun w => ⌜w = w₁ ∧ w.Sound plain⌝⦄ hop i o
    ⦃post⟨fun m w => ⌜w₁.Keeps w ∧ w.Sound plain ∧ w.EntrySound plain (⟨i, o, none⟩, m)⌝,
      fun e w => ⌜w₁.Keeps w ∧ w.Sound plain ∧ e.Unbroken ∧
        ∀ a b, e = .noMapper a b → w.kindAt i = some a ∧ w.kindAt o = some b⌝⟩⦄ := by
  unfold hop
  mvcgen [-Context.kindOf_spec, Context.getMapper_sound, Context.kindOf_reads]
  all_goals simp_all [Fault.Unbroken]
  all_goals grind [Keeps.trans, Fault.Ordinary, Fault.Unbroken]

theorem hops_sound (cs : List Ref) (step : Ref × Ref → Act Ref) (hstep : ∀ p, step p = hop p.1 p.2) :
    ⦃fun w => ⌜w = w₁ ∧ w.Sound plain ∧ 2 ≤ cs.length⌝⦄ collect (cs.zip cs.tail) step
    ⦃post⟨fun hops w => ⌜w₁.Keeps w ∧ w.Sound plain ∧ ∃ f l, cs.head? = some f ∧
        cs.getLast? = some l ∧ w.Path f hops l ∧
        ∀ h, hops = [h] → w.EntrySound plain (⟨f, l, none⟩, h)⌝,
      fun e w => ⌜w₁.Keeps w ∧ w.Sound plain ∧ e.Unbroken ∧ ∀ a b, e = .noMapper a b →
        ∃ p ∈ cs.zip cs.tail, w.kindAt p.1 = some a ∧ w.kindAt p.2 = some b⌝⟩⦄ := by
  apply triple_of_run
  rintro w ⟨rfl, hs, h2⟩
  have h := of_triple (collect_sound (cs.zip cs.tail) step
    (fun p m w => w.EntrySound plain (⟨p.1, p.2, none⟩, m))
    (fun p e w => e.Unbroken ∧ ∀ a b, e = .noMapper a b →
      w.kindAt p.1 = some a ∧ w.kindAt p.2 = some b)
    (fun _ _ _ _ h hk => h.of_keeps hk)
    (fun _ _ _ _ h hk => ⟨h.1, fun a b he => (h.2 a b he).imp hk.kindAt_eq hk.kindAt_eq⟩)
    (fun p _ => hstep p ▸ hop_sound p.1 p.2)) ⟨rfl, hs⟩
  split
  · next hops w' heq =>
    rw [heq] at h
    obtain ⟨hk, hs', hr⟩ := h
    -- a list of two or more contexts has a first and a last one
    obtain ⟨f, rest, rfl⟩ := List.exists_cons_of_ne_nil
      (List.ne_nil_of_length_pos (show 0 < cs.length by omega))
    obtain ⟨l, hl⟩ : ∃ l, (f :: rest).getLast? = some l :=
      ⟨_, List.getLast?_eq_some_getLast (List.cons_ne_nil f rest)⟩
    exact ⟨hk, hs', f, l, rfl, hl, Path.of_list h2 rfl hl hr,
      fun h hh => hops_single (hh ▸ hr) rfl hl⟩
  · next e w' heq =>
    rw [heq] at h
    obtain ⟨hk, hs', ⟨p, hp, hu, hn⟩ | ho⟩ := h
    · exact ⟨hk, hs', hu, fun a b he => ⟨p, hp, hn a b he⟩⟩
    · -- a failure to release what was made is ordinary: no broken chain, no missing mapper
      exact ⟨hk, hs', ho.unbroken, fun a b he => by simp [he, Fault.Ordinary] at ho⟩

theorem bridge_sound (cs : List Ref) :
    ⦃fun w => ⌜w = w₁ ∧ w.Sound plain ∧ 2 ≤ cs.length⌝⦄ bridge cs
    ⦃post⟨fun m w => ⌜w₁.Keeps w ∧ w.Sound plain ∧ ∃ f l, cs.head? = some f ∧
        cs.getLast? = some l ∧ w.EntrySound plain (⟨f, l, none⟩, m)⌝,
      fun e w => ⌜w₁.Keeps w ∧ w.Sound plain ∧ e.Unbroken ∧ ∀ a b, e = .noMapper a b →
        ∃ p ∈ cs.zip cs.tail, w.kindAt p.1 = some a ∧ w.kindAt p.2 = some b⌝⟩⦄ := by
  unfold bridge
  have spec1 := @hops_sound
  have spec2 := @makeChain_pushes
  mvcgen [-Act.collect_spec, spec1, spec2] <;> clear spec1 spec2
  all_goals grind [Keeps.trans, Keeps.push, Path.sound_push_chain, Path.push_chain_ends,
    EntrySound.uncached_of_ends, IsCache, bodyAt_push_size, Fault.Ordinary.unbroken,
    Fault.Ordinary]

theorem registerEnds_sound (first last : Ref) (key : MapperKey) (m : Ref) :
    ⦃fun w => ⌜w = w₁ ∧ w.Sound plain ∧ w.EntrySound plain (key, m)⌝⦄
    registerEnds first last key m
    ⦃post⟨fun m' w => ⌜w₁.Keeps w ∧ w.Sound plain ∧ w.EntrySound plain (key, m') ∧
        (∀ m₀, w₁.LiveEntry first key m₀ → m' = m₀) ∧
        ((∀ m₀, ¬ w₁.LiveEntry first key m₀) → m' = m)⌝,
      fun e w => ⌜w₁.Keeps w ∧ w.Sound plain ∧ e.Ordinary⌝⟩⦄ := by
  unfold registerEnds
  mvcgen [-Act.retain_spec, -Act.release_spec, Context.register_sound, retain_bumps,
    release_drops]
  all_goals grind [Keeps.trans, Keeps.setStrong, Keeps.of_sameObjects, Sound.of_sameObjects,
    SameObjects.setStrong, EntrySound.of_keeps]

theorem resolve_sound (cs : List Ref) (cache : Option PoolPolicy) :
    ⦃fun w => ⌜w = w₁ ∧ w.Sound plain⌝⦄ resolve cs cache
    ⦃post⟨fun m w => ⌜w₁.Keeps w ∧ w.Sound plain ∧ 2 ≤ cs.length ∧
        ∃ first last, cs.head? = some first ∧ cs.getLast? = some last ∧
          w.EntrySound plain
            (⟨first, last, if cs.length = 2 ∧ first = last then none else cache⟩, m)⌝,
      fun e w => ⌜w₁.Keeps w ∧ w.Sound plain ∧ e.Unbroken ∧
        (cs.length < 2 → e = .invalidArgument
          s!"mapper resolution needs at least two contexts, got {cs.length}") ∧
        ∀ a b, e = .noMapper a b →
          ∃ p ∈ cs.zip cs.tail, w.kindAt p.1 = some a ∧ w.kindAt p.2 = some b⌝⟩⦄ := by
  unfold resolve resolve.tooFew
  -- the steps that need a sound world, for this history's `plain`
  have hget := fun w₀ : World => @Context.getMapper_sound w₀ plain
  have hbridge := fun w₀ : World => @bridge_sound w₀ plain
  have hends := fun w₀ : World => @registerEnds_sound w₀ plain
  -- the policy first: a match on it inside the run would have to generalise the postcondition
  cases cache <;>
  mvcgen [-Context.kindOf_spec, hget, Context.kindOf_reads, Context.registeredMapper_finds,
    hbridge, makeCache_pushes, hends]
  all_goals try simp only [← Option.eq_none_iff_forall_ne_some] at *
  all_goals grind [Keeps.trans, Keeps.setStrong, Keeps.push, Keeps.refl, Sound.of_sameObjects,
    SameObjects.setStrong, Sound.live_entry, EntrySound.of_keeps, EntrySound.push_cache,
    Sound.push_cache_entry, Fault.Ordinary.unbroken,
    Fault.Ordinary, Fault.Unbroken]

end Mapper

end MemBridge
