import MemBridge.Proofs.Mapper.Ends
import MemBridge.Proofs.Mapper.Cache
import MemBridge.Context.Registry

/-!
Sound registries.

A context's registry maps a key (an input context, an output context and an optional cache
policy) to a mapper, which may since have died. An entry is sound when its mapper runs from the
key's input context to its output context and, when the key names a policy, is a cache of that
policy (`World.EntrySound`). In a history where no cache was ever attached by hand (`plain`), an
entry whose key names no policy holds no cache either. A world is sound when its mappers are
nested and every entry of every registry is sound (`World.Sound`).

Only `Context.insertMapper` writes a registry. Everything else that `Context.getMapper` runs
reads the world, bumps or drops strong counts, or adds objects, and so keeps every context's
backend and every mapper's skeleton (`World.Keeps`), which keeps entries sound. Each operation
gets a triple from the world it starts in (`w = w₁`), so that what an earlier step found out
carries over to later steps through `World.Keeps`.
-/

namespace MemBridge

open Std.Do

set_option mvcgen.warning false

-- A lemma of this module reaches `mvcgen` through a `have` (`specN`): named in the list, it would
-- make the proof wait until that lemma's own proof is checked. Where `grind` or `simp_all`
-- follows, the binding is cleared first, so that they do not take it up as a hypothesis.

/-- A fault of reading or building, none of the two that only resolution raises: a broken chain
and a missing mapper. -/
def Fault.Ordinary : Fault → Prop
  | .chainBroken .. => False
  | .noMapper .. => False
  | _ => True

@[simp, grind .] theorem Fault.ordinary_halt (msg : String) : (Fault.halt msg).Ordinary := trivial

namespace World

def IsCache (w : World) (m : Ref) : Prop := ∃ c, w.bodyAt m = some (.mapper (.cache c))

/-- A registry entry whose mapper runs between the contexts of its key and is a cache of the
key's policy, if any; with `plain`, a key without policy holds no cache. -/
structure EntrySound (plain : Bool) (w : World) (e : MapperKey × Ref) : Prop where
  input : w.InputIs e.2 e.1.input
  output : w.OutputIs e.2 e.1.output
  cached : ∀ p, e.1.cache = some p → ∃ c, w.bodyAt e.2 = some (.mapper (.cache c)) ∧ c.policy = p
  uncached : plain = true → e.1.cache = none → ¬ w.IsCache e.2

/-- Mappers are nested and every registry entry is sound. -/
structure Sound (plain : Bool) (w : World) : Prop where
  nested : w.MappersNested
  registries : ∀ r x, w.bodyAt r = some (.context x) → ∀ e ∈ x.registry, w.EntrySound plain e

/-- `w'` has every object of `w`, each context with its backend and each mapper with its
skeleton. -/
structure Keeps (w w' : World) : Prop where
  size_le : w.nodes.size ≤ w'.nodes.size
  skeletons : w.KeepsSkeletons w'
  backends : ∀ r x, w.bodyAt r = some (.context x) →
    ∃ x', w'.bodyAt r = some (.context x') ∧ x'.backend = x.backend

def SameObjects (w w' : World) : Prop :=
  w'.nodes.size = w.nodes.size ∧
    ∀ r x, x.variant ≠ .device → (w'.bodyAt r = some x ↔ w.bodyAt r = some x)

def kindAt (w : World) (r : Ref) : Option MemoryKind :=
  match w.bodyAt r with
  | some (.context x) => some x.backend.kind
  | _ => none

def insertEntry (w : World) (reg : List (MapperKey × Ref)) (key : MapperKey) (m : Ref) :
    List (MapperKey × Ref) :=
  ((reg.filter fun e => decide (0 < w.strongAt e.2)).filter (·.1 != key)) ++ [(key, m)]

def LiveEntry (w : World) (r : Ref) (key : MapperKey) (m : Ref) : Prop :=
  ∃ x, w.bodyAt r = some (.context x) ∧ x.registry.lookup key = some m ∧ 0 < w.strongAt m

/-- `r` is a context whose registry names only objects of `w`: what the registry operations need
to run to the end. -/
def RegistryAt (w : World) (r : Ref) : Prop :=
  ∃ x, w.bodyAt r = some (.context x) ∧ ∀ e ∈ x.registry, e.2 < w.nodes.size

namespace SameObjects

variable {w w' w'' : World}

@[grind ←] theorem refl (w : World) : w.SameObjects w := ⟨rfl, fun _ _ _ => Iff.rfl⟩

@[grind →] theorem trans (h₁ : w.SameObjects w') (h₂ : w'.SameObjects w'') : w.SameObjects w'' :=
  ⟨h₂.1.trans h₁.1, fun r x hx => (h₂.2 r x hx).trans (h₁.2 r x hx)⟩

theorem setStrong {r : Ref} {n : Node} (hn : w.nodes[r]? = some n) (k : Nat) :
    w.SameObjects (w.setStrong r n k) :=
  ⟨by simp, fun r' x _ => by rw [bodyAt_setStrong hn]⟩

@[grind ←] theorem trans_setStrong {r : Ref} {n : Node} {k : Nat} (h : w.SameObjects w')
    (hn : w'.nodes[r]? = some n) : w.SameObjects (w'.setStrong r n k) :=
  h.trans (setStrong hn k)

@[grind →] theorem of_setStrong {r : Ref} {n : Node} {k : Nat} (hn : w.nodes[r]? = some n)
    (h : (w.setStrong r n k).SameObjects w') : w.SameObjects w' :=
  (setStrong hn k).trans h

@[grind ←] theorem mk_nodes {a : Array (Option HostPool)} {hp : Heap} {d c : Nat} {t : Int}
    (h : w.SameObjects w') : w.SameObjects ⟨w'.nodes, a, hp, d, c, t⟩ := h

@[grind →] theorem of_mk {a : Array (Option HostPool)} {hp : Heap} {d c : Nat} {t : Int}
    (h : (⟨w.nodes, a, hp, d, c, t⟩ : World).SameObjects w') : w.SameObjects w' := h

/-- Replacing a device by a device. -/
@[grind ←] theorem trans_setDevice {r : Ref} {d : Device} (h : w.SameObjects w')
    (hd : (w'.bodyAt r).map Body.variant = some .device) :
    w.SameObjects (w'.setBody r (.device d)) := by
  refine ⟨by simpa using h.1, fun r' x hx => ?_⟩
  rw [← h.2 r' x hx, bodyAt_setBody]
  split
  · next e =>
    obtain ⟨rfl, -⟩ := e
    obtain ⟨y, hy, hv⟩ := Option.map_eq_some_iff.1 hd
    rw [hy]
    constructor <;> (intro e; cases e; simp_all [Body.variant])
  · exact Iff.rfl

end SameObjects

theorem EntrySound.uncached_of_ends {plain : Bool} {w : World} {m i o : Ref}
    (hi : w.InputIs m i) (ho : w.OutputIs m o) (hc : plain = true → ¬ w.IsCache m) :
    w.EntrySound plain (⟨i, o, none⟩, m) :=
  ⟨hi, ho, by simp, fun hp _ => hc hp⟩

theorem EntrySound.identity {plain : Bool} {w : World} {m c : Ref}
    (h : w.bodyAt m = some (.mapper (.identity c))) : w.EntrySound plain (⟨c, c, none⟩, m) where
  input := .identity h
  output := .identity h
  cached := by simp
  uncached _ _ := by simp [IsCache, h]

theorem EntrySound.direct {plain : Bool} {w : World} {m i o : Ref} {route : Route}
    {d : Option Ref} (h : w.bodyAt m = some (.mapper (.direct route i o d))) :
    w.EntrySound plain (⟨i, o, none⟩, m) where
  input := .direct h
  output := .direct h
  cached := by simp
  uncached _ _ := by simp [IsCache, h]

theorem LiveEntry.unique {w : World} {r : Ref} {key : MapperKey} {m m' : Ref}
    (h : w.LiveEntry r key m) (h' : w.LiveEntry r key m') : m = m' := by
  obtain ⟨x, hx, hl, -⟩ := h
  obtain ⟨x', hx', hl', -⟩ := h'
  simp_all

theorem bodyAt_eq_none_of_size_le {w : World} {r : Ref} (h : w.nodes.size ≤ r) :
    w.bodyAt r = none := by
  simpa [bodyAt] using h

namespace RegistryAt

variable {w : World} {r : Ref}

theorem exists_context (h : w.RegistryAt r) : ∃ x, w.bodyAt r = some (.context x) :=
  h.imp fun _ hx => hx.1

theorem lt_of_split (h : w.RegistryAt r) {x : Context} (hx : w.bodyAt r = some (.context x))
    {l₁ l₂ : List (MapperKey × Ref)} {e : MapperKey × Ref} (he : x.registry = l₁ ++ e :: l₂) :
    e.2 < w.nodes.size := by
  obtain ⟨x', hx', hlt⟩ := h
  rw [hx] at hx'
  cases hx'
  exact hlt e (he ▸ List.mem_append_right _ List.mem_cons_self)

theorem lookup_lt (h : w.RegistryAt r) {x : Context} (hx : w.bodyAt r = some (.context x))
    {key : MapperKey} {m : Ref} (hl : x.registry.lookup key = some m) : m < w.nodes.size := by
  obtain ⟨l₁, l₂, hreg, -⟩ := List.lookup_eq_some_iff.1 hl
  exact h.lt_of_split hx hreg

theorem setStrong (h : w.RegistryAt r) {c : Ref} {n : Node} (hn : w.nodes[c]? = some n) (k : Nat) :
    (w.setStrong c n k).RegistryAt r := by
  obtain ⟨x, hx, hlt⟩ := h
  exact ⟨x, by rw [bodyAt_setStrong hn]; exact hx, by simpa using hlt⟩

theorem push (h : w.RegistryAt r) (n : Node) : (w.push n).RegistryAt r := by
  obtain ⟨x, hx, hlt⟩ := h
  have hr : r ≠ w.nodes.size := Nat.ne_of_lt (lt_size_of_bodyAt hx)
  refine ⟨x, by rw [bodyAt_push, if_neg hr]; exact hx, fun e he => ?_⟩
  simpa using Nat.lt_succ_of_lt (hlt e he)

end RegistryAt

namespace Keeps

variable {w w' w'' : World}

@[refl] theorem refl (w : World) : w.Keeps w where
  size_le := Nat.le_refl _
  skeletons := fun _ m h => ⟨m, h, rfl⟩
  backends := fun _ x h => ⟨x, h, rfl⟩

theorem trans (h₁ : w.Keeps w') (h₂ : w'.Keeps w'') : w.Keeps w'' where
  size_le := h₁.size_le.trans h₂.size_le
  skeletons r m h := by
    obtain ⟨m₁, h₁', e₁⟩ := h₁.skeletons r m h
    obtain ⟨m₂, h₂', e₂⟩ := h₂.skeletons r m₁ h₁'
    exact ⟨m₂, h₂', e₂.trans e₁⟩
  backends r x h := by
    obtain ⟨x₁, h₁', e₁⟩ := h₁.backends r x h
    obtain ⟨x₂, h₂', e₂⟩ := h₂.backends r x₁ h₁'
    exact ⟨x₂, h₂', e₂.trans e₁⟩

theorem of_sameObjects (h : w.SameObjects w') : w.Keeps w' where
  size_le := h.1.ge
  skeletons r m hm := ⟨m, (h.2 r _ (by simp [Body.variant])).2 hm, rfl⟩
  backends r x hx := ⟨x, (h.2 r _ (by simp [Body.variant])).2 hx, rfl⟩

theorem push (n : Node) : w.Keeps (w.push n) :=
  have old : ∀ r x, w.bodyAt r = some x → (w.push n).bodyAt r = some x := fun r x hx => by
    rw [bodyAt_push, if_neg (Nat.ne_of_lt (lt_size_of_bodyAt hx))]; exact hx
  { size_le := by simp
    skeletons := fun r m hm => ⟨m, old r _ hm, rfl⟩
    backends := fun r x hx => ⟨x, old r _ hx, rfl⟩ }

theorem setContext {r : Ref} {x x' : Context} (hx : w.bodyAt r = some (.context x))
    (hb : x'.backend = x.backend) : w.Keeps (w.setBody r (.context x')) where
  size_le := by simp
  skeletons r' m hm := by
    refine ⟨m, ?_, rfl⟩
    rw [bodyAt_setBody, if_neg fun e => by simp_all]
    exact hm
  backends r' y hy := by
    by_cases e : r' = r
    · subst e
      refine ⟨x', bodyAt_setBody_of_lt _ (lt_size_of_bodyAt hx), ?_⟩
      simp_all
    · exact ⟨y, by rw [bodyAt_setBody, if_neg fun h => e h.1]; exact hy, rfl⟩

theorem setStrong {r : Ref} {n : Node} (hn : w.nodes[r]? = some n) (k : Nat) :
    w.Keeps (w.setStrong r n k) :=
  of_sameObjects (SameObjects.setStrong hn k)

theorem kindAt_eq (hk : w.Keeps w') {r : Ref} {k : MemoryKind} (h : w.kindAt r = some k) :
    w'.kindAt r = some k := by
  unfold kindAt at h ⊢
  split at h
  · next x hx =>
    obtain ⟨x', hx', hb⟩ := hk.backends r x hx
    simp_all
  · simp at h

theorem identity_eq (hk : w.Keeps w') {m c : Ref} (h : w.bodyAt m = some (.mapper (.identity c))) :
    w'.bodyAt m = some (.mapper (.identity c)) := by
  obtain ⟨x, hx, hs⟩ := hk.skeletons m _ h
  rw [hx, Mapper.skeleton_eq_identity hs]

theorem isCache_iff (hk : w.Keeps w') {m : Ref} {x : Mapper}
    (hm : w.bodyAt m = some (.mapper x)) : w'.IsCache m ↔ w.IsCache m := by
  obtain ⟨x', hx', hs⟩ := hk.skeletons m x hm
  simp only [IsCache, hm, hx', Option.some.injEq, Body.mapper.injEq]
  cases x <;> cases x' <;> simp_all [Mapper.skeleton]

end Keeps

theorem EntrySound.of_keeps {plain : Bool} {w w' : World} {e : MapperKey × Ref}
    (hk : w.Keeps w') (he : w.EntrySound plain e) : w'.EntrySound plain e where
  input := he.input.of_keeps hk.skeletons
  output := he.output.of_keeps hk.skeletons
  cached p hp := by
    obtain ⟨c, hc, rfl⟩ := he.cached p hp
    obtain ⟨m', hm', hs⟩ := hk.skeletons _ _ hc
    obtain ⟨c', rfl, -, hpol⟩ := Mapper.skeleton_eq_cache hs
    exact ⟨c', hm', hpol⟩
  uncached hp hc := by
    obtain ⟨x, hx⟩ := he.input.exists_mapper
    rw [hk.isCache_iff hx]
    exact he.uncached hp hc

namespace Sound

variable {plain : Bool} {w w' : World}

theorem of_sameObjects (hs : w.Sound plain) (h : w.SameObjects w') : w'.Sound plain where
  nested r m hm := hs.nested r m ((h.2 r _ (by simp [Body.variant])).1 hm)
  registries r x hx e he :=
    (hs.registries r x ((h.2 r _ (by simp [Body.variant])).1 hx) e he).of_keeps
      (Keeps.of_sameObjects h)

theorem push_mapper (hs : w.Sound plain) {k : Nat} {m : Mapper}
    (hm : ∀ c ∈ m.children, c < w.nodes.size) : (w.push ⟨k, .mapper m⟩).Sound plain where
  nested := hs.nested.push_mapper hm
  registries r x hx e he := by
    rw [bodyAt_push] at hx
    split at hx
    · simp at hx
    · exact (hs.registries r x hx e he).of_keeps (Keeps.push _)

theorem setRegistry (hs : w.Sound plain) {r : Ref} {x : Context}
    (hx : w.bodyAt r = some (.context x)) {reg : List (MapperKey × Ref)}
    (hreg : ∀ e ∈ reg, w.EntrySound plain e) :
    (w.setBody r (.context { x with registry := reg })).Sound plain where
  nested r' m hm := by
    rw [bodyAt_setBody] at hm
    split at hm
    · simp at hm
    · exact hs.nested r' m hm
  registries r' y hy e he := by
    have hk : w.Keeps (w.setBody r (.context { x with registry := reg })) :=
      Keeps.setContext hx rfl
    rw [bodyAt_setBody] at hy
    split at hy
    · simp only [Option.some.injEq, Body.context.injEq] at hy
      subst hy
      exact (hreg e he).of_keeps hk
    · exact (hs.registries r' y hy e he).of_keeps hk

theorem registryAt (hs : w.Sound plain) {r : Ref} {x : Context}
    (hx : w.bodyAt r = some (.context x)) : w.RegistryAt r := by
  refine ⟨x, hx, fun e he => ?_⟩
  obtain ⟨y, hy⟩ := (hs.registries r x hx e he).input.exists_mapper
  exact lt_size_of_bodyAt hy

theorem live_entry (hs : w.Sound plain) {r : Ref} {key : MapperKey} {m : Ref}
    (h : w.LiveEntry r key m) : w.EntrySound plain (key, m) := by
  obtain ⟨x, hx, hl, -⟩ := h
  obtain ⟨l₁, l₂, hreg, -⟩ := List.lookup_eq_some_iff.1 hl
  exact hs.registries r x hx _ (hreg ▸ List.mem_append_right _ List.mem_cons_self)


theorem insert (hs : w.Sound plain) {r : Ref} {x : Context} {key : MapperKey} {m : Ref}
    (hx : w.bodyAt r = some (.context x)) (he : w.EntrySound plain (key, m)) :
    (w.setBody r (.context { x with registry := w.insertEntry x.registry key m })).Sound plain :=
  hs.setRegistry hx fun e he' => by
    simp only [insertEntry, List.mem_append, List.mem_filter, List.mem_singleton] at he'
    rcases he' with ⟨⟨hmem, -⟩, -⟩ | rfl
    · exact hs.registries r x hx e hmem
    · exact he

theorem liveEntry_of_retain_push (hs : w.Sound plain) {c r : Ref} {n : Node} {k : Nat} {x : Node}
    {key : MapperKey} {m : Ref} (hn : w.nodes[c]? = some n)
    (hc : ∀ y, w.bodyAt c ≠ some (.mapper y)) (hx : ∀ y, x.body ≠ .context y)
    (h : ((w.setStrong c n k).push x).LiveEntry r key m) : w.LiveEntry r key m := by
  obtain ⟨y, hy, hl, hlive⟩ := h
  have hy' : w.bodyAt r = some (.context y) := by
    rw [bodyAt_push] at hy
    split at hy
    · exact absurd (Option.some.inj hy) (hx y)
    · rwa [bodyAt_setStrong hn] at hy
  -- the registered mapper is an older mapper: neither the new object nor `c`
  obtain ⟨l₁, l₂, hreg, -⟩ := List.lookup_eq_some_iff.1 hl
  have he := hs.registries r y hy' _ (hreg ▸ List.mem_append_right _ List.mem_cons_self)
  obtain ⟨z, hz⟩ := he.input.exists_mapper
  have hm : m < w.nodes.size := lt_size_of_bodyAt hz
  have hmc : m ≠ c := fun e => hc z (e ▸ hz)
  refine ⟨y, hy', hl, ?_⟩
  rwa [strongAt_push, if_neg (show m ≠ (w.setStrong c n k).nodes.size by simpa using Nat.ne_of_lt hm),
    strongAt_setStrong hn, if_neg hmc] at hlive

theorem liveEntry_of_identity (hs : w.Sound plain) {c r : Ref} {n : Node} {key : MapperKey}
    {m : Ref} (hn : w.nodes[c]? = some n) (hc : ∀ y, w.bodyAt c ≠ some (.mapper y))
    (h : ((w.setStrong c n (n.strong + 1)).push ⟨1, .mapper (.identity c)⟩).LiveEntry r key m) :
    w.LiveEntry r key m :=
  hs.liveEntry_of_retain_push hn hc (by simp) h

end Sound

end World

/-! ## Steps from the world they start in

Each operation that `Context.getMapper` and `Mapper.resolve` run gets a triple whose
precondition fixes the world it starts in, `w₁`: reads leave `w₁`, a count, a new object or a
registry changes it in the one way given, and a release leaves a world with the same objects. -/

namespace Act

open World

variable {w₀ w₁ : World}

theorem triple_of_run {α : Type} {x : Act α} {P : World → Prop} {Q : α → World → Prop}
    {E : Fault → World → Prop}
    (h : ∀ w, P w → match x.run w with
      | .ok a w' => Q a w'
      | .error e w' => E e w') :
    ⦃fun w => ⌜P w⌝⦄ x ⦃post⟨fun a w => ⌜Q a w⌝, fun e w => ⌜E e w⌝⟩⦄ := by
  intro w hp
  have := h w hp
  simp only [wp, PredTrans.apply]
  split <;> simp_all

theorem node_reads (r : Ref) :
    ⦃fun w => ⌜w = w₁⌝⦄ node r
    ⦃post⟨fun n w => ⌜w = w₁ ∧ w₁.nodes[r]? = some n⌝,
      fun e w => ⌜w = w₁ ∧ e.Ordinary ∧ w₁.nodes.size ≤ r⌝⟩⦄ := by
  apply triple_of_run
  rintro w rfl
  simp only [node]
  cases h : w.nodes[r]? <;> simp_all [broken]

theorem context_reads (r : Ref) :
    ⦃fun w => ⌜w = w₁⌝⦄ context r
    ⦃post⟨fun x w => ⌜w = w₁ ∧ w₁.bodyAt r = some (.context x)⌝,
      fun e w => ⌜w = w₁ ∧ e.Ordinary ∧ ∀ x, w₁.bodyAt r ≠ some (.context x)⌝⟩⦄ := by
  unfold context body broken
  have spec1 := @node_reads
  mvcgen [spec1] <;> clear spec1 <;> grind [bodyAt_of_getElem?, bodyAt_eq_none_of_size_le]

theorem alive_reads (r : Ref) :
    ⦃fun w => ⌜w = w₁⌝⦄ alive r
    ⦃post⟨fun b w => ⌜w = w₁ ∧ r < w₁.nodes.size ∧ b = decide (0 < w₁.strongAt r)⌝,
      fun e w => ⌜w = w₁ ∧ e.Ordinary ∧ w₁.nodes.size ≤ r⌝⟩⦄ := by
  unfold alive
  have spec1 := @node_reads
  mvcgen [spec1] <;> clear spec1 <;> grind [strongAt, lt_size_of_bodyAt, bodyAt_of_getElem?]

theorem retain_bumps (r : Ref) :
    ⦃fun w => ⌜w = w₁⌝⦄ retain r
    ⦃post⟨fun _ w => ⌜∃ n, w₁.nodes[r]? = some n ∧ w = w₁.setStrong r n (n.strong + 1)⌝,
      fun e w => ⌜w = w₁ ∧ e.Ordinary ∧ w₁.nodes.size ≤ r⌝⟩⦄ := by
  unfold retain
  have spec1 := @node_reads
  mvcgen [spec1] <;> clear spec1 <;> grind [setStrong]

theorem create_pushes (x : Body) :
    ⦃fun w => ⌜w = w₁⌝⦄ create x
    ⦃post⟨fun a w => ⌜a = w₁.nodes.size ∧ w = w₁.push ⟨1, x⟩⌝, fun _ _ => ⌜False⌝⟩⦄ := by
  unfold create
  mvcgen
  grind [push]

theorem modifyContext_sets (r : Ref) (f : Context → Context) :
    ⦃fun w => ⌜w = w₁⌝⦄ modifyContext r f
    ⦃post⟨fun _ w => ⌜∃ x, w₁.bodyAt r = some (.context x) ∧ w = w₁.setBody r (.context (f x))⌝,
      fun e w => ⌜w = w₁ ∧ e.Ordinary ∧ ∀ x, w₁.bodyAt r ≠ some (.context x)⌝⟩⦄ := by
  unfold modifyContext
  have spec1 := @context_reads
  mvcgen [setBody_eq, -Act.context_spec, spec1] <;> clear spec1 <;> grind

theorem device_reads (r : Ref) :
    ⦃fun w => ⌜w = w₁⌝⦄ device r
    ⦃post⟨fun d w => ⌜w = w₁ ∧ w₁.bodyAt r = some (.device d)⌝,
      fun e w => ⌜w = w₁ ∧ e.Ordinary⌝⟩⦄ := by
  unfold device body broken
  have spec1 := @node_reads
  mvcgen [spec1] <;> clear spec1 <;> simp_all [bodyAt_of_getElem?]

theorem mapper_reads (r : Ref) :
    ⦃fun w => ⌜w = w₁⌝⦄ mapper r
    ⦃post⟨fun m w => ⌜w = w₁ ∧ w₁.bodyAt r = some (.mapper m)⌝,
      fun e w => ⌜w = w₁ ∧ e.Ordinary⌝⟩⦄ := by
  unfold mapper body broken
  have spec1 := @node_reads
  mvcgen [spec1] <;> clear spec1 <;> simp_all [bodyAt_of_getElem?]

/-! A release drops counts and devices' tallies and hands memory back: the objects stay. -/

theorem node_same (r : Ref) :
    ⦃fun w => ⌜w₀.SameObjects w⌝⦄ node r
    ⦃post⟨fun n w => ⌜w₀.SameObjects w ∧ w.nodes[r]? = some n⌝,
      fun e w => ⌜w₀.SameObjects w ∧ e.Ordinary⌝⟩⦄ := by
  unfold node broken
  mvcgen

theorem device_same (r : Ref) :
    ⦃fun w => ⌜w₀.SameObjects w⌝⦄ device r
    ⦃post⟨fun d w => ⌜w₀.SameObjects w ∧ w.bodyAt r = some (.device d)⌝,
      fun e w => ⌜w₀.SameObjects w ∧ e.Ordinary⌝⟩⦄ := by
  unfold device body broken
  have spec1 := @node_same
  mvcgen [spec1] <;> clear spec1 <;> grind [bodyAt_of_getElem?]

theorem modifyDevice_same (r : Ref) (f : Device → Device) :
    ⦃fun w => ⌜w₀.SameObjects w⌝⦄ modifyDevice r f
    ⦃post⟨fun _ w => ⌜w₀.SameObjects w⌝, fun e w => ⌜w₀.SameObjects w ∧ e.Ordinary⌝⟩⦄ := by
  unfold modifyDevice
  have spec1 := @device_same
  mvcgen [setBody_eq, spec1] <;> clear spec1 <;> grind

theorem dropSelf_same (x : Body) :
    ⦃fun w => ⌜w₀.SameObjects w⌝⦄ dropSelf x
    ⦃post⟨fun _ w => ⌜w₀.SameObjects w⌝, fun e w => ⌜w₀.SameObjects w ∧ e.Ordinary⌝⟩⦄ := by
  unfold dropSelf
  have spec1 := @modifyDevice_same
  have spec2 := @device_same
  mvcgen [spec1, spec2] <;> clear spec1 spec2 <;> grind

theorem freeBuffer_same (b : Buffer) :
    ⦃fun w => ⌜w₀.SameObjects w⌝⦄ freeBuffer b
    ⦃post⟨fun _ w => ⌜w₀.SameObjects w⌝, fun e w => ⌜w₀.SameObjects w ∧ e.Ordinary⌝⟩⦄ := by
  unfold freeBuffer
  mvcgen

theorem closeAllocator_same (a : Nat) :
    ⦃fun w => ⌜w₀.SameObjects w⌝⦄ closeAllocator a
    ⦃post⟨fun _ w => ⌜w₀.SameObjects w⌝, fun e w => ⌜w₀.SameObjects w ∧ e.Ordinary⌝⟩⦄ := by
  unfold closeAllocator
  mvcgen

theorem drain_same (ts : List Task) (fuel : Nat) :
    ⦃fun w => ⌜w₀.SameObjects w⌝⦄ drain ts fuel
    ⦃post⟨fun _ w => ⌜w₀.SameObjects w⌝, fun e w => ⌜w₀.SameObjects w ∧ e.Ordinary⌝⟩⦄ := by
  induction fuel generalizing ts w₀ with
  | zero => cases ts <;> simp only [drain] <;> mvcgen
  | succ fuel ih =>
    cases ts with
    | nil => simp only [drain]; mvcgen
    | cons t rest =>
      cases t with
      | free b => simp only [drain]; mvcgen [ih, freeBuffer_same] <;> grind
      | close a => simp only [drain]; mvcgen [ih, closeAllocator_same] <;> grind
      | release r =>
        rw [drain_release]
        have spec1 := @node_same
        have spec2 := @dropSelf_same
        mvcgen [ih, spec1, spec2] <;> clear spec1 spec2 <;> grind

theorem release_drops (r : Ref) :
    ⦃fun w => ⌜w = w₁⌝⦄ release r
    ⦃post⟨fun _ w => ⌜w₁.SameObjects w⌝, fun e w => ⌜w₁.SameObjects w ∧ e.Ordinary⌝⟩⦄ := by
  unfold release runTasks
  have spec1 := @drain_same
  mvcgen [spec1]
  clear spec1
  simp_all [SameObjects.refl]

theorem releaseAll_drops (rs : List Ref) :
    ⦃fun w => ⌜w = w₁⌝⦄ releaseAll rs
    ⦃post⟨fun _ w => ⌜w₁.SameObjects w⌝, fun e w => ⌜w₁.SameObjects w ∧ e.Ordinary⌝⟩⦄ := by
  unfold releaseAll runTasks
  have spec1 := @drain_same
  mvcgen [spec1]
  clear spec1
  simp_all [SameObjects.refl]

end Act

abbrev World.Untouched {α : Type} (w₁ : World) : PostCond α (.except Fault (.arg World .pure)) :=
  post⟨fun _ w => ⌜w = w₁⌝, fun e w => ⌜w = w₁ ∧ e.Ordinary⌝⟩

namespace Context

open Act World

variable {w₁ : World}

theorem kindOf_reads (r : Ref) :
    ⦃fun w => ⌜w = w₁⌝⦄ kindOf r
    ⦃post⟨fun k w => ⌜w = w₁ ∧ w₁.kindAt r = some k⌝, fun e w => ⌜w = w₁ ∧ e.Ordinary⌝⟩⦄ := by
  unfold kindOf
  have spec1 := @context_reads
  mvcgen [-Act.context_spec, spec1] <;> clear spec1 <;> simp_all [kindAt]

theorem deviceSerial_reads (c : Context) :
    ⦃fun w => ⌜w = w₁⌝⦄ deviceSerial c ⦃World.Untouched w₁⦄ := by
  unfold deviceSerial
  have spec1 := @device_reads
  mvcgen [-Act.device_spec, spec1] <;> clear spec1 <;> simp_all

theorem handleOf_reads (r : Ref) (key : String) :
    ⦃fun w => ⌜w = w₁⌝⦄ handleOf r key ⦃World.Untouched w₁⦄ := by
  unfold handleOf
  have spec1 := @context_reads
  have spec2 := @deviceSerial_reads
  mvcgen [-Act.context_spec, -Context.deviceSerial_spec, spec1, spec2] <;> clear spec1 spec2 <;>
    simp_all [Fault.Ordinary]

theorem handleOr_reads (r : Ref) (key : String) (default : Int) :
    ⦃fun w => ⌜w = w₁⌝⦄ handleOr r key default ⦃World.Untouched w₁⦄ := by
  unfold handleOr
  have spec1 := @handleOf_reads
  mvcgen [-Context.handleOf_spec, spec1] <;> clear spec1 <;> simp_all

theorem deviceOf_reads (r : Ref) :
    ⦃fun w => ⌜w = w₁⌝⦄ deviceOf r ⦃World.Untouched w₁⦄ := by
  unfold deviceOf
  have spec1 := @context_reads
  mvcgen [-Act.context_spec, spec1] <;> clear spec1 <;> simp_all [Fault.Ordinary]

theorem displayOf_reads (r : Ref) :
    ⦃fun w => ⌜w = w₁⌝⦄ displayOf r ⦃World.Untouched w₁⦄ := by
  unfold displayOf
  have spec1 := @context_reads
  mvcgen [-Act.context_spec, spec1] <;> clear spec1 <;> simp_all [Fault.Ordinary]

end Context

namespace Mapper

open Act World

variable {w₁ : World} {plain : Bool}

theorem checkEnds_reads (route : Route) (input output : Ref) :
    ⦃fun w => ⌜w = w₁⌝⦄ checkEnds route input output ⦃World.Untouched w₁⦄ := by
  unfold checkEnds expectKind
  have spec1 := @Context.kindOf_reads
  mvcgen [-Context.kindOf_spec, spec1] <;> clear spec1 <;> simp_all [Fault.Ordinary]

theorem deviceOfEither_reads (input output : Ref) :
    ⦃fun w => ⌜w = w₁⌝⦄ deviceOfEither input output ⦃World.Untouched w₁⦄ := by
  unfold deviceOfEither
  have spec1 := @Context.deviceOf_reads
  mvcgen [-Context.deviceOf_spec, spec1] <;> clear spec1 <;> simp_all

theorem sameHandle_reads (input output : Ref) (key : String) (kind : MemoryKind)
    (reason : String → String) :
    ⦃fun w => ⌜w = w₁⌝⦄ sameHandle input output key kind reason ⦃World.Untouched w₁⦄ := by
  unfold sameHandle
  have spec1 := @Context.handleOf_reads
  have spec2 := @Context.handleOr_reads
  mvcgen [-Context.handleOf_spec, -Context.handleOr_spec, spec1,
    spec2] <;> clear spec1 spec2 <;> simp_all [Fault.Ordinary]

theorem inputOf_reads (fuel : Nat) (m : Ref) :
    ⦃fun w => ⌜w = w₁⌝⦄ inputOf m fuel
    ⦃post⟨fun i w => ⌜w = w₁ ∧ w₁.InputIs m i⌝, fun e w => ⌜w = w₁ ∧ e.Ordinary⌝⟩⦄ := by
  induction fuel generalizing m with
  | zero => unfold inputOf broken; mvcgen
  | succ fuel ih =>
    unfold inputOf broken
    have spec1 := @mapper_reads
    mvcgen [-Act.mapper_spec, spec1, ih] <;> clear spec1 <;>
      grind [InputIs.identity, InputIs.direct, InputIs.chain, InputIs.cache]

theorem outputOf_reads (fuel : Nat) (m : Ref) :
    ⦃fun w => ⌜w = w₁⌝⦄ outputOf m fuel
    ⦃post⟨fun o w => ⌜w = w₁ ∧ w₁.OutputIs m o⌝, fun e w => ⌜w = w₁ ∧ e.Ordinary⌝⟩⦄ := by
  induction fuel generalizing m with
  | zero => unfold outputOf broken; mvcgen
  | succ fuel ih =>
    unfold outputOf broken
    have spec1 := @mapper_reads
    mvcgen [-Act.mapper_spec, -Mapper.outputOf_spec, spec1, ih] <;> clear spec1 <;>
      grind [OutputIs.identity, OutputIs.direct, OutputIs.chain, OutputIs.cache]

theorem input_reads (m : Ref) :
    ⦃fun w => ⌜w = w₁⌝⦄ input m
    ⦃post⟨fun i w => ⌜w = w₁ ∧ w₁.InputIs m i⌝, fun e w => ⌜w = w₁ ∧ e.Ordinary⌝⟩⦄ := by
  unfold input depth
  have spec1 := @inputOf_reads
  mvcgen [spec1]

theorem output_reads (m : Ref) :
    ⦃fun w => ⌜w = w₁⌝⦄ output m
    ⦃post⟨fun o w => ⌜w = w₁ ∧ w₁.OutputIs m o⌝, fun e w => ⌜w = w₁ ∧ e.Ordinary⌝⟩⦄ := by
  unfold output depth
  have spec1 := @outputOf_reads
  mvcgen [-Mapper.outputOf_spec, spec1]

theorem makeIdentity_sound (ctx : Ref) :
    ⦃fun w => ⌜w = w₁ ∧ w.Sound plain⌝⦄ makeIdentity ctx
    ⦃post⟨fun m w => ⌜w₁.Keeps w ∧ w.Sound plain ∧ w.bodyAt m = some (.mapper (.identity ctx)) ∧
        (∀ r, w₁.RegistryAt r → w.RegistryAt r) ∧
        ((∀ y, w₁.bodyAt ctx ≠ some (.mapper y)) →
          ∀ r key m₀, w.LiveEntry r key m₀ → w₁.LiveEntry r key m₀)⌝,
      fun e w => ⌜w₁.Keeps w ∧ w.Sound plain ∧ e.Ordinary ∧ w₁.nodes.size ≤ ctx⌝⟩⦄ := by
  unfold makeIdentity
  have spec1 := @retain_bumps
  have spec2 := @create_pushes
  mvcgen [-Act.retain_spec, -Act.create_spec, spec1, spec2] <;> clear spec1 spec2
  all_goals grind [Keeps.trans, Keeps.setStrong, Keeps.push, Keeps.refl, Sound.of_sameObjects,
    Sound.push_mapper, SameObjects.setStrong, Sound.liveEntry_of_identity, Mapper.children,
    setStrong_size, RegistryAt.setStrong, RegistryAt.push]

theorem makeDirect_sound (route : Route) (input output : Ref) :
    ⦃fun w => ⌜w = w₁ ∧ w.Sound plain⌝⦄ makeDirect route input output
    ⦃post⟨fun m w => ⌜w₁.Keeps w ∧ w.Sound plain ∧
        ∃ d, w.bodyAt m = some (.mapper (.direct route input output d))⌝,
      fun e w => ⌜w₁.Keeps w ∧ w.Sound plain ∧ e.Ordinary⌝⟩⦄ := by
  unfold makeDirect
  -- one route at a time: the route decides which sessions are checked and whether a device
  -- is held
  cases route <;>
  mvcgen [-Act.retain_spec, -Act.create_spec, -Context.displayOf_spec, checkEnds_reads,
    deviceOfEither_reads, Context.displayOf_reads, sameHandle_reads, retain_bumps,
    create_pushes] <;>
  grind [Keeps.trans, Keeps.setStrong, Keeps.push, Sound.of_sameObjects, SameObjects.setStrong,
    Sound.push_mapper, Keeps.refl, Mapper.children]

end Mapper

/-! ## Registry operations -/

namespace Context

open Act World

variable {w₁ : World} {plain : Bool}

theorem registeredMapper_finds (r : Ref) (key : MapperKey) :
    ⦃fun w => ⌜w = w₁⌝⦄ registeredMapper r key
    ⦃post⟨fun res w => ⌜(res = none → w = w₁ ∧ ∀ m, ¬ w₁.LiveEntry r key m) ∧
        ∀ m, res = some m → w₁.LiveEntry r key m ∧
          ∃ n, w₁.nodes[m]? = some n ∧ w = w₁.setStrong m n (n.strong + 1)⌝,
      fun e w => ⌜w = w₁ ∧ e.Ordinary ∧ ¬ w₁.RegistryAt r⌝⟩⦄ := by
  unfold registeredMapper
  have spec1 := @context_reads
  have spec2 := @alive_reads
  have spec3 := @retain_bumps
  mvcgen [-Act.context_spec, -Act.alive_spec, -Act.retain_spec, spec1, spec2,
    spec3] <;> clear spec1 spec2 spec3
  all_goals grind [LiveEntry, RegistryAt.exists_context, → RegistryAt.lookup_lt]

theorem insertMapper_sets (r : Ref) (key : MapperKey) (m : Ref) :
    ⦃fun w => ⌜w = w₁⌝⦄ insertMapper r key m
    ⦃post⟨fun _ w => ⌜∃ x, w₁.bodyAt r = some (.context x) ∧
        w = w₁.setBody r (.context { x with registry := w₁.insertEntry x.registry key m })⌝,
      fun e w => ⌜w = w₁ ∧ e.Ordinary ∧ ¬ w₁.RegistryAt r⌝⟩⦄ := by
  unfold insertMapper
  mvcgen [-Act.context_spec, -Act.alive_spec, -Act.modifyContext_spec, context_reads,
    alive_reads, modifyContext_sets] invariants
  · post⟨fun ⟨cur, live⟩ w => ⌜w = w₁ ∧
      live = cur.prefix.filter fun e => decide (0 < w₁.strongAt e.2)⌝,
      fun e w => ⌜w = w₁ ∧ e.Ordinary ∧ ¬ w₁.RegistryAt r⌝⟩
  all_goals simp_all [insertEntry]
  -- left: a failure at the context or at an entry of its registry, which a context whose
  -- entries are objects does not have
  all_goals grind [RegistryAt.exists_context, → RegistryAt.lt_of_split]

theorem register_sound (r : Ref) (key : MapperKey) (m : Ref) :
    ⦃fun w => ⌜w = w₁ ∧ w.Sound plain ∧ w.EntrySound plain (key, m)⌝⦄ register r key m
    ⦃post⟨fun m' w => ⌜w₁.Keeps w ∧ w.Sound plain ∧ w.EntrySound plain (key, m') ∧
        (∀ m₀, w₁.LiveEntry r key m₀ → m' = m₀) ∧ ((∀ m₀, ¬ w₁.LiveEntry r key m₀) → m' = m)⌝,
      fun e w => ⌜w₁.Keeps w ∧ w.Sound plain ∧ e.Ordinary ∧
        (w₁.RegistryAt r → ∃ m₀, w₁.LiveEntry r key m₀)⌝⟩⦄ := by
  unfold register
  have spec1 := @registeredMapper_finds
  have spec2 := @insertMapper_sets
  have spec3 := @release_drops
  mvcgen [spec1, spec2, spec3] <;> clear spec1 spec2 spec3
  all_goals grind [Keeps.trans, Keeps.setStrong, Keeps.of_sameObjects, Keeps.setContext,
    Sound.of_sameObjects, Sound.live_entry, Sound.insert, SameObjects.setStrong,
    EntrySound.of_keeps, LiveEntry.unique, Keeps.refl]

theorem getMapper_sound (r i o : Ref) :
    ⦃fun w => ⌜w = w₁ ∧ w.Sound plain⌝⦄ getMapper r i o
    ⦃post⟨fun res w => ⌜w₁.Keeps w ∧ w.Sound plain ∧ (i = o → res.isSome) ∧
        ∀ m, res = some m → w.EntrySound plain (⟨i, o, none⟩, m) ∧
          (∀ m₀, w₁.LiveEntry r ⟨i, o, none⟩ m₀ → m = m₀) ∧
          ((∀ m₀, ¬ w₁.LiveEntry r ⟨i, o, none⟩ m₀) → i = o →
            (∀ y, w₁.bodyAt i ≠ some (.mapper y)) → w.bodyAt m = some (.mapper (.identity i)))⌝,
      fun e w => ⌜w₁.Keeps w ∧ w.Sound plain ∧ e.Ordinary ∧
        (i = o → w₁.RegistryAt r → (∃ y, w₁.bodyAt i = some (.context y)) → False)⌝⟩⦄ := by
  unfold getMapper
  have spec1 := @registeredMapper_finds
  have spec2 := @Mapper.makeIdentity_sound
  have spec3 := @Mapper.makeDirect_sound
  have spec4 := @register_sound
  have spec5 := @context_reads
  have spec6 := @kindOf_reads
  mvcgen [-Act.context_spec, -Context.kindOf_spec, spec1, spec2,
    spec3, spec4, spec5, spec6] <;> clear spec1 spec2 spec3 spec4 spec5 spec6
  all_goals simp_all +zetaDelta [← Option.eq_none_iff_forall_ne_some]
  all_goals grind [Keeps.trans, Keeps.setStrong, Keeps.push, Keeps.identity_eq, Keeps.refl,
    Sound.of_sameObjects, Sound.push_mapper, SameObjects.setStrong, EntrySound.of_keeps,
    EntrySound.identity, EntrySound.direct, Sound.live_entry, LiveEntry.unique,
    Sound.liveEntry_of_identity, Mapper.children, setStrong_size, bodyAt_eq_none_of_size_le]

theorem attachMapper_sound (r m : Ref) :
    ⦃fun w => ⌜w = w₁ ∧ w.Sound plain ∧ (plain = true → ¬ w.IsCache m)⌝⦄ attachMapper r m
    ⦃post⟨fun _ w => ⌜w₁.Keeps w ∧ w.Sound plain⌝,
      fun e w => ⌜w₁.Keeps w ∧ w.Sound plain ∧ e.Ordinary⌝⟩⦄ := by
  unfold attachMapper
  have spec1 := @Mapper.input_reads
  have spec2 := @Mapper.output_reads
  have spec3 := @insertMapper_sets
  mvcgen [-Mapper.output_spec, spec1, spec2, spec3] <;> clear spec1 spec2 spec3
  all_goals simp_all
  all_goals grind [Sound.insert, Keeps.setContext, EntrySound.uncached_of_ends, Keeps.refl]

end Context

end MemBridge
