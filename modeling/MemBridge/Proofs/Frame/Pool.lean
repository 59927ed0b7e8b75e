import MemBridge.Proofs.Store.Closed
import MemBridge.Proofs.Mapper.Cache
import MemBridge.Context.Allocate

/-!
A frame pool hands out each frame to one holder at a time.

A pool holds one reference to each of its frames; a frame is free when that is its only one. A
hand-out moves the pool's cursor on and looks at the frames from the old cursor round the pool
(`FramePool.scan_eq_rotate`), handing out the first free one with its metadata, regions and
parent cleared. In a closed store whose pooled objects are frames (`World.PoolReady`) clearing
always goes through, since releasing does (`Act.releaseAll_closed`): a hand-out succeeds exactly
when a frame is free and hands out a frame nothing else held, and with no free frame it fails
with the pool exhausted at its capacity (`FramePool.handsOut_of_ready`). Nothing is allocated,
and the count of free frames is what the pool reports as available.

Hand-outs, drops, new references and new objects keep a store ready, so the same holds along
every session of the pool, whatever the order of its steps (`FramePool.hands_out_free_frames`).
-/

namespace MemBridge

open Act World

/-- A store ready for hand-outs from the pool at `p`: the pool is there with its frames, the
store is closed, and the objects the pool holds are frames. -/
structure World.PoolReady (w : World) (p : Ref) (frames : List Ref) : Prop where
  pool : ∃ pool : FramePool, w.bodyAt p = some (.framePool pool) ∧ pool.frames = frames
  closed : w.Closed
  frames_are : ∀ f ∈ frames, ∃ fr, w.bodyAt f = some (.frame fr)

namespace World

variable {w w' : World} {r : Nat} {x : Body}

theorem setBody_setBody (w : World) (r : Nat) (a b : Body) :
    (w.setBody r a).setBody r b = w.setBody r b := by
  simp only [setBody, World.mk.injEq, and_true]
  apply Array.ext_getElem?
  intro j
  simp only [Array.getElem?_modify]
  split
  · cases w.nodes[j]? <;> rfl
  · rfl

theorem KeepsObjects.push (w : World) (n : Node) : w.KeepsObjects (w.push n) := by
  intro r x hx _
  rw [bodyAt_push, if_neg (Nat.ne_of_lt (lt_size_of_bodyAt hx)), hx]

theorem KeepsObjects.setBody (hk : w.KeepsObjects w') (hr : r < w'.nodes.size) (y : Body) :
    (w.setBody r y).KeepsObjects (w'.setBody r y) := by
  intro r' z hz hv
  rw [bodyAt_setBody] at hz ⊢
  by_cases e : r' = r
  · subst e
    split at hz
    · simp_all
    · exact absurd (lt_size_of_bodyAt hz) (by simp_all)
  · simp only [e, false_and, if_false] at hz ⊢
    exact hk r' z hz hv

end World

namespace Act

variable {w : World} {r : Ref}

theorem run_framePool {pool : FramePool} (h : w.bodyAt r = some (.framePool pool)) :
    (framePool r).run w = .ok pool w := by
  simp [framePool, run_body h]

end Act

namespace Frame

variable {w : World} {r : Ref} {fr : Frame}

theorem dropDictionaries_closed : ∀ (ds : List Dictionary) (w : World), w.Closed →
    (∀ d ∈ ds, ∀ t ∈ d.tensors, t.id < w.nodes.size) →
    ∃ w', (forIn ds PUnit.unit fun d _ => do
        dropDictionary d
        pure (ForInStep.yield PUnit.unit) : Act PUnit).run w = .ok PUnit.unit w' ∧
      w'.Closed ∧ w'.nodes.size = w.nodes.size
  | [], w, hc, _ => ⟨w, rfl, hc, rfl⟩
  | d :: ds, w, hc, hds => by
    obtain ⟨w₁, h₁, hc₁, hs₁⟩ := releaseAll_closed hc fun q (hq : q ∈ d.tensors.map (·.id)) => by
      obtain ⟨t, ht, rfl⟩ := List.mem_map.1 hq
      exact hds d List.mem_cons_self t ht
    obtain ⟨w₂, h₂, hc₂, hs₂⟩ := dropDictionaries_closed ds w₁ hc₁
      (fun d' hd t ht => hs₁ ▸ hds d' (List.mem_cons_of_mem d hd) t ht)
    refine ⟨w₂, ?_, hc₂, hs₂.trans hs₁⟩
    rw [List.forIn_cons]
    simp only [dropDictionary, EStateM.run_bind, h₁, EStateM.run_pure]
    exact h₂

theorem closed_setBody_frame (hc : w.Closed) (hf : w.bodyAt r = some (.frame fr)) (fr' : Frame)
    (hrefs : ∀ q ∈ (Body.frame fr').refs, q ∈ (Body.frame fr).refs) :
    (w.setBody r (.frame fr')).Closed :=
  hc.setBody hf rfl (fun q hq => hc.refs_lt r _ hf q (hrefs q hq)) (by simp [Body.home?])

theorem clearMetadata_closed (hc : w.Closed) (hf : w.bodyAt r = some (.frame fr)) :
    ∃ w', (clearMetadata r).run w = .ok () w' ∧ w'.Closed ∧ w'.nodes.size = w.nodes.size := by
  have hc₁ := closed_setBody_frame hc hf { fr with metadata := [] }
    (by simp only [Body.refs]; grind)
  -- the tensors of the dictionaries are among what the frame names
  have hds : ∀ d ∈ fr.metadata, ∀ t ∈ d.tensors,
      t.id < (w.setBody r (.frame { fr with metadata := [] })).nodes.size := by
    intro d hd t ht
    rw [setBody_size]
    refine hc.refs_lt r _ hf t.id ?_
    simp only [Body.refs, List.mem_append, List.mem_flatMap, List.mem_map]
    exact .inl (.inl (.inr ⟨d, hd, t, ht, rfl⟩))
  obtain ⟨w₂, h₂, hc₂, hs₂⟩ := dropDictionaries_closed fr.metadata _ hc₁ hds
  refine ⟨w₂, ?_, hc₂, by simpa using hs₂⟩
  simp only [clearMetadata, EStateM.run_bind, run_frame hf, run_modifyFrame hf, h₂]
  rfl

theorem clearParent_closed (hc : w.Closed) (hf : w.bodyAt r = some (.frame fr)) :
    ∃ w', (clearParent r).run w = .ok () w' ∧ w'.Closed ∧ w'.nodes.size = w.nodes.size := by
  have hc₁ := closed_setBody_frame hc hf { fr with parent := none }
    (by simp only [Body.refs]; grind)
  cases hp : fr.parent with
  | none =>
    refine ⟨_, ?_, hc₁, by simp⟩
    simp [clearParent, setParent, EStateM.run_bind, run_frame hf, run_modifyFrame hf, hp]
  | some o =>
    -- the old parent is one of what the frame names
    have ho : o < (w.setBody r (.frame { fr with parent := none })).nodes.size := by
      rw [setBody_size]
      exact hc.refs_lt r _ hf o (by simp [Body.refs, hp])
    obtain ⟨w₂, h₂, hc₂, hs₂⟩ := release_closed hc₁ ho
    refine ⟨w₂, ?_, hc₂, by simpa using hs₂⟩
    simp [clearParent, setParent, EStateM.run_bind, run_frame hf, run_modifyFrame hf, hp, h₂]

theorem run_reset (hc : w.Closed) (hf : w.bodyAt r = some (.frame fr)) :
    ∃ w', w'.Closed ∧ w'.nodes.size = w.nodes.size ∧
      (w.setBody r (.frame { fr with metadata := [], regions := [], parent := none })).KeepsObjects
        w' ∧
      ∀ {α : Type} (k : Act α),
        (do clearMetadata r; clearRegions r; clearParent r; k).run w = k.run w' := by
  have hr : r < w.nodes.size := lt_size_of_bodyAt hf
  obtain ⟨w₂, h₂, hc₂, hs₂⟩ := clearMetadata_closed hc hf
  obtain ⟨fr₂, hf₂, hk₂⟩ := clearMetadata_ok h₂
  obtain rfl : fr = fr₂ := by simpa [hf] using hf₂
  have hf₂' : w₂.bodyAt r = some (.frame { fr with metadata := [] }) :=
    hk₂.bodyAt_setBody_self hr (by simp)
  -- clearing the regions writes the frame back
  have hr₂ : r < w₂.nodes.size := hs₂ ▸ hr
  have hf₃ := bodyAt_setBody_of_lt (.frame { fr with metadata := [], regions := [] }) hr₂
  have hc₃ := closed_setBody_frame hc₂ hf₂' { fr with metadata := [], regions := [] }
    (by simp only [Body.refs]; grind)
  obtain ⟨w₄, h₄, hc₄, hs₄⟩ := clearParent_closed hc₃ hf₃
  obtain ⟨fr₄, hf₄, hk₄⟩ := clearParent_ok h₄
  obtain rfl : { fr with metadata := [], regions := [] } = fr₄ := by simpa [hf₃] using hf₄
  refine ⟨w₄, hc₄, by simp [hs₄, hs₂], ?_, fun k => ?_⟩
  · -- each step keeps what the one before kept, the frame written back as it is now
    have hk₃ := hk₂.setBody hr₂ (.frame { fr with metadata := [], regions := [] })
    rw [setBody_setBody] at hk₃
    have hk := (hk₃.setBody (by simpa using hr₂)
      (.frame { fr with metadata := [], regions := [], parent := none })).trans hk₄
    rwa [setBody_setBody] at hk
  · simp only [EStateM.run_bind, h₂, run_clearRegions hf₂', h₄]

end Frame

namespace World.PoolReady

variable {w w' : World} {p r : Ref} {frames : List Ref}

theorem frames_lt (hw : w.PoolReady p frames) {f : Ref} (hf : f ∈ frames) : f < w.nodes.size :=
  let ⟨_, h⟩ := hw.frames_are f hf
  lt_size_of_bodyAt h

theorem of_keeps (hw : w.PoolReady p frames) (hk : w.KeepsObjects w') (hc : w'.Closed) :
    w'.PoolReady p frames where
  pool := by
    obtain ⟨pool, hp, rfl⟩ := hw.pool
    exact ⟨pool, hk p _ hp (by simp [Body.variant]), rfl⟩
  closed := hc
  frames_are f hf := by
    obtain ⟨fr, h⟩ := hw.frames_are f hf
    exact ⟨fr, hk f _ h (by simp)⟩

theorem setPool {pool : FramePool} (hw : w.PoolReady p pool.frames)
    (hp : w.bodyAt p = some (.framePool pool)) (c : Nat) :
    (w.setBody p (.framePool { pool with cursor := c })).PoolReady p pool.frames where
  pool := ⟨_, bodyAt_setBody_of_lt _ (lt_size_of_bodyAt hp), rfl⟩
  closed := hw.closed.setBody hp rfl (fun q hq => hw.closed.refs_lt p _ hp q hq)
    (by simp [Body.home?])
  frames_are f hf := by
    obtain ⟨fr, h⟩ := hw.frames_are f hf
    have hne : f ≠ p := World.ne_of_bodyAt h hp (by simp [Body.variant])
    exact ⟨fr, by rw [bodyAt_setBody, if_neg fun e => hne e.1, h]⟩

theorem setFrame (hw : w.PoolReady p frames) {fr : Frame} (hf : w.bodyAt r = some (.frame fr))
    (fr' : Frame) (hc : (w.setBody r (.frame fr')).Closed) :
    (w.setBody r (.frame fr')).PoolReady p frames where
  pool := by
    obtain ⟨pool, hp, rfl⟩ := hw.pool
    have hne : p ≠ r := World.ne_of_bodyAt hp hf (by simp [Body.variant])
    exact ⟨pool, by rw [bodyAt_setBody, if_neg fun e => hne e.1, hp], rfl⟩
  closed := hc
  frames_are f hf' := by
    obtain ⟨fr₀, h⟩ := hw.frames_are f hf'
    rw [bodyAt_setBody]
    split
    · exact ⟨fr', rfl⟩
    · exact ⟨fr₀, h⟩

theorem release (hw : w.PoolReady p frames) (hr : r < w.nodes.size)
    (hrun : (release r).run w = .ok () w') : w'.PoolReady p frames := by
  obtain ⟨w₁, h₁, hc₁, -⟩ := release_closed hw.closed hr
  rw [h₁] at hrun
  cases hrun
  have hk := release_run_keeps r w
  rw [h₁] at hk
  exact hw.of_keeps hk hc₁

theorem retain (hw : w.PoolReady p frames) (hrun : (retain r).run w = .ok () w') :
    w'.PoolReady p frames := by
  obtain ⟨n, hn, rfl⟩ := retain_run_ok hrun
  exact hw.of_keeps (.trans_setStrong (.refl w) hn) (hw.closed.setStrong hn _)

theorem create (hw : w.PoolReady p frames) {b : Body} (hrefs : ∀ q ∈ b.refs, q < w.nodes.size)
    (hhome : ∀ d, b.home? = some d → ∃ dv, w.bodyAt d = some (.device dv))
    (hrun : (create b).run w = .ok r w') : w'.PoolReady p frames := by
  rw [run_create] at hrun
  cases hrun
  exact hw.of_keeps (.push w _) (hw.closed.push hrefs hhome 1)

end World.PoolReady

namespace FramePool

variable {w : World} {p f : Ref} {pool : FramePool}

theorem scan_eq_rotate (pool : FramePool) (start : Nat) :
    pool.scan start = pool.frames.rotate start := by
  apply List.ext_getElem
  · simp [scan]
  · intro k h₁ h₂
    have hn : 0 < pool.frames.length := by simp [scan] at h₁; omega
    simp [scan, List.getElem_rotate, List.getD_eq_getElem?_getD, Nat.add_comm,
      List.getElem?_eq_getElem (Nat.mod_lt _ hn)]

theorem run_isFree (hf : f < w.nodes.size) : (isFree f).run w = .ok (w.strongAt f == 1) w := by
  simp [isFree, run_strongCount hf]

theorem run_firstFree : ∀ (fs : List Ref), (∀ f ∈ fs, f < w.nodes.size) →
    (firstFree fs).run w = .ok (fs.find? (w.strongAt · == 1)) w
  | [], _ => rfl
  | f :: rest, h => by
    have ih := run_firstFree rest (fun g hg => h g (List.mem_cons_of_mem f hg))
    by_cases hfree : w.strongAt f = 1
    · simp [firstFree, EStateM.run_bind, run_isFree (h f List.mem_cons_self), hfree]
    · simp [firstFree, EStateM.run_bind, run_isFree (h f List.mem_cons_self), hfree, ih]

theorem run_firstFree_scan (hw : w.PoolReady p pool.frames) (c : Nat) :
    (firstFree (pool.scan pool.cursor)).run (w.setBody p (.framePool { pool with cursor := c })) =
      .ok ((pool.frames.rotate pool.cursor).find? (w.strongAt · == 1))
        (w.setBody p (.framePool { pool with cursor := c })) := by
  have hlt : ∀ f ∈ pool.scan pool.cursor,
      f < (w.setBody p (.framePool { pool with cursor := c })).nodes.size := by
    intro f hf
    rw [scan_eq_rotate, List.mem_rotate] at hf
    simpa using hw.frames_lt hf
  rw [run_firstFree _ hlt, scan_eq_rotate]
  simp only [strongAt_setBody]

theorem find?_rotate_eq_none {frames : List Ref} {c : Nat} :
    (frames.rotate c).find? (w.strongAt · == 1) = none ↔ ∀ f ∈ frames, w.strongAt f ≠ 1 := by
  simp [List.find?_eq_none, List.mem_rotate]

theorem run_acquire_of_none_free (hp : w.bodyAt p = some (.framePool pool))
    (hw : w.PoolReady p pool.frames) (hnone : ∀ f ∈ pool.frames, w.strongAt f ≠ 1) :
    (acquire p).run w = .error (.poolExhausted pool.frames.length)
      (w.setBody p (.framePool { pool with cursor := pool.cursor + 1 })) := by
  have hfind : (pool.frames.rotate pool.cursor).find? (w.strongAt · == 1) = none :=
    find?_rotate_eq_none.2 hnone
  simp [acquire, EStateM.run_bind, run_framePool hp, run_setBody, run_firstFree_scan hw, hfind]

theorem run_acquire_of_free (hp : w.bodyAt p = some (.framePool pool))
    (hw : w.PoolReady p pool.frames)
    (hfind : (pool.frames.rotate pool.cursor).find? (w.strongAt · == 1) = some f) :
    ∃ fr w', w.bodyAt f = some (.frame fr) ∧ (acquire p).run w = .ok f w' ∧
      w'.nodes.size = w.nodes.size ∧ w'.PoolReady p pool.frames ∧
      w'.bodyAt p = some (.framePool { pool with cursor := pool.cursor + 1 }) ∧
      w'.bodyAt f = some (.frame { fr with metadata := [], regions := [], parent := none }) := by
  obtain ⟨fr, hf⟩ := hw.frames_are f (List.mem_rotate.1 (List.mem_of_find?_eq_some hfind))
  have hne : f ≠ p := World.ne_of_bodyAt hf hp (by simp [Body.variant])
  -- the frame is reset in the store with the cursor moved on
  have hw₁ := hw.setPool hp (pool.cursor + 1)
  have hp₁ := bodyAt_setBody_of_lt (.framePool { pool with cursor := pool.cursor + 1 })
    (lt_size_of_bodyAt hp)
  have hf₁ : (w.setBody p (.framePool { pool with cursor := pool.cursor + 1 })).bodyAt f =
      some (.frame fr) := by
    rw [bodyAt_setBody, if_neg fun e => hne e.1, hf]
  obtain ⟨w₄, hc₄, hs₄, hk₄, hrun₄⟩ := Frame.run_reset hw₁.closed hf₁
  have hf₄ := hk₄.bodyAt_setBody_self (lt_size_of_bodyAt hf₁) (by simp)
  have hp₄ := hk₄.bodyAt_of_setBody hp₁ (Ne.symm hne) (by simp [Body.variant])
  have hw₄ : w₄.PoolReady p pool.frames :=
    (hw₁.setFrame hf₁ _ (Frame.closed_setBody_frame hw₁.closed hf₁ _
      (by simp only [Body.refs]; grind))).of_keeps hk₄ hc₄
  -- the hand-out takes its reference to the frame last
  obtain ⟨n, hn, -⟩ := exists_node_of_bodyAt hf₄
  refine ⟨fr, w₄.setStrong f n (n.strong + 1), hf, ?_, by simp [hs₄], hw₄.retain (run_retain hn),
    by rw [bodyAt_setStrong hn, hp₄], by rw [bodyAt_setStrong hn, hf₄]⟩
  simp only [acquire, EStateM.run_bind, run_framePool hp, run_setBody, run_firstFree_scan hw,
    hfind, hrun₄]
  simp [run_retain hn]

theorem forIn_count_ok {fs : List Ref} {body : Ref → Nat → Act (ForInStep Nat)}
    {test : Ref → Bool}
    (hb : ∀ f ∈ fs, ∀ n, (body f n).run w = .ok (.yield (if test f then n + 1 else n)) w) :
    ∀ n, (forIn fs n body).run w = .ok (n + fs.countP test) w := by
  induction fs with
  | nil => intro n; rfl
  | cons f rest ih =>
    intro n
    have ih' := ih (fun g hg => hb g (List.mem_cons_of_mem f hg))
    rw [List.forIn_cons, EStateM.run_bind, hb f List.mem_cons_self n]
    cases ht : test f <;> simp [ih', ht]
    omega

theorem run_available (hp : w.bodyAt p = some (.framePool pool))
    (hlt : ∀ f ∈ pool.frames, f < w.nodes.size) :
    (available p).run w = .ok (pool.frames.countP (w.strongAt · == 1)) w := by
  have hloop := @forIn_count_ok w pool.frames
    (fun f n => do
      if (← isFree f) = true then pure (ForInStep.yield (n + 1)) else pure (ForInStep.yield n))
    (w.strongAt · == 1) (fun f hf n => by
      by_cases h : w.strongAt f = 1 <;> simp [EStateM.run_bind, run_isFree (hlt f hf), h]) 0
  simp only [Nat.zero_add] at hloop
  simp [available, EStateM.run_bind, run_framePool hp, hloop]

theorem ready_after_acquire {frames : List Ref} (hw : w.PoolReady p frames) :
    match (acquire p).run w with
    | .ok _ w' => w'.PoolReady p frames
    | .error _ w' => w'.PoolReady p frames := by
  obtain ⟨pool, hp, rfl⟩ := hw.pool
  cases hfind : (pool.frames.rotate pool.cursor).find? (w.strongAt · == 1) with
  | some f =>
    obtain ⟨-, w', -, hrun, -, hw', -⟩ := run_acquire_of_free hp hw hfind
    rw [hrun]
    exact hw'
  | none =>
    rw [run_acquire_of_none_free hp hw (find?_rotate_eq_none.1 hfind)]
    exact hw.setPool hp _

/-- A session of the pool at `p` from a store: hand-outs, whichever way they end; drops of
objects, such as handed-out frames and the regions or mapped frames that hold them; new
references to objects; and new objects naming objects of the store. -/
inductive Session (p : Ref) (w₀ : World) : World → Prop
  | here : Session p w₀ w₀
  | handOut {w w' : World} {f : Ref} :
      Session p w₀ w → (acquire p).run w = .ok f w' → Session p w₀ w'
  | exhausted {w w' : World} {e : Fault} :
      Session p w₀ w → (acquire p).run w = .error e w' → Session p w₀ w'
  | drop {w w' : World} {r : Ref} :
      Session p w₀ w → r < w.nodes.size → (release r).run w = .ok () w' → Session p w₀ w'
  | keep {w w' : World} {r : Ref} :
      Session p w₀ w → (retain r).run w = .ok () w' → Session p w₀ w'
  | make {w w' : World} {b : Body} {r : Ref} :
      Session p w₀ w → (∀ q ∈ b.refs, q < w.nodes.size) →
      (∀ d, b.home? = some d → ∃ dv, w.bodyAt d = some (.device dv)) →
      (create b).run w = .ok r w' → Session p w₀ w'

theorem Session.ready {w₀ : World} {frames : List Ref} (h₀ : w₀.PoolReady p frames)
    (hs : Session p w₀ w) : w.PoolReady p frames := by
  induction hs with
  | here => exact h₀
  | handOut _ hrun ih =>
    have h := ready_after_acquire ih
    rw [hrun] at h
    exact h
  | exhausted _ hrun ih =>
    have h := ready_after_acquire ih
    rw [hrun] at h
    exact h
  | drop _ hr hrun ih => exact ih.release hr hrun
  | keep _ hrun ih => exact ih.retain hrun
  | make _ hrefs hhome hrun ih => exact ih.create hrefs hhome hrun

/-- What the pool at `p`, holding `frames`, does in a store `w`. -/
structure HandsOut (p : Ref) (frames : List Ref) (w : World) : Prop where
  /-- it reports as available the frames nothing but the pool holds -/
  available : (available p).run w = .ok (frames.countP (w.strongAt · == 1)) w
  /-- a hand-out succeeds exactly when a frame is held by nothing but the pool -/
  succeeds_iff : (∃ f w', (acquire p).run w = .ok f w') ↔ ∃ f ∈ frames, w.strongAt f = 1
  /-- what it hands out is such a frame, the first from the cursor round the pool, reset, and
  nothing is allocated -/
  hands_out : ∀ f w', (acquire p).run w = .ok f w' →
    f ∈ frames ∧ w.strongAt f = 1 ∧ w'.nodes.size = w.nodes.size ∧
    (∃ pool : FramePool, w.bodyAt p = some (.framePool pool) ∧
      (frames.rotate pool.cursor).find? (w.strongAt · == 1) = some f) ∧
    ∃ fr, w.bodyAt f = some (.frame fr) ∧
      w'.bodyAt f = some (.frame { fr with metadata := [], regions := [], parent := none })
  /-- with no such frame it fails, the pool exhausted at its capacity, and nothing is
  allocated -/
  exhausted : (∀ f ∈ frames, w.strongAt f ≠ 1) →
    ∃ w', (acquire p).run w = .error (.poolExhausted frames.length) w' ∧
      w'.nodes.size = w.nodes.size

theorem handsOut_of_ready {frames : List Ref} (hw : w.PoolReady p frames) :
    HandsOut p frames w := by
  obtain ⟨pool, hp, rfl⟩ := hw.pool
  refine ⟨run_available hp fun f hf => hw.frames_lt hf, ⟨?_, ?_⟩, ?_, ?_⟩
  · rintro ⟨f, w', hrun⟩
    by_contra hnone
    rw [run_acquire_of_none_free hp hw fun f hf hfree => hnone ⟨f, hf, hfree⟩] at hrun
    cases hrun
  · rintro ⟨f, hf, hfree⟩
    -- the scan round the pool meets the free frame, so it finds a first one
    have hsome : ((pool.frames.rotate pool.cursor).find? (w.strongAt · == 1)).isSome :=
      List.find?_isSome.2 ⟨f, List.mem_rotate.2 hf, by simpa using hfree⟩
    obtain ⟨g, hg⟩ := Option.isSome_iff_exists.1 hsome
    obtain ⟨-, w', -, hrun, -⟩ := run_acquire_of_free hp hw hg
    exact ⟨g, w', hrun⟩
  · intro f w' hrun
    cases hfind : (pool.frames.rotate pool.cursor).find? (w.strongAt · == 1) with
    | none =>
      rw [run_acquire_of_none_free hp hw (find?_rotate_eq_none.1 hfind)] at hrun
      cases hrun
    | some g =>
      obtain ⟨fr, w'', hf, hrun', hs, -, -, hf'⟩ := run_acquire_of_free hp hw hfind
      rw [hrun'] at hrun
      cases hrun
      have hfree : w.strongAt f = 1 := by simpa using List.find?_some hfind
      exact ⟨List.mem_rotate.1 (List.mem_of_find?_eq_some hfind), hfree, hs, ⟨pool, hp, hfind⟩,
        fr, hf, hf'⟩
  · intro hnone
    exact ⟨_, run_acquire_of_none_free hp hw hnone, by simp⟩

/-- A pool hands out each frame to one holder at a time: along every session from a ready
store, a hand-out succeeds exactly when a frame is held by nothing but the pool, and then hands
out such a frame, reset; otherwise it fails with the pool exhausted; what the pool reports as
available is the number of such frames, and no hand-out allocates. -/
theorem hands_out_free_frames {w₀ : World} {frames : List Ref} (h₀ : w₀.PoolReady p frames)
    (hs : Session p w₀ w) : HandsOut p frames w :=
  handsOut_of_ready (hs.ready h₀)

def twoFramePool : World where
  nodes := #[⟨1, .framePool { frames := [1, 2], format := .nv12, kind := .vaapi }⟩,
    ⟨2, .frame { media := .image, format := ImageFormat.nv12.code, kind := .vaapi, tensors := [] }⟩,
    ⟨1, .frame { media := .image, format := ImageFormat.nv12.code, kind := .vaapi, tensors := [] }⟩]

theorem two_frame_pool_hands_out :
    twoFramePool.PoolReady 0 [1, 2] ∧ HandsOut 0 [1, 2] twoFramePool := by
  have h₀ : twoFramePool.PoolReady 0 [1, 2] := by
    refine ⟨⟨_, rfl, rfl⟩, ⟨?_, ?_⟩, ?_⟩
    · -- the pool names its two frames, and the frames name nothing
      rintro (_ | _ | _ | r) x hx q hq <;> simp [twoFramePool, World.bodyAt] at hx <;> subst hx
      · simp only [Body.refs, List.mem_cons, List.not_mem_nil, or_false] at hq
        rcases hq with rfl | rfl <;> decide
      all_goals simp [Body.refs] at hq
    · rintro (_ | _ | _ | r) x d hx hd <;> simp [twoFramePool, World.bodyAt] at hx <;> subst hx <;>
        simp [Body.home?] at hd
    · intro f hf
      simp only [List.mem_cons, List.not_mem_nil, or_false] at hf
      rcases hf with rfl | rfl <;> exact ⟨_, rfl⟩
  exact ⟨h₀, hands_out_free_frames h₀ .here⟩

end FramePool

end MemBridge
