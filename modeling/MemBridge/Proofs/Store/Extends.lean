import MemBridge.Proofs.Store.Basic

/-!
Worlds that extend one another.

`World.Extends b w w'` says that `w'` keeps every object of `w` with its sort, that mappers
from `b` on keep their state, that mappers below `b` keep what they front, and that the new
objects of `w'` are no mappers. Mapping tensors and frames only ever extends the world, with
`b = 0` outside caches; a cache that runs changes only its own slots and counters.

Each operation of the store gets a specification in the form `mvcgen` uses: from a world
extending `w₀`, it leaves a world extending `w₀`, whether it succeeds or fails.
-/

namespace MemBridge

open Std.Do

set_option mvcgen.warning false

-- A lemma of this module reaches `mvcgen` through a `have` (`specN`): named in the list, it would
-- make the proof wait until that lemma's own proof is checked. Where `grind` or `simp_all`
-- follows, the binding is cleared first, so that they do not take it up as a hypothesis.

/-- `w'` extends `w` with mappers from `b` on kept as they are. -/
structure World.Extends (b : Nat) (w w' : World) : Prop where
  size_le : w.nodes.size ≤ w'.nodes.size
  variant_eq : ∀ r x, w.bodyAt r = some x → (w'.bodyAt r).map Body.variant = some x.variant
  mapper_eq : ∀ r m, b ≤ r → w.bodyAt r = some (.mapper m) → w'.bodyAt r = some (.mapper m)
  skeleton_eq : ∀ r m, w.bodyAt r = some (.mapper m) →
    ∃ m', w'.bodyAt r = some (.mapper m') ∧ m'.skeleton = m.skeleton
  fresh : ∀ r m, w.nodes.size ≤ r → w'.bodyAt r ≠ some (.mapper m)

namespace World.Extends

variable {b : Nat} {w w' w'' : World}

@[refl] theorem refl (b : Nat) (w : World) : w.Extends b w where
  size_le := Nat.le_refl _
  variant_eq := fun _ _ h => by simp [h]
  mapper_eq := fun _ _ _ h => h
  skeleton_eq := fun _ m h => ⟨m, h, rfl⟩
  fresh := fun _ _ h₁ h₂ => by simpa using (lt_size_of_bodyAt h₂).trans_le h₁

@[grind →] theorem trans (h₁ : w.Extends b w') (h₂ : w'.Extends b w'') : w.Extends b w'' where
  size_le := h₁.size_le.trans h₂.size_le
  variant_eq r x h := by
    obtain ⟨y, hy, hxy⟩ := Option.map_eq_some_iff.1 (h₁.variant_eq r x h)
    rw [h₂.variant_eq r y hy, hxy]
  mapper_eq r m hr h := h₂.mapper_eq r m hr (h₁.mapper_eq r m hr h)
  skeleton_eq r m h := by
    obtain ⟨m₁, h₁', e₁⟩ := h₁.skeleton_eq r m h
    obtain ⟨m₂, h₂', e₂⟩ := h₂.skeleton_eq r m₁ h₁'
    exact ⟨m₂, h₂', e₂.trans e₁⟩
  fresh r m hr h := by
    by_cases hr' : w'.nodes.size ≤ r
    · exact h₂.fresh r m hr' h
    · have hlt : r < w'.nodes.size := by omega
      obtain ⟨x, hx⟩ : ∃ x, w'.bodyAt r = some x :=
        Option.isSome_iff_exists.1 (bodyAt_isSome.2 hlt)
      cases x with
      | mapper m' => exact h₁.fresh r m' hr hx
      | _ => simpa [h, Body.variant] using h₂.variant_eq r _ hx

theorem mono {b b' : Nat} (hb : b ≤ b') (h : w.Extends b w') : w.Extends b' w' :=
  { h with mapper_eq := fun r m hr => h.mapper_eq r m (hb.trans hr) }

/-- Chaining an extension that keeps more mappers. -/
@[grind →] theorem trans_le {b' : Nat} (h₁ : w.Extends b w') (h₂ : w'.Extends b' w'')
    (hb : b' ≤ b) : w.Extends b w'' :=
  h₁.trans (h₂.mono hb)

/-- A mapper from `b` on is where it was. -/
@[grind →] theorem mapper_at {r : Nat} {m : Mapper} (h : w.Extends b w')
    (hm : w.bodyAt r = some (.mapper m)) (hb : b ≤ r) : w'.bodyAt r = some (.mapper m) :=
  h.mapper_eq r m hb hm

theorem setBody {r : Nat} {x y : Body} (hx : w.bodyAt r = some x) (hv : y.variant = x.variant)
    (hm : x.variant ≠ .mapper) : w.Extends b (w.setBody r y) where
  size_le := by simp
  variant_eq r' x' h := by
    rw [bodyAt_setBody]
    split
    · next hr => obtain ⟨rfl, -⟩ := hr; simp_all
    · simp [h]
  mapper_eq r' m _ h := by
    rw [bodyAt_setBody]
    split
    · next hr => obtain ⟨rfl, -⟩ := hr; simp_all
    · exact h
  skeleton_eq r' m h := by
    refine ⟨m, ?_, rfl⟩
    rw [bodyAt_setBody]
    split
    · next hr => obtain ⟨rfl, -⟩ := hr; simp_all
    · exact h
  fresh r' m hr h := by
    rw [bodyAt_setBody] at h
    split at h
    · next hr' => obtain ⟨rfl, hr'⟩ := hr'; omega
    · have := lt_size_of_bodyAt h; omega

theorem setMapper {r : Nat} {m m' : Mapper} (hx : w.bodyAt r = some (.mapper m))
    (hs : m'.skeleton = m.skeleton) : w.Extends (r + 1) (w.setBody r (.mapper m')) where
  size_le := by simp
  variant_eq r' x' h := by
    rw [bodyAt_setBody]
    split
    · next hr =>
      obtain ⟨rfl, -⟩ := hr
      simp [← Option.some.inj (hx.symm.trans h)]
    · simp [h]
  mapper_eq r' m'' hr h := by
    rw [bodyAt_setBody, if_neg (by omega)]
    exact h
  skeleton_eq r' m'' h := by
    rw [bodyAt_setBody]
    split
    · next hr => obtain ⟨rfl, -⟩ := hr; simp_all
    · exact ⟨m'', h, rfl⟩
  fresh r' m'' hr h := by
    rw [bodyAt_setBody] at h
    split at h
    · next hr' => obtain ⟨rfl, hr'⟩ := hr'; omega
    · have := lt_size_of_bodyAt h; omega

theorem setStrong {r : Nat} {n : Node} (hn : w.nodes[r]? = some n) (k : Nat) :
    w.Extends b (w.setStrong r n k) where
  size_le := by simp
  variant_eq r' x h := by simp [bodyAt_setStrong hn, h]
  mapper_eq r' m _ h := by simpa [bodyAt_setStrong hn] using h
  skeleton_eq r' m h := ⟨m, by simpa [bodyAt_setStrong hn] using h, rfl⟩
  fresh r' m hr h := by
    rw [bodyAt_setStrong hn] at h
    have := lt_size_of_bodyAt h
    omega

theorem push {n : Node} (hn : n.body.variant ≠ .mapper) : w.Extends b (w.push n) where
  size_le := by simp
  variant_eq r x h := by
    rw [bodyAt_push, if_neg (by have := lt_size_of_bodyAt h; omega)]
    simp [h]
  mapper_eq r m _ h := by
    rw [bodyAt_push, if_neg (by have := lt_size_of_bodyAt h; omega)]
    exact h
  skeleton_eq r m h := by
    refine ⟨m, ?_, rfl⟩
    rw [bodyAt_push, if_neg (by have := lt_size_of_bodyAt h; omega)]
    exact h
  fresh r m hr h := by
    rw [bodyAt_push] at h
    split at h
    · simp only [Option.some.injEq] at h
      simp [h] at hn
    · have := lt_size_of_bodyAt h
      omega

/-- Replacing a count after an extension. -/
@[grind ←] theorem trans_setStrong {r : Nat} {n : Node} {k : Nat} (h : w.Extends b w')
    (hn : w'.nodes[r]? = some n) : w.Extends b (w'.setStrong r n k) :=
  h.trans (setStrong hn k)

/-- Adding an object that is no mapper after an extension. -/
@[grind ←] theorem trans_push {n : Node} (h : w.Extends b w') (hn : n.body.variant ≠ .mapper) :
    w.Extends b (w'.push n) :=
  h.trans (push hn)

/-- An extension of a world with one count replaced extends the world. -/
@[grind →] theorem of_setStrong {r : Nat} {n : Node} {k : Nat} (hn : w.nodes[r]? = some n)
    (h : (w.setStrong r n k).Extends b w') : w.Extends b w' :=
  (setStrong hn k).trans h

/-- An extension of a world with one more object, no mapper, extends the world. -/
@[grind →] theorem of_push {n : Node} (hn : n.body.variant ≠ .mapper)
    (h : (w.push n).Extends b w') : w.Extends b w' :=
  (push hn).trans h

theorem of_nodes_eq (h : w'.nodes = w.nodes) : w.Extends b w' := by
  have : ∀ r, w'.bodyAt r = w.bodyAt r := fun r => by simp [bodyAt, h]
  exact { size_le := by simp [h]
          variant_eq := fun r x hx => by simp [this, hx]
          mapper_eq := fun r m _ hm => by simp [this, hm]
          skeleton_eq := fun r m hm => ⟨m, by simp [this, hm], rfl⟩
          fresh := fun r m hr hm => by
            rw [this] at hm
            have := lt_size_of_bodyAt hm
            omega }

/-- Changing what the world holds besides its objects, after an extension. -/
@[grind ←] theorem mk_nodes {a : Array (Option HostPool)} {hp : Heap} {d c : Nat} {t : Int}
    (h : w.Extends b w') : w.Extends b ⟨w'.nodes, a, hp, d, c, t⟩ :=
  h.trans (of_nodes_eq rfl)

/-- An extension of a world with other allocators, heap or counters extends the world. -/
@[grind →] theorem of_mk {a : Array (Option HostPool)} {hp : Heap} {d c : Nat} {t : Int}
    (h : (⟨w.nodes, a, hp, d, c, t⟩ : World).Extends b w') : w.Extends b w' :=
  (show w.Extends b ⟨w.nodes, a, hp, d, c, t⟩ from of_nodes_eq rfl).trans h

end World.Extends

/-- What an operation leaves, whether it succeeds or fails: a world extending `w₀` in which
every mapper is as it was. -/
abbrev World.Grown {α : Type} (w₀ : World) : PostCond α (.except Fault (.arg World .pure)) :=
  post⟨fun _ w => ⌜w₀.Extends 0 w⌝, fun _ w => ⌜w₀.Extends 0 w⌝⟩

/-! ## The store's own operations -/

namespace Act

variable {w₀ : World}

theorem of_triple {α : Type} {x : Act α} {P : World → Prop} {Q : α → World → Prop}
    {E : Fault → World → Prop}
    (h : ⦃fun w => ⌜P w⌝⦄ x ⦃post⟨fun a w => ⌜Q a w⌝, fun e w => ⌜E e w⌝⟩⦄) {w : World}
    (hp : P w) :
    match x.run w with
    | .ok a w' => Q a w'
    | .error e w' => E e w' := by
  apply EStateM.of_wp_run_eq rfl (fun r => match r with
    | .ok a w' => Q a w'
    | .error e w' => E e w')
  simpa using h w hp

theorem setBody_eq (r : Ref) (b : Body) : setBody r b = modify (·.setBody r b) := rfl

theorem retain_eq (r : Ref) :
    retain r = (do let n ← node r; modify (·.setStrong r n (n.strong + 1))) := rfl

theorem create_eq (b : Body) :
    create b = (do let w ← get; set (w.push ⟨1, b⟩); return w.nodes.size) := rfl

@[spec] theorem broken_spec {α : Type} (what : String) :
    ⦃fun w => ⌜w₀.Extends 0 w⌝⦄ (broken what : Act α)
    ⦃post⟨fun _ _ => ⌜False⌝, fun _ w => ⌜w₀.Extends 0 w⌝⟩⦄ := by
  mvcgen [broken]

@[spec] theorem lift_spec {α : Type} (x : Except Fault α) :
    ⦃fun w => ⌜w₀.Extends 0 w⌝⦄ lift x
    ⦃post⟨fun a w => ⌜w₀.Extends 0 w ∧ x = .ok a⌝, fun _ w => ⌜w₀.Extends 0 w⌝⟩⦄ := by
  mvcgen [lift]

@[spec 100] theorem node_spec (r : Ref) :
    ⦃fun w => ⌜w₀.Extends 0 w⌝⦄ node r
    ⦃post⟨fun n w => ⌜w₀.Extends 0 w ∧ w.nodes[r]? = some n⌝, fun _ w => ⌜w₀.Extends 0 w⌝⟩⦄ := by
  mvcgen [node, broken]

@[spec] theorem body_spec (r : Ref) :
    ⦃fun w => ⌜w₀.Extends 0 w⌝⦄ body r
    ⦃post⟨fun x w => ⌜w₀.Extends 0 w ∧ w.bodyAt r = some x⌝, fun _ w => ⌜w₀.Extends 0 w⌝⟩⦄ := by
  mvcgen [body] <;> grind [World.bodyAt_of_getElem?]

@[spec] theorem alive_spec (r : Ref) :
    ⦃fun w => ⌜w₀.Extends 0 w⌝⦄ alive r
    ⦃post⟨fun a w => ⌜w₀.Extends 0 w ∧ a = decide (0 < w.strongAt r)⌝,
      fun _ w => ⌜w₀.Extends 0 w⌝⟩⦄ := by
  mvcgen [alive] <;> grind [World.strongAt]

@[spec] theorem strongCount_spec (r : Ref) :
    ⦃fun w => ⌜w₀.Extends 0 w⌝⦄ strongCount r
    ⦃post⟨fun k w => ⌜w₀.Extends 0 w ∧ k = w.strongAt r⌝, fun _ w => ⌜w₀.Extends 0 w⌝⟩⦄ := by
  mvcgen [strongCount] <;> grind [World.strongAt]

@[spec] theorem create_spec (x : Body) (hx : x.variant ≠ .mapper) :
    ⦃fun w => ⌜w₀.Extends 0 w⌝⦄ create x
    ⦃post⟨fun r w => ⌜w₀.Extends 0 w ∧ w.bodyAt r = some x⌝, fun _ w => ⌜w₀.Extends 0 w⌝⟩⦄ := by
  have spec1 := @create_eq
  mvcgen [spec1]
  clear spec1
  grind

@[spec] theorem retain_spec (r : Ref) :
    ⦃fun w => ⌜w₀.Extends 0 w⌝⦄ retain r ⦃World.Grown w₀⦄ := by
  have spec1 := @retain_eq
  mvcgen [spec1] <;> clear spec1 <;> grind

@[spec 100] theorem device_spec (r : Ref) :
    ⦃fun w => ⌜w₀.Extends 0 w⌝⦄ device r
    ⦃post⟨fun d w => ⌜w₀.Extends 0 w ∧ w.bodyAt r = some (.device d)⌝,
      fun _ w => ⌜w₀.Extends 0 w⌝⟩⦄ := by
  mvcgen [device] <;> grind

@[spec] theorem context_spec (r : Ref) :
    ⦃fun w => ⌜w₀.Extends 0 w⌝⦄ context r
    ⦃post⟨fun c w => ⌜w₀.Extends 0 w ∧ w.bodyAt r = some (.context c)⌝,
      fun _ w => ⌜w₀.Extends 0 w⌝⟩⦄ := by
  mvcgen [context] <;> grind

@[spec] theorem mapper_spec (r : Ref) :
    ⦃fun w => ⌜w₀.Extends 0 w⌝⦄ mapper r
    ⦃post⟨fun m w => ⌜w₀.Extends 0 w ∧ w.bodyAt r = some (.mapper m)⌝,
      fun _ w => ⌜w₀.Extends 0 w⌝⟩⦄ := by
  mvcgen [mapper] <;> grind

@[spec] theorem tensor_spec (r : Ref) :
    ⦃fun w => ⌜w₀.Extends 0 w⌝⦄ tensor r
    ⦃post⟨fun t w => ⌜w₀.Extends 0 w ∧ w.bodyAt r = some (.tensor t)⌝,
      fun _ w => ⌜w₀.Extends 0 w⌝⟩⦄ := by
  mvcgen [tensor] <;> grind

@[spec] theorem frame_spec (r : Ref) :
    ⦃fun w => ⌜w₀.Extends 0 w⌝⦄ frame r
    ⦃post⟨fun f w => ⌜w₀.Extends 0 w ∧ w.bodyAt r = some (.frame f)⌝,
      fun _ w => ⌜w₀.Extends 0 w⌝⟩⦄ := by
  mvcgen [frame] <;> grind

@[spec] theorem allocation_spec (r : Ref) :
    ⦃fun w => ⌜w₀.Extends 0 w⌝⦄ allocation r
    ⦃post⟨fun a w => ⌜w₀.Extends 0 w ∧ w.bodyAt r = some (.allocation a)⌝,
      fun _ w => ⌜w₀.Extends 0 w⌝⟩⦄ := by
  mvcgen [allocation] <;> grind

@[spec] theorem surface_spec (r : Ref) :
    ⦃fun w => ⌜w₀.Extends 0 w⌝⦄ surface r
    ⦃post⟨fun s w => ⌜w₀.Extends 0 w ∧ w.bodyAt r = some (.surface s)⌝,
      fun _ w => ⌜w₀.Extends 0 w⌝⟩⦄ := by
  mvcgen [surface] <;> grind

@[spec] theorem descriptor_spec (r : Ref) :
    ⦃fun w => ⌜w₀.Extends 0 w⌝⦄ descriptor r
    ⦃post⟨fun d w => ⌜w₀.Extends 0 w ∧ w.bodyAt r = some (.descriptor d)⌝,
      fun _ w => ⌜w₀.Extends 0 w⌝⟩⦄ := by
  mvcgen [descriptor] <;> grind

@[spec] theorem clBuffer_spec (r : Ref) :
    ⦃fun w => ⌜w₀.Extends 0 w⌝⦄ clBuffer r
    ⦃post⟨fun x w => ⌜w₀.Extends 0 w ∧ w.bodyAt r = some (.clBuffer x)⌝,
      fun _ w => ⌜w₀.Extends 0 w⌝⟩⦄ := by
  mvcgen [clBuffer] <;> grind

@[spec 100] theorem modifyDevice_spec (r : Ref) (f : Device → Device) :
    ⦃fun w => ⌜w₀.Extends 0 w⌝⦄ modifyDevice r f ⦃World.Grown w₀⦄ := by
  have spec1 := @setBody_eq
  mvcgen [modifyDevice, spec1] <;> clear spec1
  · rename_i h₁ _ _ h₂ _
    exact (h₁.trans h₂.1).trans (.setBody h₂.2 rfl (by simp [Body.variant]))
  · grind

@[spec] theorem modifyContext_spec (r : Ref) (f : Context → Context) :
    ⦃fun w => ⌜w₀.Extends 0 w⌝⦄ modifyContext r f ⦃World.Grown w₀⦄ := by
  have spec1 := @setBody_eq
  mvcgen [modifyContext, spec1] <;> clear spec1
  · rename_i h₁ _ _ h₂ _
    exact (h₁.trans h₂.1).trans (.setBody h₂.2 rfl (by simp [Body.variant]))
  · grind

@[spec] theorem modifyTensor_spec (r : Ref) (f : Tensor → Tensor) :
    ⦃fun w => ⌜w₀.Extends 0 w⌝⦄ modifyTensor r f ⦃World.Grown w₀⦄ := by
  have spec1 := @setBody_eq
  mvcgen [modifyTensor, spec1] <;> clear spec1
  · rename_i h₁ _ _ h₂ _
    exact (h₁.trans h₂.1).trans (.setBody h₂.2 rfl (by simp [Body.variant]))
  · grind

@[spec] theorem modifyFrame_spec (r : Ref) (f : Frame → Frame) :
    ⦃fun w => ⌜w₀.Extends 0 w⌝⦄ modifyFrame r f ⦃World.Grown w₀⦄ := by
  have spec1 := @setBody_eq
  mvcgen [modifyFrame, spec1] <;> clear spec1
  · rename_i h₁ _ _ h₂ _
    exact (h₁.trans h₂.1).trans (.setBody h₂.2 rfl (by simp [Body.variant]))
  · grind

@[spec] theorem modifyAllocation_spec (r : Ref) (f : Allocation → Allocation) :
    ⦃fun w => ⌜w₀.Extends 0 w⌝⦄ modifyAllocation r f ⦃World.Grown w₀⦄ := by
  have spec1 := @setBody_eq
  mvcgen [modifyAllocation, spec1] <;> clear spec1
  · rename_i h₁ _ _ h₂ _
    exact (h₁.trans h₂.1).trans (.setBody h₂.2 rfl (by simp [Body.variant]))
  · grind

@[spec] theorem newAllocator_spec :
    ⦃fun w => ⌜w₀.Extends 0 w⌝⦄ newAllocator ⦃World.Grown w₀⦄ := by
  mvcgen [newAllocator]
  grind

@[spec] theorem allocator_spec (a : Nat) :
    ⦃fun w => ⌜w₀.Extends 0 w⌝⦄ allocator a ⦃World.Grown w₀⦄ := by
  mvcgen [allocator] <;> grind

@[spec] theorem hostAlloc_spec (a size : Nat) :
    ⦃fun w => ⌜w₀.Extends 0 w⌝⦄ hostAlloc a size ⦃World.Grown w₀⦄ := by
  mvcgen [hostAlloc] <;> grind

@[spec] theorem readHost_spec (start : Addr) (len : Nat) :
    ⦃fun w => ⌜w₀.Extends 0 w⌝⦄ readHost start len ⦃World.Grown w₀⦄ := by
  mvcgen [readHost]

@[spec] theorem writeHost_spec (start : Addr) (bytes : ByteArray) :
    ⦃fun w => ⌜w₀.Extends 0 w⌝⦄ writeHost start bytes ⦃World.Grown w₀⦄ := by
  mvcgen [writeHost]
  grind

end Act

end MemBridge
