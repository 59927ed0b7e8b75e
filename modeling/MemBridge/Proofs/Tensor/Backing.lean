import MemBridge.Context.Allocate
import MemBridge.Proofs.Mapper.Cache
import MemBridge.Proofs.Context.History

/-!
What backs the memory of a tensor (`World.Backs`): what it holds, what that rests on, and for a
view, its parent. A cache cuts the parent link of what it hands out, and over an identity mapper
it hands out the source itself (`Mapper.tensorWith_identity_miss`). So a view mapped through such
a cache can outlive the buffer it reads (`cached_view_outlives_its_memory`).
-/

namespace MemBridge

namespace World

/-- The host blocks the memory of `r` rests on: an allocation rests on its buffer's block, a
surface and a descriptor on their allocation, a compute buffer on its owner, and a tensor on the
host buffer it holds, on the object it holds, and on its parent. -/
inductive Backs (w : World) : Ref → Nat → Prop
  | allocation {r : Ref} {a : Allocation} :
      w.bodyAt r = some (.allocation a) → w.Backs r a.buffer.block.id
  | surface {r : Ref} {s : Surface} {blk : Nat} :
      w.bodyAt r = some (.surface s) → w.Backs s.memory blk → w.Backs r blk
  | descriptor {r : Ref} {d : Descriptor} {blk : Nat} :
      w.bodyAt r = some (.descriptor d) → w.Backs d.memory blk → w.Backs r blk
  | clBuffer {r : Ref} {b : ClBuffer} {blk : Nat} :
      w.bodyAt r = some (.clBuffer b) → w.Backs b.owner blk → w.Backs r blk
  | buffer {r : Ref} {t : Tensor} {b : Buffer} :
      w.bodyAt r = some (.tensor t) → t.holding = some (.buffer b) → w.Backs r b.block.id
  | allocationHeld {r m : Ref} {t : Tensor} {blk : Nat} :
      w.bodyAt r = some (.tensor t) → t.holding = some (.allocation m) → w.Backs m blk →
      w.Backs r blk
  | sharedHeld {r m : Ref} {t : Tensor} {blk : Nat} :
      w.bodyAt r = some (.tensor t) → t.holding = some (.shared m) → w.Backs m blk →
      w.Backs r blk
  | parent {r p : Ref} {t : Tensor} {blk : Nat} :
      w.bodyAt r = some (.tensor t) → t.parent = some p → w.Backs p blk → w.Backs r blk

/-- What a world records of the memory of a tensor: its host address, what it holds and its
parent. -/
structure MemoryFacts where
  host : Option Addr
  holding : Option Holding
  parent : Option Ref
  deriving DecidableEq

def memoryFacts (w : World) (r : Ref) : Option MemoryFacts :=
  match w.bodyAt r with
  | some (.tensor t) => some ⟨t.host, t.holding, t.parent⟩
  | _ => none

theorem exists_of_memoryFacts {w : World} {r : Ref} {f : MemoryFacts}
    (h : w.memoryFacts r = some f) :
    ∃ t, w.bodyAt r = some (.tensor t) ∧ t.host = f.host ∧ t.holding = f.holding ∧
      t.parent = f.parent := by
  unfold memoryFacts at h
  split at h
  · next t ht =>
    cases h
    exact ⟨t, ht, rfl, rfl, rfl⟩
  · cases h

theorem not_backs_of_bare {w : World} {r : Ref} {t : Tensor} {blk : Nat}
    (ht : w.bodyAt r = some (.tensor t)) (hh : t.holding = none) (hp : t.parent = none) :
    ¬ w.Backs r blk := by
  intro hb
  cases hb with
  | allocation h | surface h _ | descriptor h _ | clBuffer h _ => simp [ht] at h
  | buffer h hb' | allocationHeld h hb' _ | sharedHeld h hb' _ =>
    rw [ht, Option.some.injEq, Body.tensor.injEq] at h
    subst h
    simp [hh] at hb'
  | parent h hp' _ =>
    rw [ht, Option.some.injEq, Body.tensor.injEq] at h
    subst h
    simp [hp] at hp'

end World

namespace Mapper

open Act

variable {w : World} {m src x : Ref} {mode : AccessMode}

theorem tensorWith_identity (fuel : Nat) (hm : w.bodyAt m = some (.mapper (.identity x))) :
    (tensorWith (fuel + 1) m src mode).run w = (do retain src; return src : Act Ref).run w := by
  simp [tensorWith, EStateM.run_bind, run_mapper hm]

theorem tensorWith_identity_miss (fuel : Nat) {c : Cache} {t : Tensor} {h : Handle}
    (hm : w.bodyAt m = some (.mapper (.cache c)))
    (hi : w.bodyAt c.inner = some (.mapper (.identity x))) (hmi : c.inner ≠ m)
    (hsrc : w.bodyAt src = some (.tensor t)) (hh : t.handle "" = .ok h)
    (hv : lookup c.tensors h mode = none) :
    (tensorWith (fuel + 2) m src mode).run w =
      (do
        retain src
        Tensor.clearParent src
        retain src
        let c ← cacheOf m
        setCache m { c with tensors := fillSlot c.tensors h mode src, misses := c.misses + 1 }
        return src : Act Ref).run
        (w.setBody m (.mapper (.cache { c with tensors := (slotFor c.tensors h mode).2 }))) := by
  rw [tensorWith_cache_miss (fuel + 1) hm hsrc hh hv]
  have hi' : (w.setBody m (.mapper (.cache { c with tensors := (slotFor c.tensors h mode).2 }))).bodyAt
      c.inner = some (.mapper (.identity x)) := by
    rw [World.bodyAt_setBody_of_ne _ hmi]
    exact hi
  simp only [EStateM.run_bind, tensorWith_identity fuel hi']
  -- the identity's retain decides both runs alike
  cases (retain src).run _ <;> rfl

end Mapper

def hostIdentityCache : Cache := { inner := 1, policy := .reissue, name := "cache(identity)" }

/-- A host context at 0 with allocator 0, its identity mapper at 1, and `hostIdentityCache` at
2. -/
def identityCacheWorld : World where
  nodes := #[⟨1, .context ⟨0, none, .cpu none 0, []⟩⟩, ⟨1, .mapper (.identity 0)⟩,
    ⟨1, .mapper (.cache hostIdentityCache)⟩]
  allocators := #[some {}]

def tensorAndView : Act (Ref × Ref) := do
  let t ← Context.allocateHost 0 ⟨[4], [1], .uint8⟩
  let s ← Tensor.slice t [(0, 2)]
  return (t, s)

def fourHostBytes : Tensor :=
  { kind := .cpu, layout := ⟨[4], [1], .uint8⟩, context := .strong 0,
    handles := [("data", .addr ⟨0, 0⟩)], primary := "data", host := some ⟨0, 0⟩,
    holding := some (.buffer ⟨0, ⟨0, 4096⟩, 4⟩) }

def firstTwoOfFour : Tensor :=
  { fourHostBytes with layout := ⟨[2], [1], .uint8⟩, parent := some 3, holding := none }

/-- `identityCacheWorld` with the tensor of `fourHostBytes` at 3 and the view `firstTwoOfFour`
at 4. -/
def slicedWorld : World where
  nodes := #[⟨3, .context ⟨0, none, .cpu none 0, []⟩⟩, ⟨1, .mapper (.identity 0)⟩,
    ⟨1, .mapper (.cache hostIdentityCache)⟩, ⟨2, .tensor fourHostBytes⟩,
    ⟨1, .tensor firstTwoOfFour⟩]
  allocators := #[some { misses := 1, liveBytes := 4096 }]
  heap := ⟨#[ByteArray.empty]⟩

/-- Maps the view at 4 through the cache, lets the tensor at 3 go and allocates another host
tensor of four bytes; answers the mapped view and the new tensor. -/
def cacheThenRecycle : Act (Ref × Ref) := do
  let m ← Mapper.mapTensor 2 4 .read
  Act.release 3
  let u ← Context.allocateHost 0 ⟨[4], [1], .uint8⟩
  return (m, u)

/-- Allocating a host tensor and cutting a view of it gives `slicedWorld`. From there, the view
the cache hands out is alive and reads from block 0, yet it holds nothing and has no parent, so
no memory backs it; block 0 backs the tensor allocated after the view's source was let go. -/
theorem cached_view_outlives_its_memory :
    tensorAndView.run identityCacheWorld = .ok (3, 4) slicedWorld ∧
    match cacheThenRecycle.run slicedWorld with
    | .ok (v, u) w =>
      0 < w.strongAt v ∧ (∃ t, w.bodyAt v = some (.tensor t) ∧ t.data = .ok ⟨0, 0⟩) ∧
        (∀ blk, ¬ w.Backs v blk) ∧ 0 < w.strongAt u ∧ w.Backs u 0
    | .error _ _ => False := by
  refine ⟨rfl, ?_⟩
  have hmap : (Mapper.mapTensor 2 4 .read).run slicedWorld =
      (do
        Act.retain 4
        Tensor.clearParent 4
        Act.retain 4
        let c ← Mapper.cacheOf 2
        Mapper.setCache 2 { c with
          tensors := Mapper.fillSlot c.tensors (Handle.addr ⟨0, 0⟩) AccessMode.read 4
          misses := c.misses + 1 }
        return 4 : Act Ref).run
        (slicedWorld.setBody 2 (.mapper (.cache { hostIdentityCache with
          tensors := (Mapper.slotFor hostIdentityCache.tensors (Handle.addr ⟨0, 0⟩)
            AccessMode.read).2 }))) := by
    rw [Mapper.run_mapTensor]
    exact Mapper.tensorWith_identity_miss 4 rfl rfl (by decide) rfl rfl rfl
  have h : (match cacheThenRecycle.run slicedWorld with
      | .ok (v, u) w =>
        some (decide (0 < w.strongAt v), decide (0 < w.strongAt u), w.memoryFacts v,
          w.memoryFacts u)
      | .error _ _ => none) =
      some (true, true, some ⟨some ⟨0, 0⟩, none, none⟩,
        some ⟨some ⟨0, 0⟩, some (.buffer ⟨0, ⟨0, 4096⟩, 4⟩), none⟩) := by
    simp only [cacheThenRecycle, EStateM.run_bind, hmap]
    decide +kernel
  split at h
  · next v u w _ =>
    simp only [Option.some.injEq, Prod.mk.injEq, decide_eq_true_eq] at h
    obtain ⟨hv, hu, hfv, hfu⟩ := h
    obtain ⟨tv, hbv, hhost, hhold, hpar⟩ := World.exists_of_memoryFacts hfv
    obtain ⟨tu, hbu, -, hholdu, -⟩ := World.exists_of_memoryFacts hfu
    refine ⟨hv, ⟨tv, hbv, by simp [Tensor.data, hhost]⟩,
      fun _ => World.not_backs_of_bare hbv hhold hpar, hu, ?_⟩
    exact World.Backs.buffer (b := ⟨0, ⟨0, 4096⟩, 4⟩) hbu hholdu
  · cases h

end MemBridge
