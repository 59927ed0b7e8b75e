import MemBridge.Proofs.Lineage.Mapping
import MemBridge.Proofs.Context.History

/-!
The lineage along a history of operations. Every world reached from a sound lineage by making,
viewing, mapping, relinking or releasing tensors and frames is sound
(`World.LineageReached.sound`): parents keep their sort and no chain of parents loops. In such a
world, setting a parent refuses exactly the links that would close a cycle
(`lineage_stays_acyclic`).
-/

namespace MemBridge

open Std.Do Relation

namespace World

open Act

variable {w : World} {r p : Ref}

/-- The worlds a history of operations on tensors and frames reaches from a sound one. A tensor
is built with a parent only when that parent is a tensor, as the builder takes one. -/
inductive LineageReached : World → Prop
  | start {w : World} : w.LineageSound → LineageReached w
  | build {w : World} (s : TensorSpec) : LineageReached w →
      (∀ p, s.parent = some p → w.sortAt p = some .tensor) → LineageReached (s.build.after w)
  | slice {w : World} (r : Ref) (ranges : List (Nat × Nat)) : LineageReached w →
      LineageReached ((Tensor.slice r ranges).after w)
  | sliceRegion {w : World} (r : Ref) (y x : Nat × Nat) : LineageReached w →
      LineageReached ((Tensor.sliceRegion r y x).after w)
  | mapTensor {w : World} (m src : Ref) (mode : AccessMode) : LineageReached w →
      LineageReached ((Mapper.mapTensor m src mode).after w)
  | mapFrame {w : World} (m src : Ref) (mode : AccessMode) : LineageReached w →
      LineageReached ((Mapper.mapFrame m src mode).after w)
  | tensorParent {w : World} (r : Ref) (parent : Option Ref) : LineageReached w →
      LineageReached ((Tensor.setParent r parent).after w)
  | makeFrame {w : World} (media : MediaType) (format : Nat) (tensors : List Ref) :
      LineageReached w → LineageReached ((Frame.make media format tensors).after w)
  | region {w : World} (r : Ref) (rect : Rect) : LineageReached w →
      LineageReached ((Frame.region r rect).after w)
  | addRegion {w : World} (r g : Ref) : LineageReached w →
      LineageReached ((Frame.addRegion r g).after w)
  | frameParent {w : World} (r : Ref) (parent : Option Ref) : LineageReached w →
      LineageReached ((Frame.setParent r parent).after w)
  | acquire {w : World} (p : Ref) : LineageReached w →
      LineageReached ((FramePool.acquire p).after w)
  | evict {w : World} (m : Ref) (h : Handle) : LineageReached w →
      LineageReached ((Mapper.evict m h).after w)
  | clear {w : World} (m : Ref) : LineageReached w → LineageReached ((Mapper.clear m).after w)
  | keeps {w w' : World} : LineageReached w → w.KeepsLinks w' → LineageReached w'

theorem LineageSound.after {α : Type} {x : Act α}
    (hx : ⦃fun w => ⌜w.LineageSound⌝⦄ x ⦃World.SoundLineage⦄) (h : w.LineageSound) :
    (x.after w).LineageSound :=
  after_of_run (of_triple hx h) (fun _ _ h => h) (fun _ _ h => h)

theorem LineageReached.sound (h : w.LineageReached) : w.LineageSound := by
  induction h with
  | start h => exact h
  | build s _ hp ih =>
    exact after_of_run (of_triple (TensorSpec.build_adds s) ⟨Adds.refl _, hp⟩)
      (fun _ _ h => ih.of_adds h.1) (fun _ _ h => ih.of_adds h)
  | slice r ranges _ ih => exact ih.after (sound_of_added fun _ => Tensor.slice_adds r ranges)
  | sliceRegion r y x _ ih => exact ih.after (sound_of_added fun _ => Tensor.sliceRegion_adds r y x)
  | mapTensor m src mode _ ih => exact ih.after (Mapper.mapTensor_sound m src mode)
  | mapFrame m src mode _ ih => exact ih.after (Mapper.mapFrame_sound m src mode)
  | tensorParent r parent _ ih => exact ih.after (Tensor.setParent_sound r parent)
  | makeFrame media format tensors _ ih =>
    exact after_of_run (of_triple (Frame.make_adds media format tensors) (Adds.refl _))
      (fun _ _ h => ih.of_adds h.1) (fun _ _ h => ih.of_adds h)
  | region r rect _ ih => exact ih.after (Frame.region_sound r rect)
  | addRegion r g _ ih => exact ih.after (Frame.addRegion_sound r g)
  | frameParent r parent _ ih => exact ih.after (Frame.setParent_sound r parent)
  | acquire p _ ih => exact ih.after (FramePool.acquire_sound p)
  | evict m h _ ih => exact ih.after (Mapper.evict_sound m h)
  | clear m _ ih => exact ih.after (Mapper.clear_sound m)
  | keeps _ hk ih => exact ih.of_keepsLinks hk

/-- Setting parents of objects of sort `v` in `w` is exact. For objects `r` and `p` of that sort,
the walk `walk r p` up from `p`, with one unit of fuel more than there are objects, reads nothing
and answers whether `r` is `p` or one of its ancestors. When it is, `set r (some p)` lets go of
`p` and fails with `msg`; otherwise it installs the link from `r` to `p`, which stays whatever
letting go of the old parent does. -/
def ParentSetting (w : World) (v : Body.Variant) (walk : Ref → Ref → Nat → Act Bool)
    (set : Ref → Option Ref → Act Unit) (msg : String) : Prop :=
  ∀ r p, w.sortAt r = some v → w.sortAt p = some v →
    (∃ b, (walk r p (w.nodes.size + 1)).run w = .ok b w ∧
      (b = true ↔ ReflTransGen w.LinksTo p r)) ∧
    (ReflTransGen w.LinksTo p r →
      (set r (some p)).run w = (do release p; throw (.invalidArgument msg) : Act Unit).run w) ∧
    (¬ ReflTransGen w.LinksTo p r → ((set r (some p)).after w).LinksTo r p)

theorem LineageSound.of_older (hs : ∀ r p, w.LinksTo r p → p < r ∧ w.sortAt p = w.sortAt r) :
    w.LineageSound where
  sorted r p hl := (hs r p hl).2
  acyclic r hc := by
    -- along links the objects get older
    have hlt : ∀ a b, TransGen w.LinksTo a b → b < a := fun a b hab => by
      induction hab with
      | single hl => exact (hs _ _ hl).1
      | tail _ hl ih => exact (hs _ _ hl).1.trans ih
    exact Nat.lt_irrefl r (hlt r r hc)

theorem linksTo_after_releaseAll {x : Body} (rs : List Ref) (hx : x.variant ≠ .device)
    (hr : r < w.nodes.size) (hp : x.parent = some p) :
    ((releaseAll rs).after (w.setBody r x)).LinksTo r p := by
  have hbody : (w.setBody r x).bodyAt r = some x := by simp [bodyAt_setBody, hr]
  -- the replaced object is no device, so whatever is released keeps it as it is
  have hkeep : ∀ w', (w.setBody r x).Adds w' → w'.LinksTo r p := fun w' ha => by
    simp [LinksTo, parentAt, ha.body_at hbody hx, hp]
  exact after_of_run (R := fun w' => w'.LinksTo r p) (of_triple (releaseAll_adds rs) (Adds.refl _))
    (fun _ => hkeep) (fun _ => hkeep)

theorem LineageSound.tensor_parentSetting (h : w.LineageSound) :
    w.ParentSetting .tensor Tensor.inLineage Tensor.setParent
      "tensor parent link would form a cycle" := by
  intro r p hr hp
  refine ⟨Tensor.run_inLineage_exact h hp, Tensor.run_setParent_refused h hp, fun hfree => ?_⟩
  obtain ⟨t, ht⟩ := exists_tensor_of_sortAt hr
  have hrun := Tensor.run_setParent_installed h ht hp hfree
  simp only [Act.after, hrun]
  exact linksTo_after_releaseAll (x := .tensor { t with parent := some p }) _ (by simp)
    (lt_size_of_bodyAt ht) rfl

theorem LineageSound.frame_parentSetting (h : w.LineageSound) :
    w.ParentSetting .frame Frame.inLineage Frame.setParent
      "frame parent link would form a cycle" := by
  intro r p hr hp
  refine ⟨Frame.run_inLineage_exact h hp, Frame.run_setParent_refused h hp, fun hfree => ?_⟩
  obtain ⟨f, hf⟩ := exists_frame_of_sortAt hr
  have hrun := Frame.run_setParent_installed h hf hp hfree
  simp only [Act.after, hrun]
  exact linksTo_after_releaseAll (x := .frame { f with parent := some p }) _ (by simp)
    (lt_size_of_bodyAt hf) rfl

end World

open World

/-- The lineage stays acyclic. Along any history of operations on tensors and frames from a sound
world, a tensor's parent is a tensor and a frame's parent is a frame, no chain of parents comes
back to where it started, and setting the parent of a tensor or of a frame, by a walk that always
answers, is refused exactly when the new parent is the object itself or one of its descendants,
and otherwise installs the link. -/
theorem lineage_stays_acyclic {w : World} (h : w.LineageReached) :
    (∀ r p, w.LinksTo r p → w.sortAt p = w.sortAt r) ∧ (∀ r, ¬ TransGen w.LinksTo r r) ∧
    w.ParentSetting .tensor Tensor.inLineage Tensor.setParent
      "tensor parent link would form a cycle" ∧
    w.ParentSetting .frame Frame.inLineage Frame.setParent "frame parent link would form a cycle" :=
  ⟨h.sound.sorted, h.sound.acyclic, h.sound.tensor_parentSetting, h.sound.frame_parentSetting⟩

def viewPairWorld : World where
  nodes := #[⟨2, .tensor { kind := .cpu, layout := ⟨[4], [1], .uint8⟩, primary := "data" }⟩,
    ⟨1, .tensor { kind := .cpu, layout := ⟨[2], [1], .uint8⟩, parent := some 0, primary := "data" }⟩]

theorem viewPairWorld_reached : viewPairWorld.LineageReached := by
  refine .start (LineageSound.of_older fun r p h => ?_)
  rcases r with _ | _ | r <;> simp [LinksTo, parentAt, bodyAt, viewPairWorld] at h ⊢
  subst h
  simp

/-- Making the tensor a child of its own view is refused: the view is let go and the call fails
with the cycle message. -/
theorem view_cannot_parent_its_source :
    viewPairWorld.LineageReached ∧
      (Tensor.setParent 0 (some 1)).run viewPairWorld =
        (do Act.release 1; throw (.invalidArgument "tensor parent link would form a cycle") :
          Act Unit).run viewPairWorld :=
  ⟨viewPairWorld_reached,
    ((lineage_stays_acyclic viewPairWorld_reached).2.2.1 0 1 rfl rfl).2.1 (.single rfl)⟩

end MemBridge
