import MemBridge.Proofs.Device.Adds

/-!
Building tensors and frames only adds objects.

A built tensor carries its spec's kind, layout, context and parent (`TensorSpec.Built`); a made
frame carries its media type, format and tensors, and the kind of its first tensor
(`Frame.Made`). A tensor is built only over a parent that is a tensor, and a frame is made
with no parent, so both only add to the world. Giving a new frame its source as parent
changes that frame alone, which `Mapper.withParent_sets` says exactly.
-/

namespace MemBridge

open Std.Do

set_option mvcgen.warning false

-- A lemma of this module reaches `mvcgen` through a `have` (`specN`): named in the list, it would
-- make the proof wait until that lemma's own proof is checked. Where `grind` or `simp_all`
-- follows, the binding is cleared first, so that they do not take it up as a hypothesis.

variable {w₀ : World}

namespace TensorSpec

@[simp, grind =] theorem withHandle_kind (s : TensorSpec) (k : String) (v : Handle) :
    (s.withHandle k v).kind = s.kind := rfl
@[simp, grind =] theorem withHandle_layout (s : TensorSpec) (k : String) (v : Handle) :
    (s.withHandle k v).layout = s.layout := rfl
@[simp, grind =] theorem withHandle_context (s : TensorSpec) (k : String) (v : Handle) :
    (s.withHandle k v).context = s.context := rfl
@[simp, grind =] theorem withHandle_parent (s : TensorSpec) (k : String) (v : Handle) :
    (s.withHandle k v).parent = s.parent := rfl

def Built (s : TensorSpec) (w : World) (r : Ref) : Prop :=
  ∃ t, w.bodyAt r = some (.tensor t) ∧ t.kind = s.kind ∧ t.layout = s.layout ∧
    t.context = s.context ∧ t.parent = s.parent

open Act World

theorem discard_adds (s : TensorSpec) :
    ⦃fun w => ⌜w₀.Adds w⌝⦄ s.discard ⦃World.Added w₀⦄ := by
  unfold discard runTasks
  mvcgen [-Act.drain_spec, drain_same] <;> grind

theorem build_adds (s : TensorSpec) :
    ⦃fun w => ⌜w₀.Adds w ∧ ∀ p, s.parent = some p → w.sortAt p = some .tensor⌝⦄ s.build
    ⦃post⟨fun r w => ⌜w₀.Adds w ∧ w₀.nodes.size ≤ r ∧ s.Built w r⌝,
      fun _ w => ⌜w₀.Adds w⌝⟩⦄ := by
  have spec1 := @discard_adds
  mvcgen [build, -build_spec, -discard_spec, spec1, -Act.create_spec, create_adds] <;> clear spec1
  all_goals grind [Built]

end TensorSpec

namespace Context

open Act

theorem kindOf_adds (r : Ref) :
    ⦃fun w => ⌜w₀.Adds w⌝⦄ kindOf r
    ⦃post⟨fun k w => ⌜w₀.Adds w ∧ w.kindAt r = some k⌝, fun _ w => ⌜w₀.Adds w⌝⟩⦄ := by
  mvcgen [kindOf, -kindOf_spec, -Act.context_spec, context_adds] <;> grind [World.kindAt]

end Context

namespace Tensor

open Act

theorem handleOf_adds (r : Ref) (key : String) :
    ⦃fun w => ⌜w₀.Adds w⌝⦄ handleOf r key ⦃World.Added w₀⦄ := by
  mvcgen [handleOf, -handleOf_spec, -Act.tensor_spec, tensor_adds, -Act.lift_spec,
    lift_adds] <;> grind

theorem elementBytes_adds (t : Tensor) :
    ⦃fun w => ⌜w₀.Adds w⌝⦄ elementBytes t ⦃World.Added w₀⦄ := by
  mvcgen [elementBytes, -elementBytes_spec, -Act.lift_spec, lift_adds] <;> grind

theorem readBytes_adds (r : Ref) :
    ⦃fun w => ⌜w₀.Adds w⌝⦄ readBytes r ⦃World.Added w₀⦄ := by
  have spec1 := @elementBytes_adds
  mvcgen [readBytes, -readBytes_spec, -Act.tensor_spec, tensor_adds, -Act.lift_spec, lift_adds,
    -elementBytes_spec, spec1, -Act.readHost_spec, readHost_adds] <;> clear spec1
  case inv1 => exact World.Added w₀
  all_goals grind

theorem writeAt_adds (base : Except Fault Addr) (layout : Layout) (bytes : ByteArray) :
    ⦃fun w => ⌜w₀.Adds w⌝⦄ writeAt base layout bytes ⦃World.Added w₀⦄ := by
  mvcgen [writeAt, -writeAt_spec, -Act.lift_spec, lift_adds, -Act.writeHost_spec,
    writeHost_adds]
  case inv1 => exact World.Added w₀
  all_goals grind

end Tensor

namespace Frame

open Act World

/-- `g` is the frame made over `tensors`: of the media type and format asked for, with the
kind of its first tensor, and no parent. -/
def Made (w : World) (g : Ref) (media : MediaType) (format : Nat) (tensors : List Ref) :
    Prop :=
  ∃ t₀ x, tensors.head? = some t₀ ∧ w.bodyAt t₀ = some (.tensor x) ∧
    w.bodyAt g = some (.frame { media, format, kind := x.kind, tensors })

theorem make_adds (media : MediaType) (format : Nat) (tensors : List Ref) :
    ⦃fun w => ⌜w₀.Adds w⌝⦄ make media format tensors
    ⦃post⟨fun g w => ⌜w₀.Adds w ∧ w₀.nodes.size ≤ g ∧ Made w g media format tensors⌝,
      fun _ w => ⌜w₀.Adds w⌝⟩⦄ := by
  mvcgen [make, -make_spec, -Act.tensor_spec, tensor_adds, -Act.releaseAll_spec,
    releaseAll_adds, -Act.create_spec, create_adds]
  -- the loop only reads, from the world where the first tensor was read
  case inv1 => rename_i s₁ _; exact post⟨fun _ w => ⌜s₁.Adds w⌝, fun _ w => ⌜w₀.Adds w⌝⟩
  all_goals grind [Made]

theorem tensorAt_adds (r : Ref) (i : Nat) :
    ⦃fun w => ⌜w₀.Adds w⌝⦄ tensorAt r i ⦃World.Added w₀⦄ := by
  mvcgen [tensorAt, -tensorAt_spec, -Act.frame_spec, frame_adds, -Act.lift_spec,
    lift_adds] <;> grind

theorem inLineage_reads {w₁ : World} (r candidate : Ref) (fuel : Nat) :
    ⦃fun w => ⌜w = w₁⌝⦄ inLineage r candidate fuel
    ⦃post⟨fun _ w => ⌜w = w₁⌝, fun _ w => ⌜w = w₁⌝⟩⦄ := by
  induction fuel generalizing candidate with
  | zero => mvcgen [inLineage, -inLineage_spec]
  | succ fuel ih =>
    mvcgen [inLineage, -inLineage_spec, ih, -Act.frame_spec, frame_reads] <;> grind

end Frame

end MemBridge
