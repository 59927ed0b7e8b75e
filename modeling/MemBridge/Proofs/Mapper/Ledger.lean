import MemBridge.Proofs.Device.Copies
import MemBridge.Proofs.Device.Surface
import MemBridge.Proofs.Frame.Regions
import MemBridge.Proofs.Mapper.Contract

/-!
Mapping and the copy ledgers.

Of all the steps a mapping takes, counting an upload is the one that changes a ledger: building
tensors and frames, linking them, releasing what a step held and asking a device for memory,
surfaces, descriptors or compute buffers keep every ledger (`World.LedgersAre`). So every direct
route but the upload keeps the ledgers, for tensors and for frames, whether it succeeds or
fails; the upload, of a tensor or of a frame, changes them along the upload path alone
(`World.CopiedOnly`); and so does mapping with any mapper, whose chains and caches run direct
routes and otherwise only read mappers, count hits and clear links.
-/

namespace MemBridge

open Std.Do

set_option mvcgen.warning false

-- A lemma of this module reaches `mvcgen` through a `have` (`specN`): named in the list, it would
-- make the proof wait until that lemma's own proof is checked. Where `grind` or `simp_all`
-- follows, the binding is cleared first, so that they do not take it up as a hypothesis.

def CopyPath.upload : CopyPath := ⟨"cpu_to_vaapi", .cpu, .vaapi⟩

/-- What a mapping step leaves, whether it succeeds or fails: ledgers changed from `L` along the
upload path alone. -/
abbrev World.UploadsOnly {α : Type} (L : Ref → Option Ledger) :
    PostCond α (.except Fault (.arg World .pure)) :=
  post⟨fun _ w => ⌜World.LedgersAlong (· = CopyPath.upload) L w.ledgerAt⌝,
    fun _ w => ⌜World.LedgersAlong (· = CopyPath.upload) L w.ledgerAt⌝⟩

namespace Ledger

variable {l l' : Ledger} {p : CopyPath}

def CountsOne (p : CopyPath) (bytes : Nat) (l l' : Ledger) : Prop :=
  l'.totals p = { copies := (l.totals p).copies + 1, bytes := (l.totals p).bytes + bytes }

theorem entry_put_self (t : CopyTotals) : (l.put p t).entry p = some (p, t) := by
  unfold put entry
  split
  · next hany =>
    -- the entries of `p` are replaced in place, so the first of them is still found first
    have hpred : ((·.1 == p) ∘ fun e => if e.1 == p then (p, t) else e) = (·.1 == p) := by
      funext e
      by_cases he : e.1 = p <;> simp [he]
    obtain ⟨e, hfind⟩ : ∃ e, l.paths.find? (·.1 == p) = some e := by
      rw [← Option.isSome_iff_exists, List.find?_isSome]
      exact List.any_eq_true.1 hany
    have hep : e.1 = p := by simpa using List.find?_some hfind
    rw [List.find?_map, hpred, hfind]
    simp [hep]
  · next hany =>
    have hnone : l.paths.find? (·.1 == p) = none :=
      List.find?_eq_none.2 fun e he hep => hany (List.any_eq_true.2 ⟨e, he, hep⟩)
    rw [List.find?_append, List.find?_append, find?_filter_path l.paths (fun c => c.lt p)]
    cases p.lt p <;> simp [hnone]

theorem totals_put_self (t : CopyTotals) : (l.put p t).totals p = t := by
  rw [totals_eq_entry, entry_put_self]
  rfl

theorem countsOne_of_record {bytes : Nat} (h : (l.record p bytes).1 = .ok l') :
    l.CountsOne p bytes l' := by
  simp only [record] at h
  split at h
  · next total htotal =>
    cases h
    rw [CountsOne, totals_put_self, (Device.checkedAdd_eq_ok.1 htotal).2]
  · cases h

end Ledger

namespace TensorSpec

open Act World

variable {L : Ref → Option Ledger}

theorem discard_ledgers (s : TensorSpec) :
    ⦃fun w => ⌜w.ledgerAt = L⌝⦄ s.discard ⦃World.LedgersAre L⦄ := by
  mvcgen [discard, runTasks, -discard_spec, -Act.drain_spec, drain_ledgers]

theorem build_ledgers (s : TensorSpec) :
    ⦃fun w => ⌜w.ledgerAt = L⌝⦄ s.build ⦃World.LedgersAre L⦄ := by
  have spec1 := @discard_ledgers
  mvcgen [build, -build_spec, -discard_spec, spec1, -Act.create_spec,
    create_ledgers] <;> clear spec1 <;> grind [Body.variant]

end TensorSpec

namespace Tensor

open Act World

variable {L : Ref → Option Ledger}

theorem handleOf_ledgers (r : Ref) (key : String) :
    ⦃fun w => ⌜w.ledgerAt = L⌝⦄ handleOf r key ⦃World.LedgersAre L⦄ := by
  mvcgen [handleOf, -handleOf_spec, -Act.tensor_spec, tensor_ledgers, -Act.lift_spec,
    lift_ledgers] <;> grind

theorem handleOf_reads {w₁ : World} (r : Ref) (key : String) :
    ⦃fun w => ⌜w = w₁⌝⦄ handleOf r key ⦃post⟨fun _ w => ⌜w = w₁⌝, fun _ w => ⌜w = w₁⌝⟩⦄ := by
  mvcgen [handleOf, -handleOf_spec, -Act.tensor_spec, tensor_reads, -Act.lift_spec,
    lift_reads] <;> simp_all

theorem inLineage_ledgers (r candidate : Ref) (fuel : Nat) :
    ⦃fun w => ⌜w.ledgerAt = L⌝⦄ inLineage r candidate fuel ⦃World.LedgersAre L⦄ := by
  induction fuel generalizing candidate with
  | zero => mvcgen [inLineage, -inLineage_spec]
  | succ fuel ih =>
    mvcgen [inLineage, -inLineage_spec, ih, -Act.tensor_spec, tensor_ledgers] <;> grind

theorem setParent_ledgers (r : Ref) (parent : Option Ref) :
    ⦃fun w => ⌜w.ledgerAt = L⌝⦄ setParent r parent ⦃World.LedgersAre L⦄ := by
  have spec1 := @inLineage_ledgers
  mvcgen [setParent, -setParent_spec, -inLineage_spec, spec1, -Act.release_spec,
    release_ledgers, -Act.tensor_spec, tensor_ledgers, -Act.modifyTensor_spec,
    modifyTensor_ledgers] <;> clear spec1 <;> grind

theorem elementBytes_ledgers (t : Tensor) :
    ⦃fun w => ⌜w.ledgerAt = L⌝⦄ elementBytes t ⦃World.LedgersAre L⦄ := by
  mvcgen [elementBytes, -elementBytes_spec, -Act.lift_spec, lift_ledgers] <;> grind

theorem readBytes_ledgers (r : Ref) :
    ⦃fun w => ⌜w.ledgerAt = L⌝⦄ readBytes r ⦃World.LedgersAre L⦄ := by
  have spec1 := @elementBytes_ledgers
  mvcgen [readBytes, -readBytes_spec, -Act.tensor_spec, tensor_ledgers, -Act.lift_spec,
    lift_ledgers, -elementBytes_spec, spec1, -Act.readHost_spec,
    readHost_ledgers] <;> clear spec1
  case inv1 => exact World.LedgersAre L
  all_goals grind

theorem readBytes_keeps {w₁ : World} (r : Ref) :
    ⦃fun w => ⌜w = w₁⌝⦄ readBytes r ⦃post⟨fun _ w => ⌜w = w₁⌝, fun _ w => ⌜w = w₁⌝⟩⦄ := by
  mvcgen [readBytes, -readBytes_spec, -Act.tensor_spec, tensor_reads, -Act.lift_spec,
    lift_reads, elementBytes, -elementBytes_spec, -Act.readHost_spec, readHost]
  case inv1 => exact post⟨fun _ w => ⌜w = w₁⌝, fun _ w => ⌜w = w₁⌝⟩
  all_goals simp_all

theorem readBytes_reads {w₁ : World} (r : Ref) :
    ⦃fun w => ⌜w = w₁⌝⦄ readBytes r
    ⦃post⟨fun b w => ⌜w = w₁ ∧ (readBytes r).run w₁ = .ok b w₁⌝, fun _ w => ⌜w = w₁⌝⟩⦄ := by
  apply triple_of_run
  rintro w rfl
  have h := of_triple (@readBytes_keeps w r) rfl
  cases hrun : (readBytes r).run w <;> simp_all

theorem writeAt_ledgers (base : Except Fault Addr) (layout : Layout) (bytes : ByteArray) :
    ⦃fun w => ⌜w.ledgerAt = L⌝⦄ writeAt base layout bytes ⦃World.LedgersAre L⦄ := by
  mvcgen [writeAt, -writeAt_spec, -Act.lift_spec, lift_ledgers, -Act.writeHost_spec,
    writeHost_ledgers]
  case inv1 => exact World.LedgersAre L
  all_goals grind

end Tensor

namespace Frame

open Act World

variable {L : Ref → Option Ledger}

theorem make_ledgers (media : MediaType) (format : Nat) (tensors : List Ref) :
    ⦃fun w => ⌜w.ledgerAt = L⌝⦄ make media format tensors ⦃World.LedgersAre L⦄ := by
  mvcgen [make, -make_spec, -Act.tensor_spec, tensor_ledgers, -Act.releaseAll_spec,
    releaseAll_ledgers, -Act.create_spec, create_ledgers]
  case inv1 => exact World.LedgersAre L
  all_goals grind [Body.variant]

theorem tensorAt_ledgers (r : Ref) (i : Nat) :
    ⦃fun w => ⌜w.ledgerAt = L⌝⦄ tensorAt r i ⦃World.LedgersAre L⦄ := by
  mvcgen [tensorAt, -tensorAt_spec, -Act.frame_spec, frame_ledgers, -Act.lift_spec,
    lift_ledgers] <;> grind

theorem tensorAt_reads {w₁ : World} (r : Ref) (i : Nat) :
    ⦃fun w => ⌜w = w₁⌝⦄ tensorAt r i ⦃post⟨fun _ w => ⌜w = w₁⌝, fun _ w => ⌜w = w₁⌝⟩⦄ := by
  mvcgen [tensorAt, -tensorAt_spec, -Act.frame_spec, frame_reads, -Act.lift_spec,
    lift_reads] <;> simp_all

theorem tensorAt_finds {w₁ : World} (r : Ref) (i : Nat) :
    ⦃fun w => ⌜w = w₁⌝⦄ tensorAt r i
    ⦃post⟨fun t w => ⌜w = w₁ ∧ ∃ f, w₁.bodyAt r = some (.frame f) ∧ f.tensors[i]? = some t⌝,
      fun _ w => ⌜w = w₁⌝⟩⦄ := by
  mvcgen [tensorAt, -tensorAt_spec, -Act.frame_spec, frame_reads, -Act.lift_spec, lift_reads]
  all_goals simp_all [Frame.select]
  -- the index is looked up by a match on the frame's list
  rintro - h
  split at h <;> simp_all

theorem inLineage_ledgers (r candidate : Ref) (fuel : Nat) :
    ⦃fun w => ⌜w.ledgerAt = L⌝⦄ inLineage r candidate fuel ⦃World.LedgersAre L⦄ := by
  induction fuel generalizing candidate with
  | zero => mvcgen [inLineage, -inLineage_spec]
  | succ fuel ih =>
    mvcgen [inLineage, -inLineage_spec, ih, -Act.frame_spec, frame_ledgers] <;> grind

theorem setParent_ledgers (r : Ref) (parent : Option Ref) :
    ⦃fun w => ⌜w.ledgerAt = L⌝⦄ setParent r parent ⦃World.LedgersAre L⦄ := by
  have spec1 := @inLineage_ledgers
  mvcgen [setParent, -setParent_spec, -inLineage_spec, spec1, -Act.release_spec,
    release_ledgers, -Act.frame_spec, frame_ledgers, -Act.modifyFrame_spec,
    modifyFrame_ledgers] <;> clear spec1 <;> grind

theorem clearMetadata_ledgers (r : Ref) :
    ⦃fun w => ⌜w.ledgerAt = L⌝⦄ clearMetadata r ⦃World.LedgersAre L⦄ := by
  mvcgen [clearMetadata, dropDictionary, -clearMetadata_spec, -Act.frame_spec, frame_ledgers,
    -Act.modifyFrame_spec, modifyFrame_ledgers, -Act.releaseAll_spec, releaseAll_ledgers]
  case inv1 => exact World.LedgersAre L
  all_goals grind

theorem clearRegions_ledgers (r : Ref) :
    ⦃fun w => ⌜w.ledgerAt = L⌝⦄ clearRegions r ⦃World.LedgersAre L⦄ := by
  mvcgen [clearRegions, -clearRegions_spec, -Act.modifyFrame_spec, modifyFrame_ledgers]

end Frame

namespace Act

open World

variable {L : Ref → Option Ledger}

theorem collect_ledgers {α : Type} (items : List α) (step : α → Act Ref)
    (hstep : ∀ x L, ⦃fun w => ⌜w.ledgerAt = L⌝⦄ step x ⦃World.LedgersAre L⦄) :
    ⦃fun w => ⌜w.ledgerAt = L⌝⦄ collect items step ⦃World.LedgersAre L⦄ := by
  mvcgen [collect, -collect_spec, hstep, -releaseAll_spec, releaseAll_ledgers]
  case inv1 => exact World.LedgersAre L
  all_goals grind

theorem uploads_of_ledgers {α : Type} {x : Act α}
    (hx : ∀ L, ⦃fun w => ⌜w.ledgerAt = L⌝⦄ x ⦃World.LedgersAre L⦄) :
    ⦃fun w => ⌜w.ledgerAt = L⌝⦄ x ⦃World.UploadsOnly L⦄ := by
  apply triple_of_run
  rintro w rfl
  have h := of_triple (hx w.ledgerAt) rfl
  cases hrun : x.run w <;> rw [hrun] at h <;> simp only [h] <;> exact LedgersAlong.refl _ _

theorem collect_uploads {α : Type} (items : List α) (step : α → Act Ref)
    (hstep : ∀ x L, ⦃fun w => ⌜w.ledgerAt = L⌝⦄ step x ⦃World.UploadsOnly L⦄) :
    ⦃fun w => ⌜w.ledgerAt = L⌝⦄ collect items step ⦃World.UploadsOnly L⦄ := by
  mvcgen [collect, -collect_spec, hstep, -releaseAll_spec, releaseAll_ledgers]
  case inv1 => exact World.UploadsOnly L
  all_goals grind

theorem after_ledgers {α : Type} {x : Act α}
    (hx : ∀ L, ⦃fun w => ⌜w.ledgerAt = L⌝⦄ x ⦃World.LedgersAre L⦄) (w : World) :
    (x.after w).ledgerAt = w.ledgerAt :=
  after_of_run (of_triple (hx w.ledgerAt) rfl) (fun _ _ h => h) (fun _ _ h => h)

theorem after_uploads {α : Type} {x : Act α}
    (hx : ∀ L, ⦃fun w => ⌜w.ledgerAt = L⌝⦄ x ⦃World.UploadsOnly L⦄) (w : World) :
    World.LedgersAlong (· = CopyPath.upload) w.ledgerAt (x.after w).ledgerAt :=
  after_of_run (of_triple (hx w.ledgerAt) rfl) (fun _ _ h => h) (fun _ _ h => h)

theorem owning_uploads {α : Type} (r : Ref) (x : Act α)
    (hx : ∀ L, ⦃fun w => ⌜w.ledgerAt = L⌝⦄ x ⦃World.UploadsOnly L⦄) :
    ⦃fun w => ⌜w.ledgerAt = L⌝⦄ owning r x ⦃World.UploadsOnly L⦄ := by
  mvcgen [owning, hx, -Act.release_spec, release_ledgers] <;> grind

theorem surface_reads {w₁ : World} (r : Ref) :
    ⦃fun w => ⌜w = w₁⌝⦄ surface r
    ⦃post⟨fun s w => ⌜w = w₁ ∧ w₁.bodyAt r = some (.surface s)⌝, fun _ w => ⌜w = w₁⌝⟩⦄ := by
  unfold surface body broken
  mvcgen [-Act.node_spec, node_reads] <;> simp_all [bodyAt_of_getElem?]

theorem release_any (r : Ref) :
    ⦃fun _ => ⌜True⌝⦄ release r ⦃post⟨fun _ _ => ⌜True⌝, fun _ _ => ⌜True⌝⟩⦄ := by
  mvcgen [-Act.release_spec, release_ledgers]

end Act

/-! ## What a frame upload writes -/

/-- The bytes of a plane's elements, as its layout counts them. -/
def Plane.elementBytes (p : Plane) : Except Fault Nat := (Mapper.planeLayout p).bind Layout.size

/-- The element bytes of the planes of `planes` come to `n`. -/
def Plane.TotalBytes (planes : List (Ref × Plane)) (n : Nat) : Prop :=
  ∃ ns, List.Forall₂ (fun q n => q.2.elementBytes = .ok n) planes ns ∧ n = ns.foldl (· + ·) 0

theorem Plane.TotalBytes.nil : Plane.TotalBytes [] 0 := ⟨[], .nil, rfl⟩

theorem Plane.TotalBytes.concat {pre : List (Ref × Plane)} {q : Ref × Plane} {n m : Nat}
    {layout : Layout} (h : Plane.TotalBytes pre n) (hl : Mapper.planeLayout q.2 = .ok layout)
    (hm : layout.size = .ok m) : Plane.TotalBytes (pre ++ [q]) (n + m) := by
  obtain ⟨ns, hns, rfl⟩ := h
  refine ⟨ns ++ [m], List.rel_append hns (.cons ?_ .nil), ?_⟩
  · simp [Plane.elementBytes, hl, Except.bind, hm]
  · simp [List.foldl_append]

/-- The planes an upload of frame `src` into a surface of format `fmt` on device `dv` fills, read
off the world before it runs, each with the tensor that fills it: the format's planes at the size
of the frame's first tensor and at the device's pitch alignment. -/
def World.uploadPlanes (w : World) (dv src : Ref) (fmt : ImageFormat) :
    Option (List (Ref × Plane)) :=
  match w.bodyAt src, w.bodyAt dv with
  | some (.frame f), some (.device d) =>
    match f.tensors[0]?.bind w.bodyAt with
    | some (.tensor t) =>
      match ImageView.ofLayout t.layout with
      | .ok luma =>
        match Device.planesOf fmt luma.width luma.height d.config.pitchAlignment with
        | .ok (planes, _) => some (f.tensors.zip planes)
        | .error _ => none
      | .error _ => none
    | _ => none
  | _, _ => none

theorem World.uploadPlanes_of {w : World} {dv src t0 : Ref} {fmt : ImageFormat} {f : Frame}
    {t : Tensor} {luma : ImageView} {d : Device} {planes : List Plane} {size : Nat}
    (hf : w.bodyAt src = some (.frame f)) (h0 : f.tensors[0]? = some t0)
    (ht : w.bodyAt t0 = some (.tensor t)) (hl : ImageView.ofLayout t.layout = .ok luma)
    (hd : w.bodyAt dv = some (.device d))
    (hp : Device.planesOf fmt luma.width luma.height d.config.pitchAlignment = .ok (planes, size)) :
    w.uploadPlanes dv src fmt = some (f.tensors.zip planes) := by
  simp [World.uploadPlanes, hf, hd, h0, ht, hl, hp]

namespace Mapper

open Act World

variable {L : Ref → Option Ledger}

theorem expectKind_ledgers (expected actual : MemoryKind) :
    ⦃fun w => ⌜w.ledgerAt = L⌝⦄ expectKind expected actual ⦃World.LedgersAre L⦄ := by
  mvcgen [expectKind, -expectKind_spec]

theorem memoryOwner_ledgers (src : Ref) :
    ⦃fun w => ⌜w.ledgerAt = L⌝⦄ memoryOwner src ⦃World.LedgersAre L⦄ := by
  have go (fuel : Nat) : ∀ cursor L,
      ⦃fun w => ⌜w.ledgerAt = L⌝⦄ memoryOwner.go src cursor fuel ⦃World.LedgersAre L⦄ := by
    induction fuel with
    | zero =>
      intro cursor L
      mvcgen [memoryOwner.go, -Act.retain_spec, retain_ledgers] <;> grind
    | succ fuel ih =>
      intro cursor L
      mvcgen [memoryOwner.go, ih, -Act.tensor_spec, tensor_ledgers, -Act.retain_spec,
        retain_ledgers] <;> grind
  mvcgen [memoryOwner, -memoryOwner_spec, go]

theorem mapped_ledgers (src : Ref) (kind : MemoryKind) (output : Ref) (layout : Layout) :
    ⦃fun w => ⌜w.ledgerAt = L⌝⦄ mapped src kind output layout ⦃World.LedgersAre L⦄ := by
  mvcgen [mapped, -mapped_spec, -Act.retain_spec, retain_ledgers] <;> grind

theorem runtimeSpec_ledgers (src output : Ref) (layout : Layout) :
    ⦃fun w => ⌜w.ledgerAt = L⌝⦄ runtimeSpec src output layout ⦃World.LedgersAre L⦄ := by
  have spec1 := @mapped_ledgers
  mvcgen [runtimeSpec, -runtimeSpec_spec, -mapped_spec, spec1] <;> clear spec1 <;> grind

theorem waitMemory_ledgers (dv memory : Ref) :
    ⦃fun w => ⌜w.ledgerAt = L⌝⦄ waitMemory dv memory ⦃World.LedgersAre L⦄ := by
  mvcgen [waitMemory, -waitMemory_spec, -Act.allocation_spec, allocation_ledgers,
    -Act.device_spec, device_ledgers, -Act.lift_spec, lift_ledgers] <;> grind

theorem surfaceOfTensor_ledgers (dv src : Ref) :
    ⦃fun w => ⌜w.ledgerAt = L⌝⦄ surfaceOfTensor dv src ⦃World.LedgersAre L⦄ := by
  have spec1 := @Tensor.handleOf_ledgers
  mvcgen [surfaceOfTensor, -surfaceOfTensor_spec, -Tensor.handleOf_spec,
    spec1, -Device.surfaceOf_spec, Device.surfaceOf_ledgers] <;> clear spec1 <;> grind

theorem importOfTensor_ledgers (dv : Ref) (backend : MemoryKind) (src : Ref) :
    ⦃fun w => ⌜w.ledgerAt = L⌝⦄ importOfTensor dv backend src ⦃World.LedgersAre L⦄ := by
  have spec1 := @Tensor.handleOf_ledgers
  mvcgen [importOfTensor, -importOfTensor_spec, -Tensor.handleOf_spec, spec1,
    -Device.importFd_spec, Device.importFd_ledgers] <;> clear spec1 <;> grind

theorem withParent_ledgers (g src : Ref) :
    ⦃fun w => ⌜w.ledgerAt = L⌝⦄ withParent g src ⦃World.LedgersAre L⦄ := by
  have spec1 := @Frame.setParent_ledgers
  mvcgen [withParent, owning, -withParent_spec, -Act.retain_spec, retain_ledgers,
    -Frame.setParent_spec, spec1, -Act.release_spec, release_ledgers] <;> clear spec1 <;>
    grind

theorem surfaceFrame_ledgers (output s : Ref) :
    ⦃fun w => ⌜w.ledgerAt = L⌝⦄ surfaceFrame output s ⦃World.LedgersAre L⦄ := by
  have hmade (L : Ref → Option Ledger) := @collect_ledgers L (Plane × Nat)
  have spec1 := @TensorSpec.build_ledgers
  have spec2 := @Frame.make_ledgers
  mvcgen [surfaceFrame, keeping, owning, -surfaceFrame_spec, -Act.surface_spec,
    surface_ledgers, -collect_spec, hmade, -Act.lift_spec, lift_ledgers, -Act.retain_spec,
    retain_ledgers, -TensorSpec.build_spec, spec1, -Frame.make_spec,
    spec2, -Act.release_spec, release_ledgers] <;> clear spec1 spec2 <;> grind

theorem perTensor_ledgers (inputKind : MemoryKind) (mapOne : Ref → Act Ref) (src : Ref)
    (hmap : ∀ t L, ⦃fun w => ⌜w.ledgerAt = L⌝⦄ mapOne t ⦃World.LedgersAre L⦄) :
    ⦃fun w => ⌜w.ledgerAt = L⌝⦄ perTensor inputKind mapOne src ⦃World.LedgersAre L⦄ := by
  have hmade (L : Ref → Option Ledger) (ts : List Ref) := @collect_ledgers L _ ts mapOne hmap
  have spec1 := @expectKind_ledgers
  have spec2 := @Frame.make_ledgers
  have spec3 := @withParent_ledgers
  mvcgen [perTensor, -perTensor_spec, -Act.frame_spec, frame_ledgers, -expectKind_spec,
    spec1, -collect_spec, hmade, -Frame.make_spec, spec2,
    -withParent_spec, spec3] <;> clear spec1 spec2 spec3 <;> grind

/-! ## Tensor routes that copy nothing -/

theorem dmaToCpu_ledgers (dv output src : Ref) :
    ⦃fun w => ⌜w.ledgerAt = L⌝⦄ dmaToCpu dv output src ⦃World.LedgersAre L⦄ := by
  have spec1 := @importOfTensor_ledgers
  have spec2 := @mapped_ledgers
  have spec3 := @TensorSpec.build_ledgers
  mvcgen [dmaToCpu, owning, -dmaToCpu_spec, -Act.tensor_spec, tensor_ledgers,
    -importOfTensor_spec, spec1, -Device.call_spec, Device.call_ledgers,
    -Device.pointerAt_spec, Device.pointerAt_ledgers, -Act.release_spec, release_ledgers,
    -mapped_spec, spec2, -TensorSpec.build_spec, spec3] <;> clear spec1 spec2 spec3 <;> grind

theorem vaapiToCpu_ledgers (dv output src : Ref) :
    ⦃fun w => ⌜w.ledgerAt = L⌝⦄ vaapiToCpu dv output src ⦃World.LedgersAre L⦄ := by
  have spec1 := @surfaceOfTensor_ledgers
  have spec2 := @waitMemory_ledgers
  have spec3 := @mapped_ledgers
  have spec4 := @TensorSpec.build_ledgers
  mvcgen [vaapiToCpu, keeping, owning, -vaapiToCpu_spec, -Act.tensor_spec, tensor_ledgers,
    -surfaceOfTensor_spec, spec1, -Act.surface_spec, surface_ledgers,
    -waitMemory_spec, spec2, -Device.call_spec, Device.call_ledgers,
    -Device.pointerAt_spec, Device.pointerAt_ledgers, -Act.retain_spec, retain_ledgers,
    -Act.release_spec, release_ledgers, -mapped_spec, spec3, -TensorSpec.build_spec,
    spec4] <;> clear spec1 spec2 spec3 spec4 <;> grind

theorem exportSurface_ledgers (dv s : Ref) :
    ⦃fun w => ⌜w.ledgerAt = L⌝⦄ exportSurface dv s ⦃World.LedgersAre L⦄ := by
  have spec1 := @waitMemory_ledgers
  mvcgen [exportSurface, -exportSurface_spec, -Act.surface_spec, surface_ledgers,
    -waitMemory_spec, spec1, -Device.call_spec, Device.call_ledgers,
    -Device.exportFd_spec, Device.exportFd_ledgers] <;> clear spec1 <;> grind

theorem dmaTensor_ledgers (output src buf : Ref) (plane : Handle) :
    ⦃fun w => ⌜w.ledgerAt = L⌝⦄ dmaTensor output src buf plane ⦃World.LedgersAre L⦄ := by
  have spec1 := @mapped_ledgers
  have spec2 := @TensorSpec.build_ledgers
  mvcgen [dmaTensor, -dmaTensor_spec, -Act.tensor_spec, tensor_ledgers, -Act.descriptor_spec,
    descriptor_ledgers, -mapped_spec, spec1, -TensorSpec.build_spec,
    spec2] <;> clear spec1 spec2 <;> grind

theorem vaapiToDma_ledgers (dv output src : Ref) :
    ⦃fun w => ⌜w.ledgerAt = L⌝⦄ vaapiToDma dv output src ⦃World.LedgersAre L⦄ := by
  have spec1 := @surfaceOfTensor_ledgers
  have spec2 := @exportSurface_ledgers
  have spec3 := @dmaTensor_ledgers
  mvcgen [vaapiToDma, keeping, owning, -vaapiToDma_spec, -Act.tensor_spec, tensor_ledgers,
    -surfaceOfTensor_spec, spec1, -exportSurface_spec, spec2, -dmaTensor_spec, spec3,
    -Act.release_spec, release_ledgers] <;> clear spec1 spec2 spec3 <;> grind

theorem dmaToVaapi_ledgers (dv output src : Ref) :
    ⦃fun w => ⌜w.ledgerAt = L⌝⦄ dmaToVaapi dv output src ⦃World.LedgersAre L⦄ := by
  have spec1 := @importOfTensor_ledgers
  have spec2 := @mapped_ledgers
  have spec3 := @TensorSpec.build_ledgers
  mvcgen [dmaToVaapi, -dmaToVaapi_spec, -Act.tensor_spec, tensor_ledgers,
    -importOfTensor_spec, spec1, -Device.importSurface_spec,
    Device.importSurface_ledgers, -Act.surface_spec, surface_ledgers, -mapped_spec,
    spec2, -TensorSpec.build_spec, spec3] <;> clear spec1 spec2 spec3 <;> grind

theorem clTensor_ledgers (output src buffer : Ref) :
    ⦃fun w => ⌜w.ledgerAt = L⌝⦄ clTensor output src buffer ⦃World.LedgersAre L⦄ := by
  have spec1 := @mapped_ledgers
  have spec2 := @TensorSpec.build_ledgers
  mvcgen [clTensor, -clTensor_spec, -Act.tensor_spec, tensor_ledgers, -Act.clBuffer_spec,
    clBuffer_ledgers, -mapped_spec, spec1, -TensorSpec.build_spec,
    spec2] <;> clear spec1 spec2 <;> grind

theorem dmaToOpenCl_ledgers (dv output src : Ref) :
    ⦃fun w => ⌜w.ledgerAt = L⌝⦄ dmaToOpenCl dv output src ⦃World.LedgersAre L⦄ := by
  have spec1 := @importOfTensor_ledgers
  have spec2 := @clTensor_ledgers
  mvcgen [dmaToOpenCl, owning, -dmaToOpenCl_spec, -Act.tensor_spec, tensor_ledgers,
    -importOfTensor_spec, spec1, -Device.call_spec, Device.call_ledgers,
    -Act.release_spec, release_ledgers, -Device.clBufferOnAllocation_spec,
    Device.clBufferOnAllocation_ledgers, -clTensor_spec, spec2] <;> clear spec1 spec2 <;> grind

theorem vaapiToOpenCl_ledgers (dv output src : Ref) :
    ⦃fun w => ⌜w.ledgerAt = L⌝⦄ vaapiToOpenCl dv output src ⦃World.LedgersAre L⦄ := by
  have spec1 := @surfaceOfTensor_ledgers
  have spec2 := @clTensor_ledgers
  mvcgen [vaapiToOpenCl, keeping, owning, -vaapiToOpenCl_spec, -Act.tensor_spec,
    tensor_ledgers, -surfaceOfTensor_spec, spec1, -Device.shareSurface_spec,
    Device.shareSurface_ledgers, -clTensor_spec, spec2, -Act.release_spec,
    release_ledgers] <;> clear spec1 spec2 <;> grind

theorem bufferPointer_ledgers (b : ClBuffer) (t : Tensor) :
    ⦃fun w => ⌜w.ledgerAt = L⌝⦄ bufferPointer b t ⦃World.LedgersAre L⦄ := by
  -- the bounds test is a Boolean computed by a match, which `mvcgen` leaves unsplit
  unfold bufferPointer
  dsimp only
  split
  · split <;> mvcgen
  · mvcgen

theorem openClToCpu_ledgers (dv output src : Ref) :
    ⦃fun w => ⌜w.ledgerAt = L⌝⦄ openClToCpu dv output src ⦃World.LedgersAre L⦄ := by
  have spec1 := @Tensor.handleOf_ledgers
  have spec2 := @bufferPointer_ledgers
  have spec3 := @mapped_ledgers
  have spec4 := @TensorSpec.build_ledgers
  mvcgen [openClToCpu, owning, -openClToCpu_spec, -Act.tensor_spec, tensor_ledgers,
    -Tensor.handleOf_spec, spec1, -Device.clBufferOf_spec,
    Device.clBufferOf_ledgers, -Device.call_spec, Device.call_ledgers, -Act.clBuffer_spec,
    clBuffer_ledgers, -bufferPointer_spec, spec2, -Act.release_spec,
    release_ledgers, -mapped_spec, spec3, -TensorSpec.build_spec,
    spec4] <;> clear spec1 spec2 spec3 spec4 <;> grind

theorem cpuToOpenCl_ledgers (dv output src : Ref) :
    ⦃fun w => ⌜w.ledgerAt = L⌝⦄ cpuToOpenCl dv output src ⦃World.LedgersAre L⦄ := by
  have spec1 := @memoryOwner_ledgers
  have spec2 := @clTensor_ledgers
  mvcgen [cpuToOpenCl, -cpuToOpenCl_spec, -Act.tensor_spec, tensor_ledgers, -Act.lift_spec,
    lift_ledgers, -memoryOwner_spec, spec1, -Device.clBufferOnHost_spec,
    Device.clBufferOnHost_ledgers, -clTensor_spec, spec2] <;> clear spec1 spec2 <;> grind

theorem dmaToUsm_ledgers (dv output src : Ref) :
    ⦃fun w => ⌜w.ledgerAt = L⌝⦄ dmaToUsm dv output src ⦃World.LedgersAre L⦄ := by
  have spec1 := @importOfTensor_ledgers
  have spec2 := @mapped_ledgers
  have spec3 := @TensorSpec.build_ledgers
  mvcgen [dmaToUsm, owning, -dmaToUsm_spec, -Act.tensor_spec, tensor_ledgers,
    -importOfTensor_spec, spec1, -Device.call_spec, Device.call_ledgers,
    -Device.pointerAt_spec, Device.pointerAt_ledgers, -Act.release_spec, release_ledgers,
    -mapped_spec, spec2, -TensorSpec.build_spec, spec3] <;> clear spec1 spec2 spec3 <;> grind

theorem usmToCpu_ledgers (dv output src : Ref) :
    ⦃fun w => ⌜w.ledgerAt = L⌝⦄ usmToCpu dv output src ⦃World.LedgersAre L⦄ := by
  have spec1 := @memoryOwner_ledgers
  have spec2 := @mapped_ledgers
  have spec3 := @TensorSpec.build_ledgers
  mvcgen [usmToCpu, -usmToCpu_spec, -Device.synchronize_spec, Device.synchronize_ledgers,
    -Act.tensor_spec, tensor_ledgers, -Act.lift_spec, lift_ledgers, -memoryOwner_spec,
    spec1, -mapped_spec, spec2, -TensorSpec.build_spec,
    spec3] <;> clear spec1 spec2 spec3 <;> grind

theorem cpuToOpenVino_ledgers (output src : Ref) :
    ⦃fun w => ⌜w.ledgerAt = L⌝⦄ cpuToOpenVino output src ⦃World.LedgersAre L⦄ := by
  have spec1 := @runtimeSpec_ledgers
  have spec2 := @memoryOwner_ledgers
  have spec3 := @TensorSpec.build_ledgers
  mvcgen [cpuToOpenVino, -cpuToOpenVino_spec, -Act.tensor_spec, tensor_ledgers,
    -Act.lift_spec, lift_ledgers, -runtimeSpec_spec, spec1, -memoryOwner_spec,
    spec2, -TensorSpec.build_spec, spec3] <;> clear spec1 spec2 spec3 <;> grind

theorem remotePointer_ledgers (device : Option Ref) (src : Ref) :
    ⦃fun w => ⌜w.ledgerAt = L⌝⦄ remotePointer device src ⦃World.LedgersAre L⦄ := by
  have spec1 := @bufferPointer_ledgers
  have spec2 := @surfaceOfTensor_ledgers
  have spec3 := @waitMemory_ledgers
  mvcgen [remotePointer, keeping, owning, -remotePointer_spec, -Act.tensor_spec,
    tensor_ledgers, -Device.clBufferOf_spec, Device.clBufferOf_ledgers, -Device.call_spec,
    Device.call_ledgers, -Act.clBuffer_spec, clBuffer_ledgers, -bufferPointer_spec,
    spec1, -surfaceOfTensor_spec, spec2, -Act.surface_spec,
    surface_ledgers, -waitMemory_spec, spec3, -Device.pointerAt_spec,
    Device.pointerAt_ledgers, -Act.retain_spec, retain_ledgers, -Act.release_spec,
    release_ledgers] <;> clear spec1 spec2 spec3 <;> grind

theorem openVinoToCpu_ledgers (device : Option Ref) (output src : Ref) :
    ⦃fun w => ⌜w.ledgerAt = L⌝⦄ openVinoToCpu device output src ⦃World.LedgersAre L⦄ := by
  have spec1 := @memoryOwner_ledgers
  have spec2 := @remotePointer_ledgers
  have spec3 := @mapped_ledgers
  have spec4 := @TensorSpec.build_ledgers
  mvcgen [openVinoToCpu, -openVinoToCpu_spec, -Act.tensor_spec, tensor_ledgers,
    -memoryOwner_spec, spec1, -remotePointer_spec, spec2,
    -mapped_spec, spec3, -TensorSpec.build_spec, spec4] <;> clear spec1 spec2 spec3 spec4 <;> grind

theorem openClToOpenVino_ledgers (dv output src : Ref) :
    ⦃fun w => ⌜w.ledgerAt = L⌝⦄ openClToOpenVino dv output src ⦃World.LedgersAre L⦄ := by
  have spec1 := @Tensor.handleOf_ledgers
  have spec2 := @runtimeSpec_ledgers
  have spec3 := @TensorSpec.build_ledgers
  mvcgen [openClToOpenVino, -openClToOpenVino_spec, -Act.tensor_spec, tensor_ledgers,
    -Tensor.handleOf_spec, spec1, -Device.clBufferOf_spec,
    Device.clBufferOf_ledgers, -runtimeSpec_spec, spec2, -TensorSpec.build_spec,
    spec3] <;> clear spec1 spec2 spec3 <;> grind

theorem vaapiToOpenVino_ledgers (dv output src : Ref) :
    ⦃fun w => ⌜w.ledgerAt = L⌝⦄ vaapiToOpenVino dv output src ⦃World.LedgersAre L⦄ := by
  have spec1 := @Tensor.handleOf_ledgers
  have spec2 := @runtimeSpec_ledgers
  have spec3 := @TensorSpec.build_ledgers
  mvcgen [vaapiToOpenVino, -vaapiToOpenVino_spec, -Act.tensor_spec, tensor_ledgers,
    -Tensor.handleOf_spec, spec1, -Device.surfaceOf_spec,
    Device.surfaceOf_ledgers, -runtimeSpec_spec, spec2, -TensorSpec.build_spec,
    spec3] <;> clear spec1 spec2 spec3 <;> grind

/-! ## Frame routes that copy nothing -/

theorem singleSurface_ledgers (dv src : Ref) :
    ⦃fun w => ⌜w.ledgerAt = L⌝⦄ singleSurface dv src ⦃World.LedgersAre L⦄ := by
  have spec1 := @Frame.tensorAt_ledgers
  have spec2 := @Tensor.handleOf_ledgers
  mvcgen [singleSurface, -singleSurface_spec, -Act.frame_spec, frame_ledgers,
    -Frame.tensorAt_spec, spec1, -Tensor.handleOf_spec, spec2,
    -Device.surfaceOf_spec, Device.surfaceOf_ledgers] <;> clear spec1 spec2
  case inv1 => exact World.LedgersAre L
  all_goals grind

theorem vaapiToDmaFrame_ledgers (dv output src s : Ref) :
    ⦃fun w => ⌜w.ledgerAt = L⌝⦄ vaapiToDmaFrame dv output src s ⦃World.LedgersAre L⦄ := by
  have hmade (L : Ref → Option Ledger) := @collect_ledgers L (Ref × Nat)
  have spec1 := @exportSurface_ledgers
  have spec2 := @dmaTensor_ledgers
  have spec3 := @Frame.make_ledgers
  have spec4 := @withParent_ledgers
  mvcgen [vaapiToDmaFrame, keeping, owning, -vaapiToDmaFrame_spec, -Act.frame_spec,
    frame_ledgers, -exportSurface_spec, spec1, -collect_spec, hmade,
    -Act.tensor_spec, tensor_ledgers, -Act.retain_spec, retain_ledgers, -dmaTensor_spec,
    spec2, -Frame.make_spec, spec3, -withParent_spec,
    spec4, -Act.release_spec, release_ledgers] <;> clear spec1 spec2 spec3 spec4 <;> grind

theorem dmaToVaapiFrame_ledgers (dv output src : Ref) (mapOne : Ref → Act Ref)
    (hmap : ∀ t L, ⦃fun w => ⌜w.ledgerAt = L⌝⦄ mapOne t ⦃World.LedgersAre L⦄) :
    ⦃fun w => ⌜w.ledgerAt = L⌝⦄ dmaToVaapiFrame dv output src mapOne ⦃World.LedgersAre L⦄ := by
  have hper (L : Ref → Option Ledger) := @perTensor_ledgers L .dma mapOne src hmap
  have spec1 := @Frame.tensorAt_ledgers
  have spec2 := @Tensor.handleOf_ledgers
  have spec3 := @surfaceFrame_ledgers
  have spec4 := @withParent_ledgers
  mvcgen [dmaToVaapiFrame, -dmaToVaapiFrame_spec, -Act.frame_spec, frame_ledgers,
    -Frame.tensorAt_spec, spec1, -Tensor.handleOf_spec, spec2,
    -Act.tensor_spec, tensor_ledgers, -perTensor_spec, hper, -Act.lift_spec, lift_ledgers,
    -Device.importFd_spec, Device.importFd_ledgers, -Device.importSurface_spec,
    Device.importSurface_ledgers, -surfaceFrame_spec, spec3, -withParent_spec,
    spec4] <;> clear spec1 spec2 spec3 spec4
  case inv1 => exact World.LedgersAre L
  case inv2 => exact World.LedgersAre L
  all_goals grind

theorem cpuToOpenVinoImage_ledgers (output src : Ref) :
    ⦃fun w => ⌜w.ledgerAt = L⌝⦄ cpuToOpenVinoImage output src ⦃World.LedgersAre L⦄ := by
  have spec1 := @Frame.tensorAt_ledgers
  have spec2 := @runtimeSpec_ledgers
  have spec3 := @memoryOwner_ledgers
  have spec4 := @TensorSpec.build_ledgers
  have spec5 := @Frame.make_ledgers
  have spec6 := @withParent_ledgers
  mvcgen [cpuToOpenVinoImage, -cpuToOpenVinoImage_spec, -Act.frame_spec, frame_ledgers,
    -Frame.tensorAt_spec, spec1, -Act.tensor_spec, tensor_ledgers,
    -Act.lift_spec, lift_ledgers, -runtimeSpec_spec, spec2, -memoryOwner_spec,
    spec3, -TensorSpec.build_spec, spec4, -Frame.make_spec,
    spec5, -withParent_spec, spec6] <;> clear spec1 spec2 spec3 spec4 spec5 spec6 <;> grind

/-! ## Uploads

The two routes that copy count their copies along the upload path; every other step of theirs
keeps the ledgers. -/

theorem recordUpload_copies (dv : Ref) (bytes : Nat) :
    ⦃fun w => ⌜w.ledgerAt = L⌝⦄ Device.recordCopy dv "cpu_to_vaapi" .cpu .vaapi bytes
    ⦃World.UploadsOnly L⦄ := by
  apply triple_of_run
  rintro w rfl
  -- the two relations are one, read on worlds and on their ledgers
  exact of_triple (@Device.recordCopy_copies w dv "cpu_to_vaapi" .cpu .vaapi bytes) rfl

theorem recordUpload_counts (dv : Ref) (bytes : Nat) :
    ⦃fun w => ⌜w.ledgerAt = L⌝⦄ Device.recordCopy dv "cpu_to_vaapi" .cpu .vaapi bytes
    ⦃post⟨fun _ w => ⌜∃ l l', L dv = some l ∧ w.ledgerAt dv = some l' ∧
        l.CountsOne CopyPath.upload bytes l'⌝, fun _ _ => ⌜True⌝⟩⦄ := by
  apply triple_of_run
  rintro w rfl
  by_cases hd : ∃ d, w.bodyAt dv = some (.device d)
  · obtain ⟨d, hd⟩ := hd
    rw [Device.run_recordCopy hd]
    cases hr : (d.copies.record ⟨"cpu_to_vaapi", .cpu, .vaapi⟩ bytes).1 with
    | ok l' =>
      exact ⟨d.copies, l', ledgerAt_of_bodyAt hd, by simp [ledgerAt_setDevice hd],
        Ledger.countsOne_of_record hr⟩
    | error e => trivial
  · -- without a device the read fails, and nothing is counted
    have hread := of_triple (@device_reads w dv) rfl
    simp only [Device.recordCopy, EStateM.run_bind]
    split at hread
    · next d _ hrun => exact absurd ⟨d, hread.2⟩ hd
    · next hrun =>
      rw [hrun]
      trivial

theorem cpuToVaapi_counts {w₀ : World} (dv output src : Ref) :
    ⦃fun w => ⌜w = w₀⌝⦄ cpuToVaapi dv output src
    ⦃post⟨fun _ w => ⌜∃ bytes l l', (Tensor.readBytes src).run w₀ = .ok bytes w₀ ∧
        w₀.ledgerAt dv = some l ∧ w.ledgerAt dv = some l' ∧
        l.CountsOne CopyPath.upload bytes.size l'⌝, fun _ _ => ⌜True⌝⟩⦄ := by
  have spec1 := @Tensor.readBytes_reads
  have spec2 := @Tensor.writeAt_ledgers
  have spec3 := @recordUpload_counts
  have spec4 := @mapped_ledgers
  have spec5 := @TensorSpec.build_ledgers
  mvcgen [cpuToVaapi, owning, -cpuToVaapi_spec, -Act.tensor_spec, tensor_reads,
    -Tensor.readBytes_spec, spec1, -Device.createLinearSurface_spec,
    Device.createLinearSurface_ledgers, -Act.lift_spec, lift_ledgers, -Act.allocation_spec,
    allocation_ledgers, -Act.surface_spec, surface_ledgers, -Tensor.writeAt_spec,
    spec2, -Device.recordCopy_spec, spec3, -Act.release_spec,
    release_ledgers, -mapped_spec, spec4, -TensorSpec.build_spec,
    spec5]
  clear spec1 spec2 spec3 spec4 spec5
  simp_all

theorem cpuToVaapi_uploads (dv output src : Ref) :
    ⦃fun w => ⌜w.ledgerAt = L⌝⦄ cpuToVaapi dv output src ⦃World.UploadsOnly L⦄ := by
  have spec1 := @Tensor.readBytes_ledgers
  have spec2 := @Tensor.writeAt_ledgers
  have spec3 := @recordUpload_copies
  have spec4 := @mapped_ledgers
  have spec5 := @TensorSpec.build_ledgers
  mvcgen [cpuToVaapi, owning, -cpuToVaapi_spec, -Act.tensor_spec, tensor_ledgers,
    -Tensor.readBytes_spec, spec1, -Device.createLinearSurface_spec,
    Device.createLinearSurface_ledgers, -Act.lift_spec, lift_ledgers, -Act.allocation_spec,
    allocation_ledgers, -Act.surface_spec, surface_ledgers, -Tensor.writeAt_spec,
    spec2, -Device.recordCopy_spec, spec3, -Act.release_spec,
    release_ledgers, -mapped_spec, spec4, -TensorSpec.build_spec,
    spec5] <;> clear spec1 spec2 spec3 spec4 spec5 <;> grind

theorem cpuToVaapiFrame_uploads (dv output src : Ref) (fmt : ImageFormat) :
    ⦃fun w => ⌜w.ledgerAt = L⌝⦄ cpuToVaapiFrame dv output src fmt ⦃World.UploadsOnly L⦄ := by
  have spec1 := @owning_uploads
  have spec2 := @Frame.tensorAt_ledgers
  have spec3 := @Tensor.readBytes_ledgers
  have spec4 := @Tensor.writeAt_ledgers
  have spec5 := @recordUpload_copies
  have spec6 := @surfaceFrame_ledgers
  have spec7 := @withParent_ledgers
  mvcgen [cpuToVaapiFrame, spec1, -cpuToVaapiFrame_spec, -Act.frame_spec, frame_ledgers,
    -Frame.tensorAt_spec, spec2, -Act.tensor_spec, tensor_ledgers,
    -Act.lift_spec, lift_ledgers, -Device.createSurface_spec, Device.createSurface_ledgers,
    -Act.surface_spec, surface_ledgers, -Tensor.readBytes_spec, spec3,
    -Device.pointerAt_spec, Device.pointerAt_ledgers, -Tensor.writeAt_spec,
    spec4, -Device.recordCopy_spec, spec5, -Act.release_spec,
    release_ledgers, -surfaceFrame_spec, spec6, -withParent_spec,
    spec7] <;> clear spec1 spec2 spec3 spec4 spec5 spec6 spec7
  -- the planes are written with the ledgers the surface was made with
  case inv1 =>
    rename_i L₂ _ _ _ _ _
    exact post⟨fun _ w => ⌜w.ledgerAt = L₂⌝,
      fun _ w => ⌜World.LedgersAlong (· = CopyPath.upload) L₂ w.ledgerAt⌝⟩
  all_goals grind

theorem createSurface_lays_planes {w₁ : World} (dv : Ref) (fmt : ImageFormat) (W H : Nat) :
    ⦃fun w => ⌜w = w₁⌝⦄ Device.createSurface dv fmt W H
    ⦃post⟨fun s w => ⌜w.ledgerAt = w₁.ledgerAt ∧ ∃ d sf size, w₁.bodyAt dv = some (.device d) ∧
        w.bodyAt s = some (.surface sf) ∧
        Device.planesOf fmt W H d.config.pitchAlignment = .ok (sf.planes, size)⌝,
      fun _ w => ⌜w.ledgerAt = w₁.ledgerAt⌝⟩⦄ := by
  apply triple_of_run
  rintro w rfl
  have hl := of_triple (@Device.createSurface_ledgers w.ledgerAt dv fmt W H) rfl
  cases hrun : (Device.createSurface dv fmt W H).run w with
  | ok s w' =>
    rw [hrun] at hl
    -- a surface is made only on a device
    obtain ⟨d, hd⟩ : ∃ d, w.bodyAt dv = some (.device d) := by
      obtain ⟨u, w₂, hcall, -⟩ := bind_ok hrun
      obtain ⟨d, w₃, hdev, -⟩ := bind_ok hcall
      have hread := of_triple (device_reads dv) (rfl : w = w)
      rw [hdev] at hread
      exact ⟨d, hread.2⟩
    obtain ⟨-, sf, a, hs, -, -, -, -, -, hplanes⟩ := Device.createSurface_run_ok hd hrun
    exact ⟨hl, d, sf, a.buffer.len, hd, hs, hplanes⟩
  | error e w' =>
    rw [hrun] at hl
    exact hl

/-- An upload of a frame that succeeds counts, on its device, one more copy along the upload
path, of the element bytes of every plane it fills: the planes of the format at the size of the
frame's first tensor, one for each tensor of the frame. -/
theorem cpuToVaapiFrame_counts {w₀ : World} (dv output src : Ref) (fmt : ImageFormat) :
    ⦃fun w => ⌜w = w₀⌝⦄ cpuToVaapiFrame dv output src fmt
    ⦃post⟨fun _ w => ⌜∃ planes n l l', w₀.uploadPlanes dv src fmt = some planes ∧
        Plane.TotalBytes planes n ∧ w₀.ledgerAt dv = some l ∧ w.ledgerAt dv = some l' ∧
        l.CountsOne CopyPath.upload n l'⌝, fun _ _ => ⌜True⌝⟩⦄ := by
  mvcgen [cpuToVaapiFrame, owning, -cpuToVaapiFrame_spec, -Act.frame_spec, frame_reads,
    -Frame.tensorAt_spec, Frame.tensorAt_finds, -Act.tensor_spec, tensor_reads,
    -Act.lift_spec, lift, -Device.createSurface_spec, createSurface_lays_planes,
    -Act.surface_spec, surface_reads, -Tensor.readBytes_spec, Tensor.readBytes_ledgers,
    -Device.pointerAt_spec, Device.pointerAt_ledgers, -Tensor.writeAt_spec,
    Tensor.writeAt_ledgers, -Device.recordCopy_spec, recordUpload_counts, -Act.release_spec,
    release_ledgers, -surfaceFrame_spec, surfaceFrame_ledgers, -withParent_spec,
    withParent_ledgers]
  -- the planes written so far (the cursor's first field) are counted, and the ledgers are as
  -- the surface left them
  case inv1 =>
    exact post⟨fun p w => ⌜w.ledgerAt = w₀.ledgerAt ∧ Plane.TotalBytes p.1.1 p.2⌝,
      fun _ _ => ⌜True⌝⟩
  all_goals simp_all [Plane.TotalBytes.nil]
  · -- a plane written adds its element bytes to the count
    have := Plane.TotalBytes.concat (‹_ ∧ Plane.TotalBytes _ _›).2 ‹_› ‹_›
    simp_all +zetaDelta
  · -- the planes written are the format's planes at the size of the first tensor
    rename_i hsrc h0 ht hluma hdev _ hloop hcount _
    obtain ⟨-, d, hd, size, hplanes⟩ := hdev
    obtain ⟨l, hl, l', hl', hc⟩ := hcount
    exact fun _ => ⟨_, World.uploadPlanes_of hsrc.2 h0.2 ht.2 hluma hd hplanes, _, hloop.2, l, hl,
      l', hl', hc⟩
  · -- a failure lets the surface go, and whatever that does is allowed
    exact ⟨fun _ => release_any _, trivial⟩

theorem perTensor_uploads (inputKind : MemoryKind) (mapOne : Ref → Act Ref) (src : Ref)
    (hmap : ∀ t L, ⦃fun w => ⌜w.ledgerAt = L⌝⦄ mapOne t ⦃World.UploadsOnly L⦄) :
    ⦃fun w => ⌜w.ledgerAt = L⌝⦄ perTensor inputKind mapOne src ⦃World.UploadsOnly L⦄ := by
  have hmade (L : Ref → Option Ledger) (ts : List Ref) := @collect_uploads L _ ts mapOne hmap
  have spec1 := @expectKind_ledgers
  have spec2 := @Frame.make_ledgers
  have spec3 := @withParent_ledgers
  mvcgen [perTensor, -perTensor_spec, -Act.frame_spec, frame_ledgers, -expectKind_spec,
    spec1, -collect_spec, hmade, -Frame.make_spec, spec2,
    -withParent_spec, spec3] <;> clear spec1 spec2 spec3 <;> grind

/-! ## Routes -/

theorem routeTensor_ledgers (route : Route) (input output : Ref) (device : Option Ref)
    (src : Ref) (hr : route ≠ .cpuToVaapi) :
    ⦃fun w => ⌜w.ledgerAt = L⌝⦄ routeTensor route input output device src
    ⦃World.LedgersAre L⦄ := by
  cases route <;> simp only [ne_eq, not_true_eq_false] at hr <;>
    mvcgen [routeTensor, -routeTensor_spec, -Context.kindOf_spec, Context.kindOf_reads,
      -Act.tensor_spec, tensor_ledgers, -expectKind_spec, expectKind_ledgers, -Act.broken_spec,
      broken_ledgers, -dmaToCpu_spec, dmaToCpu_ledgers, -vaapiToCpu_spec, vaapiToCpu_ledgers,
      -vaapiToDma_spec, vaapiToDma_ledgers, -dmaToVaapi_spec, dmaToVaapi_ledgers,
      -dmaToOpenCl_spec, dmaToOpenCl_ledgers, -vaapiToOpenCl_spec, vaapiToOpenCl_ledgers,
      -openClToCpu_spec, openClToCpu_ledgers, -cpuToOpenCl_spec, cpuToOpenCl_ledgers,
      -dmaToUsm_spec, dmaToUsm_ledgers, -usmToCpu_spec, usmToCpu_ledgers, -cpuToOpenVino_spec,
      cpuToOpenVino_ledgers, -openVinoToCpu_spec, openVinoToCpu_ledgers,
      -openClToOpenVino_spec, openClToOpenVino_ledgers, -vaapiToOpenVino_spec,
      vaapiToOpenVino_ledgers] <;> grind

theorem routeTensor_uploads (route : Route) (input output : Ref) (device : Option Ref)
    (src : Ref) :
    ⦃fun w => ⌜w.ledgerAt = L⌝⦄ routeTensor route input output device src
    ⦃World.UploadsOnly L⦄ := by
  by_cases hr : route = .cpuToVaapi
  · subst hr
    have spec1 := @expectKind_ledgers
    have spec2 := @cpuToVaapi_uploads
    mvcgen [routeTensor, -routeTensor_spec, -Context.kindOf_spec, Context.kindOf_reads,
      -Act.tensor_spec, tensor_ledgers, -expectKind_spec, spec1, -Act.broken_spec,
      broken_ledgers, -cpuToVaapi_spec, spec2] <;> clear spec1 spec2 <;> grind
  · exact uploads_of_ledgers fun _ => routeTensor_ledgers route input output device src hr

theorem routeFrame_ledgers (route : Route) (input output : Ref) (device : Option Ref)
    (src : Ref) (hr : route ≠ .cpuToVaapi) :
    ⦃fun w => ⌜w.ledgerAt = L⌝⦄ routeFrame route input output device src
    ⦃World.LedgersAre L⦄ := by
  have hone (t : Ref) (L : Ref → Option Ledger) :=
    routeTensor_ledgers (L := L) route input output device t hr
  have hper (ik : MemoryKind) (L : Ref → Option Ledger) := @perTensor_ledgers L ik _ src hone
  have hdv (dv : Ref) (L : Ref → Option Ledger) := @dmaToVaapiFrame_ledgers L dv output src _ hone
  cases route <;> simp only [ne_eq, not_true_eq_false] at hr <;>
    mvcgen -trivial [routeFrame, -routeFrame_spec, -Context.kindOf_spec, Context.kindOf_reads,
      -Act.frame_spec, frame_ledgers, -expectKind_spec, expectKind_ledgers, -Act.broken_spec,
      broken_ledgers, -perTensor_spec, hper, -dmaToVaapiFrame_spec, hdv, -singleSurface_spec,
      singleSurface_ledgers, -vaapiToDmaFrame_spec, vaapiToDmaFrame_ledgers,
      -cpuToOpenVinoImage_spec, cpuToOpenVinoImage_ledgers] <;> grind

theorem routeFrame_uploads (route : Route) (input output : Ref) (device : Option Ref)
    (src : Ref) :
    ⦃fun w => ⌜w.ledgerAt = L⌝⦄ routeFrame route input output device src
    ⦃World.UploadsOnly L⦄ := by
  by_cases hr : route = .cpuToVaapi
  · subst hr
    have hone (t : Ref) (L : Ref → Option Ledger) :=
      routeTensor_uploads (L := L) .cpuToVaapi input output device t
    have hper (ik : MemoryKind) (L : Ref → Option Ledger) := @perTensor_uploads L ik _ src hone
    mvcgen -trivial [routeFrame, -routeFrame_spec, -Context.kindOf_spec, Context.kindOf_reads,
      -Act.frame_spec, frame_ledgers, -expectKind_spec, expectKind_ledgers, -Act.broken_spec,
      broken_ledgers, -perTensor_spec, hper, -cpuToVaapiFrame_spec, cpuToVaapiFrame_uploads] <;>
      grind
  · exact uploads_of_ledgers fun _ => routeFrame_ledgers route input output device src hr

/-! ## Caches and chains -/

theorem setCache_ledgers (m : Ref) (c : Cache) :
    ⦃fun w => ⌜w.ledgerAt = L ∧ ∃ c₀, w.bodyAt m = some (.mapper (.cache c₀))⌝⦄ setCache m c
    ⦃World.LedgersAre L⦄ := by
  mvcgen [setCache, -setCache_spec, setBody_ledgers]
  grind [Body.variant]

theorem reissueTensor_ledgers (m : Ref) (c : Cache) (v : Ref) (h : Handle) :
    ⦃fun w => ⌜w.ledgerAt = L⌝⦄ reissueTensor m c v h ⦃World.LedgersAre L⦄ := by
  have spec1 := @Tensor.setParent_ledgers
  have spec2 := @setCache_ledgers
  mvcgen [reissueTensor, -checkReissue_spec, checkReissue_reads, -Tensor.clearParent_spec,
    Tensor.clearParent, -Tensor.setParent_spec, spec1, -cacheOf_spec, cacheOf_reads, -setCache_spec,
    spec2, -Act.retain_spec, retain_ledgers] <;> clear spec1 spec2 <;> grind

theorem reissueFrame_ledgers (m : Ref) (c : Cache) (v : Ref) (h : Handle) :
    ⦃fun w => ⌜w.ledgerAt = L⌝⦄ reissueFrame m c v h ⦃World.LedgersAre L⦄ := by
  have spec1 := @Frame.clearMetadata_ledgers
  have spec2 := @Frame.clearRegions_ledgers
  have spec3 := @Frame.setParent_ledgers
  have spec4 := @setCache_ledgers
  mvcgen [reissueFrame, -checkReissue_spec, checkReissue_reads, -Frame.clearMetadata_spec,
    spec1, -Frame.clearRegions_spec, spec2,
    -Frame.clearParent_spec, Frame.clearParent, -Frame.setParent_spec, spec3,
    -cacheOf_spec, cacheOf_reads, -setCache_spec, spec4, -Act.retain_spec,
    retain_ledgers] <;> clear spec1 spec2 spec3 spec4 <;> grind

theorem chainTensor_uploads (fuel : Nat)
    (hrun : ∀ l src mode L, ⦃fun w => ⌜w.ledgerAt = L⌝⦄ tensorWith fuel l src mode
      ⦃World.UploadsOnly L⦄)
    (links : List Ref) (cur : Ref) (mode : AccessMode) :
    ⦃fun w => ⌜World.LedgersAlong (· = CopyPath.upload) L w.ledgerAt⌝⦄
    chainTensor fuel links cur mode ⦃World.UploadsOnly L⦄ := by
  induction links generalizing cur with
  | nil => mvcgen [chainTensor]
  | cons l rest ih =>
    mvcgen [chainTensor, keeping, owning, hrun, ih, -Act.release_spec, release_ledgers] <;> grind

theorem tensorWith_uploads (fuel : Nat) : ∀ (m src : Ref) (mode : AccessMode) (L),
    ⦃fun w => ⌜w.ledgerAt = L⌝⦄ tensorWith fuel m src mode ⦃World.UploadsOnly L⦄ := by
  -- a cache runs its inner mapper within the same fuel, a chain its links
  induction fuel with
  | zero => intro m src mode L; mvcgen [tensorWith, -Act.broken_spec, broken_ledgers] <;> grind
  | succ fuel ih =>
    intro m src mode L
    have hchain (L) (links cur) := @chainTensor_uploads L fuel ih links cur mode
    have spec1 := @routeTensor_uploads
    have spec2 := @Tensor.handleOf_reads
    have spec3 := @setCache_ledgers
    have spec4 := @reissueTensor_ledgers
    have spec5 := @Tensor.setParent_ledgers
    mvcgen [tensorWith, -Act.mapper_spec, mapper_reads, -Act.retain_spec, retain_ledgers,
      -routeTensor_spec, spec1, hchain, -Tensor.handleOf_spec,
      spec2, -setCache_spec, spec3, spec4, ih,
      -Tensor.clearParent_spec, Tensor.clearParent, -Tensor.setParent_spec,
      spec5, -cacheOf_spec, cacheOf_reads] <;> clear spec1 spec2 spec3 spec4 spec5 <;> grind

theorem chainFrame_uploads (fuel : Nat)
    (hrun : ∀ l src mode L, ⦃fun w => ⌜w.ledgerAt = L⌝⦄ frameWith fuel l src mode
      ⦃World.UploadsOnly L⦄)
    (links : List Ref) (cur : Ref) (mode : AccessMode) :
    ⦃fun w => ⌜World.LedgersAlong (· = CopyPath.upload) L w.ledgerAt⌝⦄
    chainFrame fuel links cur mode ⦃World.UploadsOnly L⦄ := by
  induction links generalizing cur with
  | nil => mvcgen [chainFrame]
  | cons l rest ih =>
    mvcgen [chainFrame, keeping, owning, hrun, ih, -Act.release_spec, release_ledgers] <;> grind

theorem frameWith_uploads (fuel : Nat) : ∀ (m src : Ref) (mode : AccessMode) (L),
    ⦃fun w => ⌜w.ledgerAt = L⌝⦄ frameWith fuel m src mode ⦃World.UploadsOnly L⦄ := by
  induction fuel with
  | zero => intro m src mode L; mvcgen [frameWith, -Act.broken_spec, broken_ledgers] <;> grind
  | succ fuel ih =>
    intro m src mode L
    have hchain (L) (links cur) := @chainFrame_uploads L fuel ih links cur mode
    have spec1 := @routeFrame_uploads
    have spec2 := @Frame.tensorAt_reads
    have spec3 := @Tensor.handleOf_reads
    have spec4 := @setCache_ledgers
    have spec5 := @reissueFrame_ledgers
    have spec6 := @Frame.setParent_ledgers
    have spec7 := @Tensor.setParent_ledgers
    mvcgen [frameWith, -Act.mapper_spec, mapper_reads, -Act.retain_spec, retain_ledgers,
      -routeFrame_spec, spec1, hchain, -Frame.tensorAt_spec, spec2,
      -Tensor.handleOf_spec, spec3, -setCache_spec, spec4,
      spec5, ih, -Frame.clearParent_spec, Frame.clearParent,
      -Frame.setParent_spec, spec6, -Act.frame_spec, frame_ledgers,
      -Tensor.clearParent_spec, Tensor.clearParent, -Tensor.setParent_spec,
      spec7, -cacheOf_spec, cacheOf_reads] <;> clear spec1 spec2 spec3 spec4 spec5 spec6 spec7
    -- clearing the parents of the tensors keeps the ledgers the inner mapper left
    case inv1 => exact World.UploadsOnly L
    all_goals grind

theorem mapTensor_uploads (m src : Ref) (mode : AccessMode) :
    ⦃fun w => ⌜w.ledgerAt = L⌝⦄ mapTensor m src mode ⦃World.UploadsOnly L⦄ := by
  have spec1 := @tensorWith_uploads
  mvcgen [mapTensor, -depth_spec, depth, spec1]

theorem mapFrame_uploads (m src : Ref) (mode : AccessMode) :
    ⦃fun w => ⌜w.ledgerAt = L⌝⦄ mapFrame m src mode ⦃World.UploadsOnly L⦄ := by
  have spec1 := @frameWith_uploads
  mvcgen [mapFrame, -depth_spec, depth, spec1]

/-! ## The ledgers count uploads -/

/-- The copy ledgers count uploads alone. Mapping a tensor or a frame with any mapper, direct,
chained or cached, from any world, whether it succeeds or fails, changes the ledgers along the
upload path alone; a direct route other than the upload changes no ledger at all; an upload of a
tensor that succeeds counts one more copy on its device, of as many bytes as the tensor's
elements hold; and an upload of a frame that succeeds counts one more copy, of the element bytes
of every plane it fills. -/
theorem copy_ledgers_count_uploads (w : World) (m src : Ref) (mode : AccessMode) :
    World.LedgersAlong (· = CopyPath.upload) w.ledgerAt ((mapTensor m src mode).after w).ledgerAt ∧
    World.LedgersAlong (· = CopyPath.upload) w.ledgerAt ((mapFrame m src mode).after w).ledgerAt ∧
    (∀ route input output device, route ≠ .cpuToVaapi →
      ((routeTensor route input output device src).after w).ledgerAt = w.ledgerAt ∧
      ((routeFrame route input output device src).after w).ledgerAt = w.ledgerAt) ∧
    (∀ dv output, match (cpuToVaapi dv output src).run w with
      | .ok _ w' => ∃ bytes l l', (Tensor.readBytes src).run w = .ok bytes w ∧
          w.ledgerAt dv = some l ∧ w'.ledgerAt dv = some l' ∧
          l.CountsOne CopyPath.upload bytes.size l'
      | .error _ _ => True) ∧
    ∀ dv output fmt, match (cpuToVaapiFrame dv output src fmt).run w with
      | .ok _ w' => ∃ planes n l l', w.uploadPlanes dv src fmt = some planes ∧
          Plane.TotalBytes planes n ∧ w.ledgerAt dv = some l ∧ w'.ledgerAt dv = some l' ∧
          l.CountsOne CopyPath.upload n l'
      | .error _ _ => True :=
  ⟨after_uploads (fun _ => mapTensor_uploads m src mode) w,
    after_uploads (fun _ => mapFrame_uploads m src mode) w,
    fun route input output device hr =>
      ⟨after_ledgers (fun _ => routeTensor_ledgers route input output device src hr) w,
        after_ledgers (fun _ => routeFrame_ledgers route input output device src hr) w⟩,
    fun dv output => by
      have h := of_triple (@cpuToVaapi_counts w dv output src) rfl
      split
      · next hrun => rwa [hrun] at h
      · trivial,
    fun dv output fmt => by
      have h := of_triple (@cpuToVaapiFrame_counts w dv output src fmt) rfl
      split
      · next hrun => rwa [hrun] at h
      · trivial⟩

def uploadDevice : Device := { serial := 1, config := {}, allocator := 0 }

/-- An NV12 frame on the CPU whose chroma plane has 3 bytes where a 2 × 2 image has 2, and a
mapper uploading from the CPU context into the device's VA-API context: the device at 0, the
contexts at 1 and 2, the mapper at 3, the luma plane, holding 1, 2, 3, 4, at 4, the chroma
plane at 5 and the frame at 6. -/
def unevenPlanesWorld : World where
  nodes := #[⟨1, .device uploadDevice⟩, ⟨1, .context ⟨0, none, .plain .cpu, []⟩⟩,
    ⟨1, .context ⟨1, none, .vaapi 0 16, []⟩⟩, ⟨1, .mapper (.direct .cpuToVaapi 1 2 (some 0))⟩,
    ⟨1, .tensor
      { kind := .cpu, layout := ⟨[2, 2], [2, 1], .uint8⟩, primary := "data", host := some ⟨0, 0⟩ }⟩,
    ⟨1, .tensor
      { kind := .cpu, layout := ⟨[3], [1], .uint8⟩, primary := "data", host := some ⟨1, 0⟩ }⟩,
    ⟨1, .frame { media := .image, format := ImageFormat.nv12.code, kind := .cpu, tensors := [4, 5] }⟩]
  allocators := #[some {}]
  heap := ⟨#[⟨#[1, 2, 3, 4]⟩, ByteArray.empty]⟩

theorem download_keeps_ledgers :
    ((routeFrame .vaapiToCpu 2 1 (some 0) 6).after unevenPlanesWorld).ledgerAt =
      unevenPlanesWorld.ledgerAt :=
  after_ledgers (fun _ => routeFrame_ledgers .vaapiToCpu 2 1 (some 0) 6 (by decide)) _

/-- The upload of the uneven frame writes the luma plane into the new surface, its two rows at
the surface's pitch of 64 bytes, then refuses the chroma plane, and counts nothing: the device's
ledger stays empty though 4 bytes went into the surface. -/
theorem uneven_frame_upload_uncounted :
    (match (mapFrame 3 6 .read).run unevenPlanesWorld with
      | .error (.invalidArgument msg) w' =>
        some (msg, (w'.ledgerAt 0).map Ledger.isEmpty, (w'.heap.read 2 0 2).toList,
          (w'.heap.read 2 64 2).toList)
      | _ => none) =
      some ("NV12 plane of 3 bytes does not fit a 2x2 surface", some true, [1, 2], [3, 4]) := by
  rw [run_mapFrame, frameWith_direct _ rfl]
  decide +kernel

end Mapper

end MemBridge
