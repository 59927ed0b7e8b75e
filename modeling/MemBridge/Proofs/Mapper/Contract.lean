import MemBridge.Proofs.Mapper.Routes
import MemBridge.Proofs.Mapper.Cache
import MemBridge.Proofs.Context.History

/-!
The mapper contract of direct mappers, and where a cache breaks it.

A direct mapper checks its source before anything else: a tensor or a frame of another memory
kind than its input context's is refused with a type mismatch, and the world is left as it was,
so no native call is made (`routeTensor_mismatch`, `routeFrame_mismatch`). What it maps is a new
tensor of the route's output kind, holding the output context, whose parent is the source; a
frame alike, tensor by tensor (`routeTensor_maps`, `routeFrame_maps`). Main statement:
`direct_mapper_contract`.

A cache answers a filled slot from its table, keyed by the source's primary handle and the
access mode alone, before anything looks at the source's kind, so a source of another kind with
the same handle value gets the cached destination (`cache_answers_source_of_other_kind`).
-/

namespace MemBridge

namespace Mapper

open Act World

variable {w : World} {m i o src : Ref} {route : Route} {d : Option Ref} {mode : AccessMode}

theorem run_expectKind_ne {expected actual : MemoryKind} (h : expected ≠ actual) :
    (expectKind expected actual).run w = .error (.typeMismatch expected actual) w := by
  simp [expectKind, h]

theorem tensorWith_direct (fuel : Nat) (hm : w.bodyAt m = some (.mapper (.direct route i o d))) :
    (tensorWith (fuel + 1) m src mode).run w = (routeTensor route i o d src).run w := by
  simp [tensorWith, EStateM.run_bind, run_mapper hm]

theorem frameWith_direct (fuel : Nat) (hm : w.bodyAt m = some (.mapper (.direct route i o d))) :
    (frameWith (fuel + 1) m src mode).run w = (routeFrame route i o d src).run w := by
  simp [frameWith, EStateM.run_bind, run_mapper hm]

theorem routeTensor_mismatch {x : Context} {t : Tensor} (hi : w.bodyAt i = some (.context x))
    (hsrc : w.bodyAt src = some (.tensor t)) (hk : x.backend.kind ≠ t.kind) :
    (routeTensor route i o d src).run w = .error (.typeMismatch x.backend.kind t.kind) w := by
  simp [routeTensor, EStateM.run_bind, run_kindOf hi, run_tensor hsrc, run_expectKind_ne hk]

theorem perTensor_mismatch {k : MemoryKind} {f : Frame} (mapOne : Ref → Act Ref)
    (hsrc : w.bodyAt src = some (.frame f)) (hk : k ≠ f.kind) :
    (perTensor k mapOne src).run w = .error (.typeMismatch k f.kind) w := by
  simp [perTensor, EStateM.run_bind, run_frame hsrc, run_expectKind_ne hk]

theorem routeFrame_mismatch {x : Context} {f : Frame} (hi : w.bodyAt i = some (.context x))
    (hsrc : w.bodyAt src = some (.frame f)) (hk : x.backend.kind ≠ f.kind)
    (hd : d.isSome ∨ route = .cpuToOpenVino ∨ route = .openVinoToCpu) :
    (routeFrame route i o d src).run w = .error (.typeMismatch x.backend.kind f.kind) w := by
  have hper := perTensor_mismatch (routeTensor route i o d) hsrc hk
  -- every branch reads the frame and checks its kind first
  cases d <;> cases route <;>
    simp_all [routeFrame, EStateM.run_bind, run_kindOf hi, run_frame hsrc, run_expectKind_ne hk]

/-- The contract of a direct mapper. A tensor or a frame of another kind than the input
context's is refused with a type mismatch and nothing changes. A mapped tensor is a tensor of
the route's output kind (the kind `makeDirect` checks the output context has) holding the output
context, whose parent is the source; a mapped frame is a frame of that kind whose parent is the
source and whose every tensor has that kind and holds the output context. -/
theorem direct_mapper_contract {x : Context}
    (hm : w.bodyAt m = some (.mapper (.direct route i o d))) (hi : w.bodyAt i = some (.context x))
    (hd : d.isSome ∨ route = .cpuToOpenVino ∨ route = .openVinoToCpu) (mode : AccessMode) :
    (∀ t, w.bodyAt src = some (.tensor t) → t.kind ≠ x.backend.kind →
      (mapTensor m src mode).run w = .error (.typeMismatch x.backend.kind t.kind) w) ∧
    (∀ f, w.bodyAt src = some (.frame f) → f.kind ≠ x.backend.kind →
      (mapFrame m src mode).run w = .error (.typeMismatch x.backend.kind f.kind) w) ∧
    (∀ r w', (mapTensor m src mode).run w = .ok r w' → w'.MappedFrom r route.ends.2 o src) ∧
    (∀ g w', (mapFrame m src mode).run w = .ok g w' → w'.FrameFrom g route.ends.2 o src) := by
  refine ⟨fun t hsrc hk => ?_, fun f hsrc hk => ?_, fun r w' hrun => ?_, fun g w' hrun => ?_⟩
  · rw [run_mapTensor, tensorWith_direct _ hm]
    exact routeTensor_mismatch hi hsrc (Ne.symm hk)
  · rw [run_mapFrame, frameWith_direct _ hm]
    exact routeFrame_mismatch hi hsrc (Ne.symm hk) hd
  · -- the route's own triple, from the world it starts in
    have h := of_triple (routeTensor_maps route i o d src) (Adds.refl w)
    rw [← tensorWith_direct w.nodes.size hm, ← run_mapTensor, hrun] at h
    exact h.2
  · have h := of_triple (routeFrame_maps route i o d src) (Adds.refl w)
    rw [← frameWith_direct w.nodes.size hm, ← run_mapFrame, hrun] at h
    exact h.2

/-- A cache (5) over the direct mapper (2) from a CPU context (0) to an OpenVINO context (1),
whose slot for handle 17 and reading holds an OpenVINO tensor (4); a DMA tensor (3) whose
descriptor is 17. -/
def otherKindCache : Cache where
  inner := 2
  policy := .reissue
  tensors := [⟨.num 17, .read, some 4⟩]
  name := "cache(cpu_to_openvino)"

def dmaSource : Tensor where
  kind := .dma
  layout := ⟨[4], [1], .uint8⟩
  handles := [("dma_fd", .num 17)]
  primary := "dma_fd"

def cachedRemote : Tensor where
  kind := .openVino
  layout := ⟨[4], [1], .uint8⟩
  context := .strong 1
  handles := [("ov_tensor", .num 9)]
  primary := "ov_tensor"

def otherKindWorld : World where
  nodes := #[⟨1, .context ⟨0, none, .plain .cpu, []⟩⟩,
    ⟨2, .context ⟨1, none, .plain .openVino, []⟩⟩, ⟨1, .mapper (.direct .cpuToOpenVino 0 1 none)⟩,
    ⟨1, .tensor dmaSource⟩, ⟨1, .tensor cachedRemote⟩, ⟨1, .mapper (.cache otherKindCache)⟩]

/-- The cache over the same mapper, whose input context is the CPU one, is asked to map the DMA
tensor: instead of refusing a source of another kind, it hands out the OpenVINO tensor it holds
for the handle value 17. -/
theorem cache_answers_source_of_other_kind :
    (input 5).run otherKindWorld = .ok 0 otherKindWorld ∧
    (Context.kindOf 0).run otherKindWorld = .ok .cpu otherKindWorld ∧
    dmaSource.kind = .dma ∧
    (mapTensor 5 3 .read).run otherKindWorld =
      .ok 4 ((otherKindWorld.setBody 5 (.mapper (.cache { otherKindCache with hits := 1 }))).setStrong
        4 ⟨1, .tensor cachedRemote⟩ 2) := by
  refine ⟨rfl, rfl, rfl, ?_⟩
  rw [run_mapTensor]
  exact tensorWith_hit_reissued rfl rfl rfl rfl rfl rfl (by decide)

end Mapper

end MemBridge
