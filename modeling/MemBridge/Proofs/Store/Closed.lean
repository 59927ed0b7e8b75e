import MemBridge.Proofs.Store.Release
import MemBridge.Proofs.Device.Limit

/-!
Releasing never fails in a closed store.

A store is closed when every reference an object names is an object of the store, and the
device a device resource counts in is a device (`World.Closed`). A release only lowers counts,
changes the counters and tables of devices, and gives host memory back, so it keeps a store
closed and its size as it is. In a closed store each step of the cascade finds what it reads:
the object it releases, and the device whose counters a dropped resource changes. By induction
on the fuel, the cascade from any tasks releasing objects of the store runs to its end
(`Act.drain_closed`), and so does every release (`Act.releaseAll_closed`).
-/

namespace MemBridge

namespace Body

theorem mem_linkRefs_of_release {l : ContextLink} {q : Ref} (h : Task.release q ∈ linkTasks l) :
    q ∈ linkRefs l := by
  cases l <;> simp_all [linkTasks, linkRefs]

theorem mem_holdingRefs_of_release {o : Option Holding} {q : Ref}
    (h : Task.release q ∈ holdingTasks o) : q ∈ holdingRefs o := by
  rcases o with _ | (_ | _ | _) <;> simp_all [holdingTasks, holdingRefs]

theorem mem_backendRefs_of_release {b : Backend} {q : Ref} (h : Task.release q ∈ backendTasks b) :
    q ∈ backendRefs b := by
  cases b <;> simp_all [backendTasks, backendRefs]

theorem mem_slots_of_release {slots : List Slot} {q : Ref} (h : Task.release q ∈ slotTasks slots) :
    q ∈ slots.filterMap (·.value) := by
  simp only [slotTasks, List.mem_filterMap, Option.map_eq_some_iff, Task.release.injEq] at h
  obtain ⟨s, hs, v, hv, rfl⟩ := h
  exact List.mem_filterMap.2 ⟨s, hs, hv⟩

theorem mem_refs_of_release {x : Body} {q : Ref} (h : Task.release q ∈ x.tasks) : q ∈ x.refs := by
  cases x with
  | device d => simp [tasks, refs] at h ⊢; grind
  | context c =>
    simp only [tasks, refs, List.mem_append] at h ⊢
    rcases h with h | h
    · simp_all
    · exact .inl (.inr (mem_backendRefs_of_release h))
  | mapper m =>
    cases m with
    | cache c =>
      simp only [tasks, refs, List.cons_append, List.mem_cons, Task.release.injEq,
        List.mem_append] at h ⊢
      rcases h with h | h | h
      · exact .inl h
      · exact .inr (.inl (mem_slots_of_release h))
      · exact .inr (.inr (mem_slots_of_release h))
    | _ => simp_all [tasks, refs]
  | tensor t =>
    simp only [tasks, refs, List.mem_append] at h ⊢
    rcases h with (h | h) | h
    · exact .inl (.inl (mem_linkRefs_of_release h))
    · simp_all
    · exact .inr (mem_holdingRefs_of_release h)
  | frame f => simp [tasks, refs] at h ⊢; grind
  | allocation a => simp [tasks] at h
  | surface s => simp_all [tasks, refs]
  | descriptor d => simp [tasks, refs] at h ⊢; grind
  | clBuffer b => simp [tasks, refs] at h ⊢; grind
  | framePool p => simp_all [tasks, refs]

end Body

namespace Device

/-! Giving back an acquired surface changes no table of references. -/

@[simp] theorem descriptors_releaseSurface (d : Device) (s : Int) :
    (d.releaseSurface s).descriptors = d.descriptors := by
  unfold releaseSurface
  split
  · split <;> rfl
  · rfl

@[simp] theorem surfaceTable_releaseSurface (d : Device) (s : Int) :
    (d.releaseSurface s).surfaceTable = d.surfaceTable := by
  unfold releaseSurface
  split
  · split <;> rfl
  · rfl

@[simp] theorem clBufferTable_releaseSurface (d : Device) (s : Int) :
    (d.releaseSurface s).clBufferTable = d.clBufferTable := by
  unfold releaseSurface
  split
  · split <;> rfl
  · rfl

end Device

/-- A closed store: every reference an object names is an object of the store, and the device a
device resource counts in is a device. -/
structure World.Closed (w : World) : Prop where
  refs_lt : ∀ r x, w.bodyAt r = some x → ∀ q ∈ x.refs, q < w.nodes.size
  home_device : ∀ r x d, w.bodyAt r = some x → x.home? = some d →
    ∃ dv, w.bodyAt d = some (.device dv)

namespace World.Closed

variable {w w' : World}

theorem of_nodes_eq (hc : w.Closed) (h : w'.nodes = w.nodes) : w'.Closed where
  refs_lt r x hx := by
    simp only [bodyAt, h] at hx ⊢
    exact hc.refs_lt r x hx
  home_device r x d hx hd := by
    simp only [bodyAt, h] at hx ⊢
    exact hc.home_device r x d hx hd

theorem release_lt (hc : w.Closed) {r q : Ref} {x : Body} (hx : w.bodyAt r = some x)
    (h : Task.release q ∈ x.tasks) : q < w.nodes.size :=
  hc.refs_lt r x hx q (Body.mem_refs_of_release h)

theorem setStrong (hc : w.Closed) {r : Nat} {n : Node} (hn : w.nodes[r]? = some n) (k : Nat) :
    (w.setStrong r n k).Closed where
  refs_lt r' x hx := by
    rw [bodyAt_setStrong hn] at hx
    rw [setStrong_size]
    exact hc.refs_lt r' x hx
  home_device r' x d hx hd := by
    rw [bodyAt_setStrong hn] at hx
    simp only [bodyAt_setStrong hn]
    exact hc.home_device r' x d hx hd

theorem setBody (hc : w.Closed) {r : Nat} {x y : Body} (hx : w.bodyAt r = some x)
    (hv : y.variant = x.variant) (hrefs : ∀ q ∈ y.refs, q < w.nodes.size)
    (hhome : ∀ d, y.home? = some d → ∃ dv, w.bodyAt d = some (.device dv)) :
    (w.setBody r y).Closed where
  refs_lt r' z hz := by
    rw [setBody_size]
    rw [bodyAt_setBody] at hz
    split at hz
    · cases hz
      exact hrefs
    · exact hc.refs_lt r' z hz
  home_device r' z d hz hzd := by
    have hdev : ∃ dv, w.bodyAt d = some (.device dv) := by
      rw [bodyAt_setBody] at hz
      split at hz
      · cases hz
        exact hhome d hzd
      · exact hc.home_device r' z d hz hzd
    obtain ⟨dv, hdv⟩ := hdev
    rw [bodyAt_setBody]
    split
    · next hd =>
      -- the device itself was replaced, by a device
      obtain ⟨rfl, -⟩ := hd
      rw [hdv] at hx
      cases hx
      cases y <;> simp_all [Body.variant]
    · exact ⟨dv, hdv⟩

theorem setDevice (hc : w.Closed) {r : Nat} {d d' : Device} (hd : w.bodyAt r = some (.device d))
    (hrefs : ∀ q ∈ (Body.device d').refs, q ∈ (Body.device d).refs) :
    (w.setBody r (.device d')).Closed :=
  hc.setBody hd rfl (fun q hq => hc.refs_lt r _ hd q (hrefs q hq)) (by simp [Body.home?])

theorem push (hc : w.Closed) {b : Body} (hrefs : ∀ q ∈ b.refs, q < w.nodes.size)
    (hhome : ∀ d, b.home? = some d → ∃ dv, w.bodyAt d = some (.device dv)) (k : Nat) :
    (w.push ⟨k, b⟩).Closed where
  refs_lt r x hx q hq := by
    rw [push_size]
    rw [bodyAt_push] at hx
    split at hx
    · cases hx
      exact Nat.lt_succ_of_lt (hrefs q hq)
    · exact Nat.lt_succ_of_lt (hc.refs_lt r x hx q hq)
  home_device r x d hx hd := by
    have hdev : ∃ dv, w.bodyAt d = some (.device dv) := by
      rw [bodyAt_push] at hx
      split at hx
      · cases hx
        exact hhome d hd
      · exact hc.home_device r x d hx hd
    obtain ⟨dv, hdv⟩ := hdev
    exact ⟨dv, by rw [bodyAt_push, if_neg (Nat.ne_of_lt (lt_size_of_bodyAt hdv)), hdv]⟩

end World.Closed

namespace Act

open World

variable {w : World}

theorem run_freeBuffer (b : Buffer) :
    ∃ w', (freeBuffer b).run w = .ok () w' ∧ w'.nodes = w.nodes := by
  unfold freeBuffer
  simp only [EStateM.run_bind, EStateM.run_get]
  split
  · exact ⟨_, rfl, rfl⟩
  · exact ⟨_, rfl, rfl⟩

theorem run_closeAllocator (a : Nat) :
    ∃ w', (closeAllocator a).run w = .ok () w' ∧ w'.nodes = w.nodes :=
  ⟨_, rfl, rfl⟩

theorem dropSelf_closed (hc : w.Closed) {r : Ref} {x : Body} (hx : w.bodyAt r = some x) :
    ∃ first w', (dropSelf x).run w = .ok first w' ∧ w'.Closed ∧ w'.nodes.size = w.nodes.size ∧
      ∀ q, Task.release q ∈ first → q < w.nodes.size := by
  cases x with
  | allocation a =>
    obtain ⟨dv, hdv⟩ := hc.home_device r _ _ hx rfl
    -- the device's counters change, and the world left is named by the run
    exact ⟨[], _, by simp [dropSelf, run_modifyDevice hdv]; rfl,
      hc.setDevice hdv (by simp [Body.refs]), by simp, by simp⟩
  | surface s =>
    obtain ⟨dv, hdv⟩ := hc.home_device r _ _ hx rfl
    -- the device's counters change, and the world left is named by the run
    exact ⟨[], _, by simp [dropSelf, run_modifyDevice hdv]; rfl,
      hc.setDevice hdv (by simp [Body.refs]), by simp, by simp⟩
  | descriptor x =>
    obtain ⟨dv, hdv⟩ := hc.home_device r _ _ hx rfl
    cases hm : dv.descriptors.lookup x.fd with
    | none => exact ⟨[], w, by simp [dropSelf, run_device hdv, hm], hc, rfl, by simp⟩
    | some m =>
      -- the memory the device kept open for the descriptor is one of the device's references
      have hmem : m ∈ (Body.device dv).refs := by
        obtain ⟨l₁, l₂, e, -⟩ := List.lookup_eq_some_iff.1 hm
        simp [Body.refs, e]
      refine ⟨[.release m], _, by simp [dropSelf, run_device hdv, hm, run_modifyDevice hdv]; rfl,
        hc.setDevice hdv ?_, by simp, ?_⟩
      · simp only [Body.refs, List.mem_append, List.mem_map]
        rintro q ((⟨e, he, rfl⟩ | h) | h)
        · exact .inl (.inl ⟨e, List.mem_of_mem_filter he, rfl⟩)
        · exact .inl (.inr h)
        · exact .inr h
      · simp only [List.mem_singleton, Task.release.injEq]
        rintro _ rfl
        exact hc.refs_lt _ _ hdv _ hmem
  | clBuffer b =>
    obtain ⟨dv, hdv⟩ := hc.home_device r _ _ hx rfl
    refine ⟨[], _, by simp [dropSelf, run_modifyDevice hdv]; rfl, hc.setDevice hdv ?_, by simp,
      by simp⟩
    cases b.acquired <;> simp [Body.refs]
  | device d => exact ⟨[], w, rfl, hc, rfl, by simp⟩
  | context c => exact ⟨[], w, rfl, hc, rfl, by simp⟩
  | mapper m => exact ⟨[], w, rfl, hc, rfl, by simp⟩
  | tensor t => exact ⟨[], w, rfl, hc, rfl, by simp⟩
  | frame f => exact ⟨[], w, rfl, hc, rfl, by simp⟩
  | framePool p => exact ⟨[], w, rfl, hc, rfl, by simp⟩

theorem drain_closed (fuel : Nat) : ∀ (ts : List Task) (w : World), w.Closed →
    (∀ q, Task.release q ∈ ts → q < w.nodes.size) →
    ∃ w', (drain ts fuel).run w = .ok () w' ∧ w'.Closed ∧ w'.nodes.size = w.nodes.size := by
  -- the tasks of a dropped object go in front of the rest, so the induction is on the fuel
  induction fuel with
  | zero => intro ts w hc _; cases ts <;> exact ⟨w, rfl, hc, rfl⟩
  | succ fuel ih =>
    intro ts w hc hts
    match ts with
    | [] => exact ⟨w, rfl, hc, rfl⟩
    | .free b :: rest =>
      obtain ⟨w₁, h₁, e₁⟩ := run_freeBuffer (w := w) b
      obtain ⟨w₂, h₂, hc₂, hs₂⟩ := ih rest w₁ (hc.of_nodes_eq e₁)
        (fun q hq => e₁ ▸ hts q (List.mem_cons_of_mem _ hq))
      exact ⟨w₂, by simp [drain, EStateM.run_bind, h₁, h₂], hc₂, hs₂.trans (by rw [e₁])⟩
    | .close a :: rest =>
      obtain ⟨w₁, h₁, e₁⟩ := run_closeAllocator (w := w) a
      obtain ⟨w₂, h₂, hc₂, hs₂⟩ := ih rest w₁ (hc.of_nodes_eq e₁)
        (fun q hq => e₁ ▸ hts q (List.mem_cons_of_mem _ hq))
      exact ⟨w₂, by simp [drain, EStateM.run_bind, h₁, h₂], hc₂, hs₂.trans (by rw [e₁])⟩
    | .release r :: rest =>
      have hr : r < w.nodes.size := hts r List.mem_cons_self
      have hrest : ∀ q, Task.release q ∈ rest → q < w.nodes.size :=
        fun q hq => hts q (List.mem_cons_of_mem _ hq)
      obtain ⟨n, hn⟩ : ∃ n, w.nodes[r]? = some n := ⟨_, Array.getElem?_eq_getElem hr⟩
      rw [drain_release]
      by_cases hgt : n.strong > 1
      · -- one reference less
        obtain ⟨w₂, h₂, hc₂, hs₂⟩ :=
          ih rest _ (hc.setStrong hn (n.strong - 1)) (by simpa using hrest)
        refine ⟨w₂, ?_, hc₂, by simpa using hs₂⟩
        simp [EStateM.run_bind, run_node hn, hgt, h₂]
      by_cases hz : n.strong = 0
      · -- already gone
        obtain ⟨w₂, h₂, hc₂, hs₂⟩ := ih rest w hc hrest
        exact ⟨w₂, by simp [EStateM.run_bind, run_node hn, hz, h₂], hc₂, hs₂⟩
      · -- the last reference: the object's own drop, then its fields, then the rest
        have hc₁ := hc.setStrong hn 0
        have hx : (w.setStrong r n 0).bodyAt r = some n.body := by
          rw [bodyAt_setStrong hn]
          exact bodyAt_of_getElem? hn
        obtain ⟨first, w₂, h₂, hc₂, hs₂, hfirst⟩ := dropSelf_closed hc₁ hx
        have hts₂ : ∀ q, Task.release q ∈ first ++ n.body.tasks ++ rest → q < w₂.nodes.size := by
          intro q hq
          rw [hs₂, setStrong_size]
          simp only [List.mem_append] at hq
          rcases hq with (hq | hq) | hq
          · simpa using hfirst q hq
          · exact hc.release_lt (bodyAt_of_getElem? hn) hq
          · exact hrest q hq
        obtain ⟨w₃, h₃, hc₃, hs₃⟩ := ih _ w₂ hc₂ hts₂
        refine ⟨w₃, ?_, hc₃, by rw [hs₃, hs₂, setStrong_size]⟩
        rw [List.append_assoc] at h₃
        simp [EStateM.run_bind, run_node hn, hgt, hz, h₂, h₃]

theorem runTasks_closed {ts : List Task} (hc : w.Closed)
    (hts : ∀ q, Task.release q ∈ ts → q < w.nodes.size) :
    ∃ w', (runTasks ts).run w = .ok () w' ∧ w'.Closed ∧ w'.nodes.size = w.nodes.size :=
  drain_closed _ ts w hc hts

theorem releaseAll_closed {rs : List Ref} (hc : w.Closed) (hrs : ∀ q ∈ rs, q < w.nodes.size) :
    ∃ w', (releaseAll rs).run w = .ok () w' ∧ w'.Closed ∧ w'.nodes.size = w.nodes.size :=
  runTasks_closed hc (by simpa using hrs)

theorem release_closed {r : Ref} (hc : w.Closed) (hr : r < w.nodes.size) :
    ∃ w', (release r).run w = .ok () w' ∧ w'.Closed ∧ w'.nodes.size = w.nodes.size :=
  runTasks_closed hc (by simpa using hr)

end Act

end MemBridge
