import MemBridge.Proofs.Device.Adds
import MemBridge.Proofs.Device.Limit

/-!
Copies a world records.

Each device keeps a ledger of the copies made through host memory, one entry per copy path.
A ledger changes only where a copy is counted: `Device.recordCopy` puts new totals for its own
path, whether the byte total fits or not, and no other operation of the store or of a device
touches a ledger.

`World.CopiesOnly P w w'` says that `w'` lists, for every device and every path that `P` does
not admit, the entry `w` lists. It is the frame condition the specifications here carry from
step to step, as `World.Adds` does for objects; with `P` admitting no path it says that no
ledger changed at all.
-/

namespace MemBridge

open Std.Do

set_option mvcgen.warning false

-- A lemma of this module reaches `mvcgen` through a `have` (`specN`): named in the list, it would
-- make the proof wait until that lemma's own proof is checked. Where `grind` or `simp_all`
-- follows, the binding is cleared first, so that they do not take it up as a hypothesis.

namespace Ledger

def entry (l : Ledger) (q : CopyPath) : Option (CopyPath × CopyTotals) :=
  l.paths.find? (·.1 == q)

theorem totals_eq_entry (l : Ledger) (q : CopyPath) :
    l.totals q = ((l.entry q).map (·.2)).getD {} := rfl

variable {l : Ledger} {p q : CopyPath}

theorem find?_replace_of_ne (ps : List (CopyPath × CopyTotals)) (t : CopyTotals) (h : q ≠ p) :
    (ps.map fun e => if e.1 == p then (p, t) else e).find? (·.1 == q) =
      ps.find? (·.1 == q) := by
  induction ps with
  | nil => rfl
  | cons e ps ih =>
    rw [List.map_cons, List.find?_cons, List.find?_cons, ih]
    by_cases he : e.1 = p
    · have hp : (p == q) = false := by simpa using Ne.symm h
      simp [he, hp]
    · simp [he]

theorem find?_filter_path (ps : List (CopyPath × CopyTotals)) (f : CopyPath → Bool) :
    (ps.filter fun e => f e.1).find? (·.1 == q) = if f q then ps.find? (·.1 == q) else none := by
  rw [List.find?_filter]
  split
  · next hq =>
    congr 1
    funext e
    by_cases he : e.1 = q <;> simp [he, hq]
  · next hq =>
    rw [List.find?_eq_none]
    intro e _ hfe
    simp only [decide_eq_true_eq, beq_iff_eq] at hfe
    exact hq (hfe.2 ▸ hfe.1)

theorem entry_put_of_ne (t : CopyTotals) (h : q ≠ p) : (l.put p t).entry q = l.entry q := by
  unfold put entry
  split
  · exact find?_replace_of_ne _ t h
  · -- the new entry goes between the paths before `p` and those after it
    have hnew : ((p, t).1 == q) = false := by simpa using Ne.symm h
    rw [List.find?_append, List.find?_append,
      find?_filter_path l.paths (fun c => c.lt p),
      find?_filter_path l.paths (fun c => !c.lt p)]
    cases q.lt p <;> simp [hnew]

theorem entry_record_of_ne (bytes : Nat) (h : q ≠ p) :
    (l.record p bytes).2.entry q = l.entry q ∧
      ∀ l', (l.record p bytes).1 = .ok l' → l'.entry q = l.entry q := by
  simp only [record]
  split <;> simp [entry_put_of_ne _ h]

end Ledger

namespace World

def ledgerAt (w : World) (dv : Ref) : Option Ledger :=
  match w.bodyAt dv with
  | some (.device d) => some d.copies
  | _ => none

variable {w w' : World} {r : Ref}

@[grind →] theorem ledgerAt_of_bodyAt {d : Device} (h : w.bodyAt r = some (.device d)) :
    w.ledgerAt r = some d.copies := by
  simp [ledgerAt, h]

theorem ledgerAt_of_variant {x : Body} (h : w.bodyAt r = some x) (hv : x.variant ≠ .device) :
    w.ledgerAt r = none := by
  cases x <;> simp_all [ledgerAt, Body.variant]

theorem ledgerAt_of_nodes_eq (h : w'.nodes = w.nodes) : w'.ledgerAt = w.ledgerAt := by
  funext dv
  simp [ledgerAt, bodyAt, h]

@[grind =] theorem ledgerAt_setStrong {n : Node} (hn : w.nodes[r]? = some n) (k : Nat) :
    (w.setStrong r n k).ledgerAt = w.ledgerAt := by
  funext dv
  simp [ledgerAt, bodyAt_setStrong hn]

/-- A new object that is no device adds no ledger. -/
@[grind =] theorem ledgerAt_push {n : Node} (hv : n.body.variant ≠ .device) :
    (w.push n).ledgerAt = w.ledgerAt := by
  funext dv
  by_cases hdv : dv = w.nodes.size
  · subst hdv
    have hnone : w.bodyAt w.nodes.size = none := by simp [bodyAt]
    rw [ledgerAt_of_variant (bodyAt_push_size w n) hv]
    simp [ledgerAt, hnone]
  · simp [ledgerAt, bodyAt_push, hdv]

theorem ledgerAt_setBody {x y : Body} (hx : w.bodyAt r = some x) (hxy : y.variant = x.variant)
    (hv : x.variant ≠ .device) : (w.setBody r y).ledgerAt = w.ledgerAt := by
  funext dv
  by_cases hdv : dv = r
  · subst hdv
    rw [ledgerAt_of_variant (bodyAt_setBody_of_lt y (lt_size_of_bodyAt hx)) (hxy ▸ hv),
      ledgerAt_of_variant hx hv]
  · simp [ledgerAt, bodyAt_setBody_of_ne _ hdv]

theorem ledgerAt_setDevice {d d' : Device} (hd : w.bodyAt r = some (.device d)) (dv : Ref) :
    (w.setBody r (.device d')).ledgerAt dv = if dv = r then some d'.copies else w.ledgerAt dv := by
  split
  · next hdv =>
    subst hdv
    exact ledgerAt_of_bodyAt (bodyAt_setBody_of_lt _ (lt_size_of_bodyAt hd))
  · next hdv => simp [ledgerAt, bodyAt_setBody_of_ne _ hdv]

/-- Replacing an object that is no device by one of its sort, as `ledgerAt_setBody` reads from
the sort alone. -/
@[grind =] theorem ledgerAt_setBody_of_sort {y : Body}
    (hx : (w.bodyAt r).map Body.variant = some y.variant) (hv : y.variant ≠ .device) :
    (w.setBody r y).ledgerAt = w.ledgerAt := by
  obtain ⟨x, hx, hxy⟩ := Option.map_eq_some_iff.1 hx
  exact ledgerAt_setBody hx hxy.symm (hxy ▸ hv)

/-- Replacing a device by one with the same ledger. -/
@[grind =] theorem ledgerAt_keepDevice {d' : Device} (hc : w.ledgerAt r = some d'.copies) :
    (w.setBody r (.device d')).ledgerAt = w.ledgerAt := by
  obtain ⟨d, hd⟩ : ∃ d, w.bodyAt r = some (.device d) := by
    unfold ledgerAt at hc
    split at hc
    · exact ⟨_, ‹_›⟩
    · cases hc
  funext dv
  rw [ledgerAt_setDevice hd]
  split
  · next hdv => rw [hdv, hc]
  · rfl

/-- The ledgers are read off the objects alone. -/
@[simp, grind =] theorem ledgerAt_mk {a : Array (Option HostPool)} {hp : Heap} {d c : Nat}
    {t : Int} : (⟨w.nodes, a, hp, d, c, t⟩ : World).ledgerAt = w.ledgerAt := rfl

/-- `w'` lists, for every device and every path that `P` does not admit, the entry `w` lists:
each holds a device where the other does, and copies counted between them are counted along
paths `P` admits. -/
def CopiesOnly (P : CopyPath → Prop) (w w' : World) : Prop :=
  ∀ dv q, ¬ P q → (w'.ledgerAt dv).map (·.entry q) = (w.ledgerAt dv).map (·.entry q)

/-- `CopiesOnly` read on the ledgers alone: `L'` lists, for every reference and every path that
`P` does not admit, the entry `L` lists. -/
def LedgersAlong (P : CopyPath → Prop) (L L' : Ref → Option Ledger) : Prop :=
  ∀ dv q, ¬ P q → (L' dv).map (·.entry q) = (L dv).map (·.entry q)

namespace LedgersAlong

variable {P : CopyPath → Prop} {L L' L'' : Ref → Option Ledger}

@[grind ←] theorem refl (P : CopyPath → Prop) (L : Ref → Option Ledger) : LedgersAlong P L L :=
  fun _ _ _ => rfl

@[grind →] theorem trans (h₁ : LedgersAlong P L L') (h₂ : LedgersAlong P L' L'') :
    LedgersAlong P L L'' :=
  fun dv q hq => (h₂ dv q hq).trans (h₁ dv q hq)

end LedgersAlong

/-- Whether a world copies only along `P` from another depends on their ledgers alone, so that
steps that keep the ledgers drop out of a chain of steps. -/
@[grind =] theorem copiesOnly_eq (P : CopyPath → Prop) (w w' : World) :
    w.CopiesOnly P w' = LedgersAlong P w.ledgerAt w'.ledgerAt := rfl

namespace CopiesOnly

variable {P : CopyPath → Prop} {w₀ w'' : World}

@[grind ←] theorem refl (P : CopyPath → Prop) (w : World) : w.CopiesOnly P w :=
  fun _ _ _ => rfl

@[grind →] theorem trans (h₁ : w.CopiesOnly P w') (h₂ : w'.CopiesOnly P w'') :
    w.CopiesOnly P w'' :=
  fun dv q hq => (h₂ dv q hq).trans (h₁ dv q hq)

theorem of_ledgerAt_eq (h : w'.ledgerAt = w.ledgerAt) : w.CopiesOnly P w' :=
  fun dv _ _ => by rw [h]

theorem mono {Q : CopyPath → Prop} (hPQ : ∀ q, P q → Q q) (h : w.CopiesOnly P w') :
    w.CopiesOnly Q w' :=
  fun dv q hq => h dv q fun hp => hq (hPQ q hp)

/-! Each way the node array changes, after a world that copies only along `P`. -/

theorem trans_ledgerAt (h : w₀.CopiesOnly P w) (he : w'.ledgerAt = w.ledgerAt) :
    w₀.CopiesOnly P w' :=
  h.trans (of_ledgerAt_eq he)

@[grind ←] theorem trans_setStrong {n : Node} {k : Nat} (h : w₀.CopiesOnly P w)
    (hn : w.nodes[r]? = some n) : w₀.CopiesOnly P (w.setStrong r n k) :=
  h.trans_ledgerAt (ledgerAt_setStrong hn k)

@[grind ←] theorem trans_push {n : Node} (h : w₀.CopiesOnly P w) (hv : n.body.variant ≠ .device) :
    w₀.CopiesOnly P (w.push n) :=
  h.trans_ledgerAt (ledgerAt_push hv)

@[grind ←] theorem trans_setBody {y : Body} (h : w₀.CopiesOnly P w)
    (hx : (w.bodyAt r).map Body.variant = some y.variant) (hv : y.variant ≠ .device) :
    w₀.CopiesOnly P (w.setBody r y) := by
  obtain ⟨x, hx, hxy⟩ := Option.map_eq_some_iff.1 hx
  exact h.trans_ledgerAt (ledgerAt_setBody hx hxy.symm (hxy ▸ hv))

theorem trans_setDevice {d d' : Device} (h : w₀.CopiesOnly P w)
    (hd : w.bodyAt r = some (.device d)) (hc : ∀ q, ¬ P q → d'.copies.entry q = d.copies.entry q) :
    w₀.CopiesOnly P (w.setBody r (.device d')) := by
  refine h.trans fun dv q hq => ?_
  rw [ledgerAt_setDevice hd]
  split
  · next hdv =>
    subst hdv
    simp [ledgerAt_of_bodyAt hd, hc q hq]
  · rfl

@[grind ←] theorem mk_nodes {a : Array (Option HostPool)} {hp : Heap} {d c : Nat} {t : Int}
    (h : w₀.CopiesOnly P w) : w₀.CopiesOnly P ⟨w.nodes, a, hp, d, c, t⟩ :=
  h.trans_ledgerAt (ledgerAt_of_nodes_eq rfl)

theorem record {d : Device} (hd : w.bodyAt r = some (.device d)) (p : CopyPath) (bytes : Nat) :
    w.CopiesOnly (· = p) (w.setBody r (.device { d with copies := (d.copies.record p bytes).2 })) ∧
      ∀ l, (d.copies.record p bytes).1 = .ok l →
        w.CopiesOnly (· = p) (w.setBody r (.device { d with copies := l })) :=
  ⟨(refl _ w).trans_setDevice hd fun _ hq => (Ledger.entry_record_of_ne bytes hq).1,
    fun l hl => (refl _ w).trans_setDevice hd fun _ hq => (Ledger.entry_record_of_ne bytes hq).2 l hl⟩

end CopiesOnly

end World

/-- What a step leaves, whether it succeeds or fails: ledgers changed, since `w₀`, only along
paths `P` admits. -/
abbrev World.CopiedOnly {α : Type} (P : CopyPath → Prop) (w₀ : World) :
    PostCond α (.except Fault (.arg World .pure)) :=
  post⟨fun _ w => ⌜w₀.CopiesOnly P w⌝, fun _ w => ⌜w₀.CopiesOnly P w⌝⟩

abbrev World.LedgersAre {α : Type} (L : Ref → Option Ledger) :
    PostCond α (.except Fault (.arg World .pure)) :=
  post⟨fun _ w => ⌜w.ledgerAt = L⌝, fun _ w => ⌜w.ledgerAt = L⌝⟩

namespace Device

/-! Acquiring a surface and giving it back keep the device's ledger. -/

@[simp, grind =] theorem copies_acquire (d : Device) (s : Int) :
    (d.acquire s).copies = d.copies := by
  unfold acquire
  split <;> rfl

@[simp, grind =] theorem copies_releaseSurface (d : Device) (s : Int) :
    (d.releaseSurface s).copies = d.copies := by
  unfold releaseSurface
  split
  · split <;> rfl
  · rfl

end Device

/-! ## The store's own operations

No operation of the store changes a ledger: only replacing a device can, and `modifyDevice f`
keeps the ledger when `f` does. Each specification holds from any world with ledgers `L`. -/

namespace Act

open World

variable {L : Ref → Option Ledger}

theorem broken_ledgers {α : Type} (what : String) :
    ⦃fun w => ⌜w.ledgerAt = L⌝⦄ (broken what : Act α)
    ⦃post⟨fun _ _ => ⌜False⌝, fun _ w => ⌜w.ledgerAt = L⌝⟩⦄ := by
  mvcgen [broken, -Act.broken_spec]

theorem lift_ledgers {α : Type} (x : Except Fault α) :
    ⦃fun w => ⌜w.ledgerAt = L⌝⦄ lift x
    ⦃post⟨fun a w => ⌜w.ledgerAt = L ∧ x = .ok a⌝, fun _ w => ⌜w.ledgerAt = L⌝⟩⦄ := by
  mvcgen [lift, -Act.lift_spec]

theorem node_ledgers (r : Ref) :
    ⦃fun w => ⌜w.ledgerAt = L⌝⦄ node r
    ⦃post⟨fun n w => ⌜w.ledgerAt = L ∧ w.nodes[r]? = some n⌝, fun _ w => ⌜w.ledgerAt = L⌝⟩⦄ := by
  unfold node broken
  mvcgen [-Act.node_spec]

theorem body_ledgers (r : Ref) :
    ⦃fun w => ⌜w.ledgerAt = L⌝⦄ body r
    ⦃post⟨fun x w => ⌜w.ledgerAt = L ∧ w.bodyAt r = some x⌝, fun _ w => ⌜w.ledgerAt = L⌝⟩⦄ := by
  -- closed by hand: the nine reads of one sort below wait on this proof
  have spec1 := @node_ledgers
  mvcgen [body, -Act.body_spec, -Act.node_spec, spec1] <;> clear spec1
  · next _ h₀ _ _ h => exact ⟨h.1.trans h₀, bodyAt_of_getElem? h.2⟩
  · next _ h₀ _ _ => exact fun h => h.trans h₀

theorem alive_ledgers (r : Ref) :
    ⦃fun w => ⌜w.ledgerAt = L⌝⦄ alive r ⦃World.LedgersAre L⦄ := by
  have spec1 := @node_ledgers
  mvcgen [alive, -Act.alive_spec, -Act.node_spec, spec1] <;> clear spec1 <;> grind

theorem strongCount_ledgers (r : Ref) :
    ⦃fun w => ⌜w.ledgerAt = L⌝⦄ strongCount r ⦃World.LedgersAre L⦄ := by
  have spec1 := @node_ledgers
  mvcgen [strongCount, -Act.strongCount_spec, -Act.node_spec, spec1] <;> clear spec1 <;> grind

theorem retain_ledgers (r : Ref) :
    ⦃fun w => ⌜w.ledgerAt = L⌝⦄ retain r ⦃World.LedgersAre L⦄ := by
  have spec1 := @node_ledgers
  mvcgen [retain_eq, -Act.retain_spec, -Act.node_spec, spec1] <;> clear spec1 <;> grind

theorem create_ledgers (x : Body) :
    ⦃fun w => ⌜w.ledgerAt = L ∧ x.variant ≠ .device⌝⦄ create x
    ⦃post⟨fun r w => ⌜w.ledgerAt = L ∧ w.bodyAt r = some x⌝, fun _ _ => ⌜False⌝⟩⦄ := by
  mvcgen [create_eq, -Act.create_spec]
  grind

theorem device_ledgers (r : Ref) :
    ⦃fun w => ⌜w.ledgerAt = L⌝⦄ device r
    ⦃post⟨fun d w => ⌜w.ledgerAt = L ∧ w.bodyAt r = some (.device d)⌝,
      fun _ w => ⌜w.ledgerAt = L⌝⟩⦄ := by
  have spec1 := @body_ledgers
  mvcgen [device, broken, -Act.device_spec, -Act.body_spec, spec1] <;> clear spec1 <;> grind

theorem mapper_ledgers (r : Ref) :
    ⦃fun w => ⌜w.ledgerAt = L⌝⦄ mapper r
    ⦃post⟨fun m w => ⌜w.ledgerAt = L ∧ w.bodyAt r = some (.mapper m)⌝,
      fun _ w => ⌜w.ledgerAt = L⌝⟩⦄ := by
  have spec1 := @body_ledgers
  mvcgen [mapper, broken, -Act.mapper_spec, -Act.body_spec, spec1] <;> clear spec1 <;> grind

theorem context_ledgers (r : Ref) :
    ⦃fun w => ⌜w.ledgerAt = L⌝⦄ context r
    ⦃post⟨fun c w => ⌜w.ledgerAt = L ∧ w.bodyAt r = some (.context c)⌝,
      fun _ w => ⌜w.ledgerAt = L⌝⟩⦄ := by
  have spec1 := @body_ledgers
  mvcgen [context, broken, -Act.context_spec, -Act.body_spec, spec1] <;> clear spec1 <;> grind

theorem tensor_ledgers (r : Ref) :
    ⦃fun w => ⌜w.ledgerAt = L⌝⦄ tensor r
    ⦃post⟨fun t w => ⌜w.ledgerAt = L ∧ w.bodyAt r = some (.tensor t)⌝,
      fun _ w => ⌜w.ledgerAt = L⌝⟩⦄ := by
  have spec1 := @body_ledgers
  mvcgen [tensor, broken, -Act.tensor_spec, -Act.body_spec, spec1] <;> clear spec1 <;> grind

theorem frame_ledgers (r : Ref) :
    ⦃fun w => ⌜w.ledgerAt = L⌝⦄ frame r
    ⦃post⟨fun f w => ⌜w.ledgerAt = L ∧ w.bodyAt r = some (.frame f)⌝,
      fun _ w => ⌜w.ledgerAt = L⌝⟩⦄ := by
  have spec1 := @body_ledgers
  mvcgen [frame, broken, -Act.frame_spec, -Act.body_spec, spec1] <;> clear spec1 <;> grind

theorem allocation_ledgers (r : Ref) :
    ⦃fun w => ⌜w.ledgerAt = L⌝⦄ allocation r
    ⦃post⟨fun a w => ⌜w.ledgerAt = L ∧ w.bodyAt r = some (.allocation a)⌝,
      fun _ w => ⌜w.ledgerAt = L⌝⟩⦄ := by
  have spec1 := @body_ledgers
  mvcgen [allocation, broken, -Act.allocation_spec, -Act.body_spec, spec1] <;> clear spec1 <;> grind

theorem surface_ledgers (r : Ref) :
    ⦃fun w => ⌜w.ledgerAt = L⌝⦄ surface r
    ⦃post⟨fun s w => ⌜w.ledgerAt = L ∧ w.bodyAt r = some (.surface s)⌝,
      fun _ w => ⌜w.ledgerAt = L⌝⟩⦄ := by
  have spec1 := @body_ledgers
  mvcgen [surface, broken, -Act.surface_spec, -Act.body_spec, spec1] <;> clear spec1 <;> grind

theorem descriptor_ledgers (r : Ref) :
    ⦃fun w => ⌜w.ledgerAt = L⌝⦄ descriptor r
    ⦃post⟨fun d w => ⌜w.ledgerAt = L ∧ w.bodyAt r = some (.descriptor d)⌝,
      fun _ w => ⌜w.ledgerAt = L⌝⟩⦄ := by
  have spec1 := @body_ledgers
  mvcgen [descriptor, broken, -Act.descriptor_spec, -Act.body_spec, spec1] <;> clear spec1 <;> grind

theorem clBuffer_ledgers (r : Ref) :
    ⦃fun w => ⌜w.ledgerAt = L⌝⦄ clBuffer r
    ⦃post⟨fun x w => ⌜w.ledgerAt = L ∧ w.bodyAt r = some (.clBuffer x)⌝,
      fun _ w => ⌜w.ledgerAt = L⌝⟩⦄ := by
  have spec1 := @body_ledgers
  mvcgen [clBuffer, broken, -Act.clBuffer_spec, -Act.body_spec, spec1] <;> clear spec1 <;> grind

theorem setBody_ledgers (r : Ref) (y : Body) :
    ⦃fun w => ⌜w.ledgerAt = L ∧ (w.bodyAt r).map Body.variant = some y.variant ∧
      y.variant ≠ .device⌝⦄ setBody r y ⦃World.LedgersAre L⦄ := by
  mvcgen [setBody_eq]
  grind

theorem modifyDevice_ledgers (r : Ref) (f : Device → Device) :
    ⦃fun w => ⌜w.ledgerAt = L ∧ ∀ d, (f d).copies = d.copies⌝⦄ modifyDevice r f
    ⦃World.LedgersAre L⦄ := by
  have spec1 := @device_ledgers
  mvcgen [modifyDevice, setBody_eq, -Act.modifyDevice_spec, -Act.device_spec, spec1] <;> clear spec1
  all_goals grind

theorem modifyTensor_ledgers (r : Ref) (f : Tensor → Tensor) :
    ⦃fun w => ⌜w.ledgerAt = L⌝⦄ modifyTensor r f ⦃World.LedgersAre L⦄ := by
  have spec1 := @tensor_ledgers
  have spec2 := @setBody_ledgers
  mvcgen [modifyTensor, -Act.modifyTensor_spec, -Act.tensor_spec, spec1,
    spec2] <;> clear spec1 spec2
  all_goals grind [Body.variant]

theorem modifyFrame_ledgers (r : Ref) (f : Frame → Frame) :
    ⦃fun w => ⌜w.ledgerAt = L⌝⦄ modifyFrame r f ⦃World.LedgersAre L⦄ := by
  have spec1 := @frame_ledgers
  have spec2 := @setBody_ledgers
  mvcgen [modifyFrame, -Act.modifyFrame_spec, -Act.frame_spec, spec1, spec2] <;> clear spec1 spec2
  all_goals grind [Body.variant]

theorem freeBuffer_ledgers (b : Buffer) :
    ⦃fun w => ⌜w.ledgerAt = L⌝⦄ freeBuffer b ⦃World.LedgersAre L⦄ := by
  mvcgen [freeBuffer, -Act.freeBuffer_spec]

theorem closeAllocator_ledgers (a : Nat) :
    ⦃fun w => ⌜w.ledgerAt = L⌝⦄ closeAllocator a ⦃World.LedgersAre L⦄ := by
  mvcgen [closeAllocator, -Act.closeAllocator_spec]

theorem dropSelf_ledgers (x : Body) :
    ⦃fun w => ⌜w.ledgerAt = L⌝⦄ dropSelf x ⦃World.LedgersAre L⦄ := by
  have spec1 := @modifyDevice_ledgers
  have spec2 := @device_ledgers
  mvcgen [dropSelf, -Act.dropSelf_spec, -Act.modifyDevice_spec, spec1,
    -Act.device_spec, spec2] <;> clear spec1 spec2 <;> grind

theorem drain_ledgers (ts : List Task) (fuel : Nat) :
    ⦃fun w => ⌜w.ledgerAt = L⌝⦄ drain ts fuel ⦃World.LedgersAre L⦄ := by
  -- as for `drain_spec`, the cascade is followed by induction on the fuel, for every list
  induction fuel generalizing ts with
  | zero => cases ts <;> mvcgen [drain, -Act.drain_spec]
  | succ fuel ih =>
    cases ts with
    | nil => mvcgen [drain, -Act.drain_spec]
    | cons t rest =>
      cases t with
      | free b =>
        have spec1 := @freeBuffer_ledgers
        mvcgen [drain, -Act.drain_spec, ih, -Act.freeBuffer_spec, spec1] <;> clear spec1 <;> grind
      | close a =>
        have spec1 := @closeAllocator_ledgers
        mvcgen [drain, -Act.drain_spec, ih, -Act.closeAllocator_spec, spec1] <;> clear spec1 <;>
          grind
      | release r =>
        have spec1 := @node_ledgers
        have spec2 := @dropSelf_ledgers
        mvcgen [drain_release, -Act.drain_spec, ih, -Act.node_spec, spec1,
          -Act.dropSelf_spec, spec2] <;> clear spec1 spec2 <;> grind

theorem release_ledgers (r : Ref) :
    ⦃fun w => ⌜w.ledgerAt = L⌝⦄ release r ⦃World.LedgersAre L⦄ := by
  have spec1 := @drain_ledgers
  mvcgen [release, runTasks, -Act.release_spec, -Act.drain_spec, spec1]

theorem releaseAll_ledgers (rs : List Ref) :
    ⦃fun w => ⌜w.ledgerAt = L⌝⦄ releaseAll rs ⦃World.LedgersAre L⦄ := by
  have spec1 := @drain_ledgers
  mvcgen [releaseAll, runTasks, -Act.releaseAll_spec, -Act.drain_spec, spec1]

theorem owning_ledgers {α : Type} (r : Ref) (x : Act α)
    (hx : ∀ L, ⦃fun w => ⌜w.ledgerAt = L⌝⦄ x ⦃World.LedgersAre L⦄) :
    ⦃fun w => ⌜w.ledgerAt = L⌝⦄ owning r x ⦃World.LedgersAre L⦄ := by
  have spec1 := @release_ledgers
  mvcgen [owning, hx, -Act.release_spec, spec1] <;> clear spec1 <;> grind

theorem allocator_ledgers (a : Nat) :
    ⦃fun w => ⌜w.ledgerAt = L⌝⦄ allocator a ⦃World.LedgersAre L⦄ := by
  mvcgen [allocator, broken, -Act.allocator_spec]

theorem hostAlloc_ledgers (a size : Nat) :
    ⦃fun w => ⌜w.ledgerAt = L⌝⦄ hostAlloc a size ⦃World.LedgersAre L⦄ := by
  have spec1 := @allocator_ledgers
  mvcgen [hostAlloc, -Act.hostAlloc_spec, -Act.allocator_spec, spec1] <;> clear spec1 <;> grind

theorem readHost_ledgers (start : Addr) (len : Nat) :
    ⦃fun w => ⌜w.ledgerAt = L⌝⦄ readHost start len ⦃World.LedgersAre L⦄ := by
  mvcgen [readHost, -Act.readHost_spec]

theorem writeHost_ledgers (start : Addr) (bytes : ByteArray) :
    ⦃fun w => ⌜w.ledgerAt = L⌝⦄ writeHost start bytes ⦃World.LedgersAre L⦄ := by
  mvcgen [writeHost, -Act.writeHost_spec]

end Act

/-! ## A device's operations

Every operation of a device keeps the ledgers, save counting a copy, which changes the entry of
the path it counts and no other. -/

namespace Device

open Act World

variable {L : Ref → Option Ledger}

theorem nextHandleOf_ledgers (dv : Ref) :
    ⦃fun w => ⌜w.ledgerAt = L⌝⦄ nextHandleOf dv ⦃World.LedgersAre L⦄ := by
  have spec1 := @device_ledgers
  have spec2 := @modifyDevice_ledgers
  mvcgen [nextHandleOf, -nextHandleOf_spec, -Act.device_spec, spec1,
    -Act.modifyDevice_spec, spec2] <;> clear spec1 spec2 <;> grind

theorem call_ledgers (dv : Ref) (backend : MemoryKind) (name : String) :
    ⦃fun w => ⌜w.ledgerAt = L⌝⦄ call dv backend name ⦃World.LedgersAre L⦄ := by
  have spec1 := @device_ledgers
  have spec2 := @modifyDevice_ledgers
  mvcgen [call, -call_spec, -Act.device_spec, spec1, -Act.modifyDevice_spec,
    spec2] <;> clear spec1 spec2 <;> grind

theorem allocate_ledgers (dv : Ref) (backend : MemoryKind) (size : Nat) :
    ⦃fun w => ⌜w.ledgerAt = L⌝⦄ allocate dv backend size ⦃World.LedgersAre L⦄ := by
  have spec1 := @device_ledgers
  have spec2 := @hostAlloc_ledgers
  have spec3 := @modifyDevice_ledgers
  have spec4 := @create_ledgers
  mvcgen [allocate, -allocate_spec, -Act.device_spec, spec1, -Act.hostAlloc_spec,
    spec2, -Act.modifyDevice_spec, spec3, -Act.create_spec,
    spec4] <;> clear spec1 spec2 spec3 spec4 <;> grind [Body.variant]

theorem pointerAt_ledgers (mr : Ref) (offset len : Nat) :
    ⦃fun w => ⌜w.ledgerAt = L⌝⦄ pointerAt mr offset len ⦃World.LedgersAre L⦄ := by
  have spec1 := @allocation_ledgers
  mvcgen [pointerAt, pointerAt.outside, -pointerAt_spec, -Act.allocation_spec,
    spec1] <;> clear spec1 <;> grind

theorem registerSurface_ledgers (dv : Ref) (format : Option ImageFormat) (width height : Nat)
    (planes : List Plane) (memory : Ref) :
    ⦃fun w => ⌜w.ledgerAt = L⌝⦄ registerSurface dv format width height planes memory
    ⦃World.LedgersAre L⦄ := by
  have spec1 := @nextHandleOf_ledgers
  have spec2 := @create_ledgers
  have spec3 := @device_ledgers
  have spec4 := @alive_ledgers
  have spec5 := @modifyDevice_ledgers
  mvcgen [registerSurface, -registerSurface_spec, -nextHandleOf_spec, spec1,
    -Act.create_spec, spec2, -Act.device_spec, spec3, -Act.alive_spec,
    spec4, -Act.modifyDevice_spec, spec5] <;> clear spec1 spec2 spec3 spec4 spec5
  case inv1 => exact World.LedgersAre L
  all_goals grind [Body.variant]

theorem createSurface_ledgers (dv : Ref) (format : ImageFormat) (width height : Nat) :
    ⦃fun w => ⌜w.ledgerAt = L⌝⦄ createSurface dv format width height ⦃World.LedgersAre L⦄ := by
  have spec1 := @call_ledgers
  have spec2 := @device_ledgers
  have spec3 := @lift_ledgers
  have spec4 := @allocate_ledgers
  have spec5 := @registerSurface_ledgers
  mvcgen [createSurface, -createSurface_spec, -call_spec, spec1, -Act.device_spec,
    spec2, -Act.lift_spec, spec3, -allocate_spec, spec4,
    -registerSurface_spec, spec5] <;> clear spec1 spec2 spec3 spec4 spec5 <;> grind

theorem createLinearSurface_ledgers (dv : Ref) (len : Nat) :
    ⦃fun w => ⌜w.ledgerAt = L⌝⦄ createLinearSurface dv len ⦃World.LedgersAre L⦄ := by
  have spec1 := @call_ledgers
  have spec2 := @allocate_ledgers
  have spec3 := @registerSurface_ledgers
  mvcgen [createLinearSurface, -createLinearSurface_spec, -call_spec, spec1,
    -allocate_spec, spec2, -registerSurface_spec, spec3] <;> clear spec1 spec2 spec3 <;> grind

theorem importSurface_ledgers (dv memory : Ref) (format : Option ImageFormat)
    (width height : Nat) (planes : List Plane) :
    ⦃fun w => ⌜w.ledgerAt = L⌝⦄ importSurface dv memory format width height planes
    ⦃World.LedgersAre L⦄ := by
  apply owning_ledgers
  intro L
  have spec1 := @call_ledgers
  have spec2 := @pointerAt_ledgers
  have spec3 := @lift_ledgers
  have spec4 := @registerSurface_ledgers
  mvcgen [-call_spec, spec1, -pointerAt_spec, spec2, -Act.lift_spec,
    spec3, -registerSurface_spec, spec4] <;> clear spec1 spec2 spec3 spec4
  case inv1 => exact World.LedgersAre L
  all_goals grind

theorem surfaceOf_ledgers (dv : Ref) (id : Int) :
    ⦃fun w => ⌜w.ledgerAt = L⌝⦄ surfaceOf dv id ⦃World.LedgersAre L⦄ := by
  have spec1 := @device_ledgers
  have spec2 := @alive_ledgers
  have spec3 := @retain_ledgers
  mvcgen [surfaceOf, -surfaceOf_spec, -Act.device_spec, spec1, -Act.alive_spec,
    spec2, -Act.retain_spec, spec3] <;> clear spec1 spec2 spec3 <;> grind

theorem exportFd_ledgers (dv memory : Ref) :
    ⦃fun w => ⌜w.ledgerAt = L⌝⦄ exportFd dv memory ⦃World.LedgersAre L⦄ := by
  have spec1 := @nextHandleOf_ledgers
  have spec2 := @retain_ledgers
  have spec3 := @modifyDevice_ledgers
  have spec4 := @create_ledgers
  mvcgen [exportFd, -exportFd_spec, -nextHandleOf_spec, spec1, -Act.retain_spec,
    spec2, -Act.modifyDevice_spec, spec3, -Act.create_spec,
    spec4] <;> clear spec1 spec2 spec3 spec4 <;> grind [Body.variant]

theorem importFd_ledgers (dv : Ref) (backend : MemoryKind) (fd : Int) :
    ⦃fun w => ⌜w.ledgerAt = L⌝⦄ importFd dv backend fd ⦃World.LedgersAre L⦄ := by
  have spec1 := @device_ledgers
  have spec2 := @retain_ledgers
  mvcgen [importFd, -importFd_spec, -Act.device_spec, spec1, -Act.retain_spec,
    spec2] <;> clear spec1 spec2 <;> grind

theorem registerClBuffer_ledgers (dv : Ref) (ptr : Addr) (len : Nat) (owner : Ref)
    (acquired : Option Int) :
    ⦃fun w => ⌜w.ledgerAt = L⌝⦄ registerClBuffer dv ptr len owner acquired
    ⦃World.LedgersAre L⦄ := by
  have spec1 := @nextHandleOf_ledgers
  have spec2 := @retain_ledgers
  have spec3 := @create_ledgers
  have spec4 := @device_ledgers
  have spec5 := @alive_ledgers
  have spec6 := @modifyDevice_ledgers
  mvcgen [registerClBuffer, -registerClBuffer_spec, -nextHandleOf_spec, spec1,
    -Act.retain_spec, spec2, -Act.create_spec, spec3, -Act.device_spec,
    spec4, -Act.alive_spec, spec5, -Act.modifyDevice_spec,
    spec6] <;> clear spec1 spec2 spec3 spec4 spec5 spec6
  case inv1 => exact World.LedgersAre L
  all_goals grind [Body.variant]

theorem clBufferOnAllocation_ledgers (dv memory : Ref) (offset len : Nat) :
    ⦃fun w => ⌜w.ledgerAt = L⌝⦄ clBufferOnAllocation dv memory offset len
    ⦃World.LedgersAre L⦄ := by
  have spec1 := @call_ledgers
  have spec2 := @pointerAt_ledgers
  have spec3 := @registerClBuffer_ledgers
  have spec4 := @release_ledgers
  mvcgen [clBufferOnAllocation, owning, -clBufferOnAllocation_spec, -call_spec, spec1,
    -pointerAt_spec, spec2, -registerClBuffer_spec, spec3,
    -Act.release_spec, spec4] <;> clear spec1 spec2 spec3 spec4 <;> grind

theorem clBufferOnHost_ledgers (dv : Ref) (ptr : Addr) (owner : Ref) (len : Nat) :
    ⦃fun w => ⌜w.ledgerAt = L⌝⦄ clBufferOnHost dv ptr owner len ⦃World.LedgersAre L⦄ := by
  have spec1 := @call_ledgers
  have spec2 := @registerClBuffer_ledgers
  have spec3 := @release_ledgers
  mvcgen [clBufferOnHost, owning, -clBufferOnHost_spec, -call_spec, spec1,
    -registerClBuffer_spec, spec2, -Act.release_spec, spec3] <;> clear spec1 spec2 spec3 <;>
    grind

theorem shareSurface_ledgers (dv sr : Ref) (offset len : Nat) :
    ⦃fun w => ⌜w.ledgerAt = L⌝⦄ shareSurface dv sr offset len ⦃World.LedgersAre L⦄ := by
  have spec1 := @call_ledgers
  have spec2 := @surface_ledgers
  have spec3 := @pointerAt_ledgers
  have spec4 := @modifyDevice_ledgers
  have spec5 := @retain_ledgers
  have spec6 := @registerClBuffer_ledgers
  mvcgen [shareSurface, -shareSurface_spec, -call_spec, spec1, -Act.surface_spec,
    spec2, -pointerAt_spec, spec3, -Act.modifyDevice_spec,
    spec4, -Act.retain_spec, spec5, -registerClBuffer_spec,
    spec6] <;> clear spec1 spec2 spec3 spec4 spec5 spec6 <;> grind

theorem clBufferOf_ledgers (dv : Ref) (id : Int) :
    ⦃fun w => ⌜w.ledgerAt = L⌝⦄ clBufferOf dv id ⦃World.LedgersAre L⦄ := by
  have spec1 := @device_ledgers
  have spec2 := @alive_ledgers
  have spec3 := @retain_ledgers
  mvcgen [clBufferOf, -clBufferOf_spec, -Act.device_spec, spec1, -Act.alive_spec,
    spec2, -Act.retain_spec, spec3] <;> clear spec1 spec2 spec3 <;> grind

theorem synchronize_ledgers (dv : Ref) :
    ⦃fun w => ⌜w.ledgerAt = L⌝⦄ synchronize dv ⦃World.LedgersAre L⦄ := by
  have spec1 := @device_ledgers
  have spec2 := @lift_ledgers
  mvcgen [synchronize, -synchronize_spec, -Act.device_spec, spec1, -Act.lift_spec,
    spec2] <;> clear spec1 spec2 <;> grind

theorem run_recordCopy {w : World} {dv : Ref} {d : Device} (hd : w.bodyAt dv = some (.device d))
    (mapper : String) (input output : MemoryKind) (bytes : Nat) :
    (recordCopy dv mapper input output bytes).run w =
      match (d.copies.record ⟨mapper, input, output⟩ bytes).1 with
      | .ok l => .ok () (w.setBody dv (.device { d with copies := l }))
      | .error e => .error e (w.setBody dv
          (.device { d with copies := (d.copies.record ⟨mapper, input, output⟩ bytes).2 })) := by
  simp only [recordCopy, EStateM.run_bind, run_device hd]
  split <;> simp_all [run_modifyDevice hd]

theorem recordCopy_copies {w₁ : World} (dv : Ref) (mapper : String) (input output : MemoryKind)
    (bytes : Nat) :
    ⦃fun w => ⌜w = w₁⌝⦄ recordCopy dv mapper input output bytes
    ⦃World.CopiedOnly (· = ⟨mapper, input, output⟩) w₁⦄ := by
  apply triple_of_run
  rintro w rfl
  by_cases hd : ∃ d, w.bodyAt dv = some (.device d)
  · obtain ⟨d, hd⟩ := hd
    rw [run_recordCopy hd]
    cases hr : (d.copies.record ⟨mapper, input, output⟩ bytes).1 with
    | ok l => exact (CopiesOnly.record hd _ bytes).2 l hr
    | error e => exact (CopiesOnly.record hd _ bytes).1
  · -- without a device the read fails, leaving the world as it was
    have hread := of_triple (@device_reads w dv) rfl
    simp only [recordCopy, EStateM.run_bind]
    split at hread
    · next d _ hrun => exact absurd ⟨d, hread.2⟩ hd
    · next hrun =>
      rw [hrun, hread.1]
      exact CopiesOnly.refl _ w

end Device

end MemBridge
