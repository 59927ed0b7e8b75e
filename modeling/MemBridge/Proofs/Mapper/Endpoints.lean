import MemBridge.Proofs.Context.History

/-!
Which mapper each end of a resolution registers.

Resolving a list of contexts registers the mapper it builds in the first context and then in the
last one. A context registers what it is handed only when no live mapper is registered there
under the key; otherwise it keeps its own and hands that back. The resolution hands back what the
first context registered and drops what the last one answered. So the first context always has
the resolved mapper registered under the key, and the last one has it only when it had no live
mapper of its own there: one it registered before, for instance when it was asked for the pair
directly, stays registered in its place (`ends_register_or_keep_earlier`,
`last_end_keeps_earlier_mapper`).
-/

namespace MemBridge

open Std.Do

set_option mvcgen.warning false

-- A lemma of this module reaches `mvcgen` through a `have` (`specN`): named in the list, it would
-- make the proof wait until that lemma's own proof is checked. Where `grind` or `simp_all`
-- follows, the binding is cleared first, so that they do not take it up as a hypothesis.

namespace World

def registeredAt (w : World) (r : Ref) (key : MapperKey) : Option Ref :=
  match w.bodyAt r with
  | some (.context x) => x.registry.lookup key
  | _ => none

variable {w w' : World} {r : Ref} {key : MapperKey}

theorem registeredAt_of_sameObjects (h : w.SameObjects w') : w'.registeredAt = w.registeredAt := by
  funext r key
  have hctx : ∀ x, w'.bodyAt r = some (.context x) ↔ w.bodyAt r = some (.context x) :=
    fun x => h.2 r (.context x) (by simp [Body.variant])
  unfold registeredAt
  split
  · next x hx => rw [(hctx x).1 hx]
  · next hne =>
    split
    · next x hx => exact absurd ((hctx x).2 hx) (hne x)
    · rfl

theorem registeredAt_setStrong {q : Ref} {n : Node} (hn : w.nodes[q]? = some n) (k : Nat) :
    (w.setStrong q n k).registeredAt = w.registeredAt :=
  registeredAt_of_sameObjects (SameObjects.setStrong hn k)

theorem registeredAt_setBody_of_ne {r' : Ref} (b : Body) (hne : r' ≠ r) :
    (w.setBody r b).registeredAt r' key = w.registeredAt r' key := by
  simp [registeredAt, bodyAt_setBody_of_ne _ hne]

theorem registeredAt_of_liveEntry {m : Ref} (h : w.LiveEntry r key m) :
    w.registeredAt r key = some m := by
  obtain ⟨x, hx, hl, -⟩ := h
  simp [registeredAt, hx, hl]

theorem lookup_insertEntry (reg : List (MapperKey × Ref)) (key : MapperKey) (m : Ref) :
    (w.insertEntry reg key m).lookup key = some m := by
  unfold insertEntry
  generalize reg.filter (fun e => decide (0 < w.strongAt e.2)) = live
  induction live with
  | nil => simp
  | cons e live ih =>
    obtain ⟨k, v⟩ := e
    by_cases hk : k = key
    · simpa [List.filter_cons, hk] using ih
    · have hne : (key == k) = false := beq_false_of_ne (Ne.symm hk)
      simpa [List.filter_cons, hk, List.lookup, hne] using ih

theorem registeredAt_insert {x : Context} (hr : w.bodyAt r = some (.context x)) (m : Ref) :
    (w.setBody r (.context { x with registry := w.insertEntry x.registry key m })).registeredAt
      r key = some m := by
  simp [registeredAt, bodyAt_setBody_of_lt _ (lt_size_of_bodyAt hr), lookup_insertEntry]

end World

namespace Act

def answer {α : Type} (x : Act α) (w : World) : Option α :=
  match x.run w with
  | .ok a _ => some a
  | .error _ _ => none

end Act

namespace Context

open Act World

variable {w₁ : World}

theorem register_records (r : Ref) (key : MapperKey) (m : Ref) :
    ⦃fun w => ⌜w = w₁⌝⦄ register r key m
    ⦃post⟨fun m' w => ⌜w.registeredAt r key = some m' ∧
        ∀ r' k, w.registeredAt r' k = w₁.registeredAt r' k ∨ m' = m ∧ r' = r⌝,
      fun _ _ => ⌜True⌝⟩⦄ := by
  unfold register
  mvcgen [registeredMapper_finds, insertMapper_sets, release_drops]
  case vc1.post.success.h_1.post.success =>
    -- a live mapper is registered: its count goes up and the handed one is released
    rename_i e _ w₂ hfind _ w₃ hrel
    obtain ⟨hlive, n, hn, rfl⟩ := hfind.2 e rfl
    subst_vars
    rw [registeredAt_of_sameObjects hrel,
      registeredAt_of_sameObjects (SameObjects.setStrong hn (n.strong + 1))]
    exact ⟨registeredAt_of_liveEntry hlive, fun _ _ => .inl rfl⟩
  all_goals grind [registeredAt_insert, registeredAt_setBody_of_ne]

end Context

namespace World

theorem ends_registered {w₁ w₂ w₃ : World} {first last : Ref} {key : MapperKey} {m m₁ m₂ : Ref}
    (h₁ : w₂.registeredAt first key = some m₁)
    (hk₁ : ∀ r k, w₂.registeredAt r k = w₁.registeredAt r k ∨ m₁ = m ∧ r = first)
    (h₂ : w₃.registeredAt last key = some m₂)
    (hk₂ : ∀ r k, w₃.registeredAt r k = w₂.registeredAt r k ∨ m₂ = m₁ ∧ r = last) :
    w₃.registeredAt first key = some m₁ ∧ (w₃.registeredAt last key = some m₁ ∨ first ≠ last ∧
      ∃ e, w₁.registeredAt last key = some e ∧ w₃.registeredAt last key = some e) := by
  have hfirst := hk₂ first key
  have hlast := hk₂ last key
  have hlast₁ := hk₁ last key
  grind

end World

namespace Mapper

open Act World

variable {w₁ : World}

/-- Registering a mapper at both ends of a resolution leaves the first context with the mapper
handed back registered under the key, and the last context with it too, unless the two contexts
differ and the last one keeps the mapper it had registered under the key before. -/
theorem ends_register_or_keep_earlier (first last : Ref) (key : MapperKey) (m : Ref) :
    ⦃fun w => ⌜w = w₁⌝⦄ registerEnds first last key m
    ⦃post⟨fun m' w => ⌜w.registeredAt first key = some m' ∧
        (w.registeredAt last key = some m' ∨ first ≠ last ∧
          ∃ e, w₁.registeredAt last key = some e ∧ w.registeredAt last key = some e)⌝,
      fun _ _ => ⌜True⌝⟩⦄ := by
  unfold registerEnds
  have spec1 := @Context.register_records
  mvcgen [spec1, -Act.retain_spec, retain_bumps, -Act.release_spec,
    release_drops]
  clear spec1
  rename_i w₀ h₀ m₁ w₂ h₁ _ w₃ hretain m₂ w₄ h₂ _ w₅ hrel
  obtain ⟨n, hn, rfl⟩ := hretain
  subst h₀
  rw [registeredAt_of_sameObjects hrel]
  rw [registeredAt_setStrong hn] at h₂
  exact ends_registered h₁.1 h₁.2 h₂.1 h₂.2

def vaDmaDeviceWorld : World where
  nodes := #[⟨1, .device { serial := 0, config := {}, allocator := 0 }⟩,
    ⟨1, .context ⟨1, none, .vaapi 0 16, []⟩⟩, ⟨1, .context ⟨2, none, .dma 0, []⟩⟩]

/-- `vaDmaDeviceWorld` once the DMA context has registered a mapper (3) from the VA-API context to
itself, which holds both contexts and the device. -/
def vaDmaRegisteredWorld : World where
  nodes := #[⟨2, .device { serial := 0, config := {}, allocator := 0 }⟩,
    ⟨2, .context ⟨1, none, .vaapi 0 16, []⟩⟩, ⟨2, .context ⟨2, none, .dma 0, [(⟨1, 2, none⟩, 3)]⟩⟩,
    ⟨1, .mapper (.direct .vaapiToDma 1 2 (some 0))⟩]

/-- The DMA context, asked for a mapper from the VA-API context to itself, registers one (3).
Resolving the two contexts afterwards registers another (4) in the VA-API context and hands that
back, while the DMA context keeps its own, still alive. -/
theorem last_end_keeps_earlier_mapper :
    (Context.getMapper 2 1 2).run vaDmaDeviceWorld = .ok (some 3) vaDmaRegisteredWorld ∧
      (resolve [1, 2] none).answer vaDmaRegisteredWorld = some 4 ∧
      ((resolve [1, 2] none).after vaDmaRegisteredWorld).registeredAt 1 ⟨1, 2, none⟩ = some 4 ∧
      ((resolve [1, 2] none).after vaDmaRegisteredWorld).registeredAt 2 ⟨1, 2, none⟩ = some 3 ∧
      0 < ((resolve [1, 2] none).after vaDmaRegisteredWorld).strongAt 3 :=
  -- the resolution is evaluated by the kernel, which shares the worlds it passes along
  ⟨rfl, by decide +kernel, by decide +kernel, by decide +kernel, by decide +kernel⟩

end Mapper

end MemBridge
