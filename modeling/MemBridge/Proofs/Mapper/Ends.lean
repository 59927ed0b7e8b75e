import MemBridge.Proofs.Mapper.Nesting

/-!
The contexts a mapper runs between.

`World.InputIs w m i` says that mapper `m` reads from context `i`, and `World.OutputIs w m o`
that it writes to context `o`: an identity and a direct route name their contexts, a chain
reads where its first link reads and writes where its last link writes, and a cache runs
between the contexts of the mapper it fronts. These are what `Mapper.input` and
`Mapper.output` compute when mappers are nested, and a mapper has one input and one output.

Both look only at what mappers run, not at what a cache has learnt, so a world that keeps the
skeleton of every mapper (`World.KeepsSkeletons`) keeps them.
-/

namespace MemBridge

namespace World

/-- Mapper `m` reads from context `i`. -/
inductive InputIs (w : World) : Ref → Ref → Prop
  | identity {m c : Ref} : w.bodyAt m = some (.mapper (.identity c)) → w.InputIs m c
  | direct {m i o : Ref} {route : Route} {d : Option Ref} :
      w.bodyAt m = some (.mapper (.direct route i o d)) → w.InputIs m i
  | chain {m l i : Ref} {rest : List Ref} {name : String} :
      w.bodyAt m = some (.mapper (.chain (l :: rest) name)) → w.InputIs l i → w.InputIs m i
  | cache {m i : Ref} {c : Cache} :
      w.bodyAt m = some (.mapper (.cache c)) → w.InputIs c.inner i → w.InputIs m i

/-- Mapper `m` writes to context `o`. -/
inductive OutputIs (w : World) : Ref → Ref → Prop
  | identity {m c : Ref} : w.bodyAt m = some (.mapper (.identity c)) → w.OutputIs m c
  | direct {m i o : Ref} {route : Route} {d : Option Ref} :
      w.bodyAt m = some (.mapper (.direct route i o d)) → w.OutputIs m o
  | chain {m l o : Ref} {links : List Ref} {name : String} :
      w.bodyAt m = some (.mapper (.chain links name)) → links.getLast? = some l →
        w.OutputIs l o → w.OutputIs m o
  | cache {m o : Ref} {c : Cache} :
      w.bodyAt m = some (.mapper (.cache c)) → w.OutputIs c.inner o → w.OutputIs m o

def KeepsSkeletons (w w' : World) : Prop :=
  ∀ r m, w.bodyAt r = some (.mapper m) →
    ∃ m', w'.bodyAt r = some (.mapper m') ∧ m'.skeleton = m.skeleton

end World

namespace Mapper

/-! What a skeleton pins down: a mapper that is no cache is its own skeleton, and a cache keeps
what it fronts and its policy. -/

theorem skeleton_eq_identity {m : Mapper} {c : Ref}
    (h : m.skeleton = (Mapper.identity c).skeleton) : m = .identity c := by
  cases m <;> simp_all [skeleton]

theorem skeleton_eq_direct {m : Mapper} {route : Route} {i o : Ref} {d : Option Ref}
    (h : m.skeleton = (Mapper.direct route i o d).skeleton) : m = .direct route i o d := by
  cases m <;> simp_all [skeleton]

theorem skeleton_eq_chain {m : Mapper} {links : List Ref} {name : String}
    (h : m.skeleton = (Mapper.chain links name).skeleton) : m = .chain links name := by
  cases m <;> simp_all [skeleton]

theorem skeleton_eq_cache {m : Mapper} {c : Cache}
    (h : m.skeleton = (Mapper.cache c).skeleton) :
    ∃ c', m = .cache c' ∧ c'.inner = c.inner ∧ c'.policy = c.policy := by
  cases m with
  | cache c' =>
    simp only [skeleton_cache, Mapper.cache.injEq, Cache.mk.injEq] at h
    exact ⟨c', rfl, h.1, h.2.1⟩
  | _ => simp [skeleton] at h

end Mapper

namespace World

variable {w w' : World} {m i o : Ref}

theorem InputIs.exists_mapper (h : w.InputIs m i) : ∃ x, w.bodyAt m = some (.mapper x) := by
  cases h <;> exact ⟨_, by assumption⟩

theorem OutputIs.exists_mapper (h : w.OutputIs m o) : ∃ x, w.bodyAt m = some (.mapper x) := by
  cases h <;> exact ⟨_, by assumption⟩

theorem InputIs.unique {i' : Ref} (h : w.InputIs m i) (h' : w.InputIs m i') : i = i' := by
  induction h generalizing i' with
  | identity hm => cases h' <;> simp_all
  | direct hm => cases h' <;> simp_all
  | chain hm _ ih =>
    cases h' with
    | chain hm' hl => simp only [hm, Option.some.injEq, Body.mapper.injEq, Mapper.chain.injEq,
        List.cons.injEq] at hm'; exact ih (hm'.1.1 ▸ hl)
    | _ => simp_all
  | cache hm _ ih =>
    cases h' with
    | cache hm' hi => simp only [hm, Option.some.injEq, Body.mapper.injEq,
        Mapper.cache.injEq] at hm'; exact ih (hm' ▸ hi)
    | _ => simp_all

theorem OutputIs.unique {o' : Ref} (h : w.OutputIs m o) (h' : w.OutputIs m o') : o = o' := by
  induction h generalizing o' with
  | identity hm => cases h' <;> simp_all
  | direct hm => cases h' <;> simp_all
  | chain hm hl _ ih =>
    cases h' with
    | chain hm' hl' ho => simp only [hm, Option.some.injEq, Body.mapper.injEq,
        Mapper.chain.injEq] at hm'; rw [← hm'.1, hl] at hl'; exact ih (Option.some.inj hl' ▸ ho)
    | _ => simp_all
  | cache hm _ ih =>
    cases h' with
    | cache hm' ho => simp only [hm, Option.some.injEq, Body.mapper.injEq,
        Mapper.cache.injEq] at hm'; exact ih (hm' ▸ ho)
    | _ => simp_all

theorem InputIs.of_keeps (hk : w.KeepsSkeletons w') (h : w.InputIs m i) : w'.InputIs m i := by
  induction h with
  | identity hm =>
    obtain ⟨m', hm', hs⟩ := hk _ _ hm
    exact .identity (Mapper.skeleton_eq_identity hs ▸ hm')
  | direct hm =>
    obtain ⟨m', hm', hs⟩ := hk _ _ hm
    exact .direct (Mapper.skeleton_eq_direct hs ▸ hm')
  | chain hm _ ih =>
    obtain ⟨m', hm', hs⟩ := hk _ _ hm
    exact .chain (Mapper.skeleton_eq_chain hs ▸ hm') ih
  | cache hm _ ih =>
    obtain ⟨m', hm', hs⟩ := hk _ _ hm
    obtain ⟨c', rfl, hinner, -⟩ := Mapper.skeleton_eq_cache hs
    exact .cache hm' (hinner ▸ ih)

theorem OutputIs.of_keeps (hk : w.KeepsSkeletons w') (h : w.OutputIs m o) : w'.OutputIs m o := by
  induction h with
  | identity hm =>
    obtain ⟨m', hm', hs⟩ := hk _ _ hm
    exact .identity (Mapper.skeleton_eq_identity hs ▸ hm')
  | direct hm =>
    obtain ⟨m', hm', hs⟩ := hk _ _ hm
    exact .direct (Mapper.skeleton_eq_direct hs ▸ hm')
  | chain hm hl _ ih =>
    obtain ⟨m', hm', hs⟩ := hk _ _ hm
    exact .chain (Mapper.skeleton_eq_chain hs ▸ hm') hl ih
  | cache hm _ ih =>
    obtain ⟨m', hm', hs⟩ := hk _ _ hm
    obtain ⟨c', rfl, hinner, -⟩ := Mapper.skeleton_eq_cache hs
    exact .cache hm' (hinner ▸ ih)

end World

/-! ## What `Mapper.input` and `Mapper.output` compute -/

namespace Act

variable {w w' : World} {r : Ref}

theorem mapper_run_ok {m : Mapper} (hr : (mapper r).run w = .ok m w') :
    w.bodyAt r = some (.mapper m) ∧ w' = w := by
  simp only [mapper, body, node] at hr
  cases hn : w.nodes[r]? with
  | none => simp [hn] at hr
  | some n => cases hb : n.body <;> simp_all [World.bodyAt]

theorem context_run_ok {c : Context} (hr : (context r).run w = .ok c w') :
    w.bodyAt r = some (.context c) ∧ w' = w := by
  simp only [context, body, node] at hr
  cases hn : w.nodes[r]? with
  | none => simp [hn] at hr
  | some n => cases hb : n.body <;> simp_all [World.bodyAt]

end Act

namespace Mapper

open Act World

variable {w w' : World} {m i o : Ref}

theorem run_inputOf (hn : w.MappersNested) (h : w.InputIs m i) :
    ∀ fuel : Nat, m < fuel → (inputOf m fuel).run w = .ok i w := by
  induction h with
  | identity hm =>
    rintro (_ | fuel) hf
    · exact absurd hf (Nat.not_lt_zero _)
    · simp [inputOf, run_mapper hm]
  | direct hm =>
    rintro (_ | fuel) hf
    · exact absurd hf (Nat.not_lt_zero _)
    · simp [inputOf, run_mapper hm]
  | chain hm _ ih =>
    rintro (_ | fuel) hf
    · exact absurd hf (Nat.not_lt_zero _)
    · -- the first link is older than the chain, so one step less fuel still reaches it
      have hl := hn.link_lt hm List.mem_cons_self
      simp [inputOf, run_mapper hm, ih fuel (Nat.lt_of_lt_of_le hl (Nat.le_of_lt_succ hf))]
  | cache hm _ ih =>
    rintro (_ | fuel) hf
    · exact absurd hf (Nat.not_lt_zero _)
    · have hl := hn.inner_lt hm
      simp [inputOf, run_mapper hm, ih fuel (Nat.lt_of_lt_of_le hl (Nat.le_of_lt_succ hf))]

theorem run_outputOf (hn : w.MappersNested) (h : w.OutputIs m o) :
    ∀ fuel : Nat, m < fuel → (outputOf m fuel).run w = .ok o w := by
  induction h with
  | identity hm =>
    rintro (_ | fuel) hf
    · exact absurd hf (Nat.not_lt_zero _)
    · simp [outputOf, run_mapper hm]
  | direct hm =>
    rintro (_ | fuel) hf
    · exact absurd hf (Nat.not_lt_zero _)
    · simp [outputOf, run_mapper hm]
  | chain hm hl _ ih =>
    rintro (_ | fuel) hf
    · exact absurd hf (Nat.not_lt_zero _)
    · have hlt := hn.link_lt hm (List.mem_of_getLast? hl)
      simp [outputOf, run_mapper hm, hl,
        ih fuel (Nat.lt_of_lt_of_le hlt (Nat.le_of_lt_succ hf))]
  | cache hm _ ih =>
    rintro (_ | fuel) hf
    · exact absurd hf (Nat.not_lt_zero _)
    · have hl := hn.inner_lt hm
      simp [outputOf, run_mapper hm, ih fuel (Nat.lt_of_lt_of_le hl (Nat.le_of_lt_succ hf))]

theorem inputOf_run_ok (fuel : Nat) :
    ∀ {m i : Ref}, (inputOf m fuel).run w = .ok i w' → w' = w ∧ w.InputIs m i := by
  induction fuel with
  | zero => intro m i h; simp [inputOf] at h
  | succ fuel ih =>
    intro m i h
    simp only [inputOf, EStateM.run_bind] at h
    split at h
    · next x w₁ hx =>
      obtain ⟨hm, rfl⟩ := mapper_run_ok hx
      cases x with
      | identity c => simp at h; exact ⟨h.2.symm, h.1 ▸ .identity hm⟩
      | direct route i' o' d => simp at h; exact ⟨h.2.symm, h.1 ▸ .direct hm⟩
      | chain links name =>
        cases links with
        | nil => simp at h
        | cons l rest =>
          obtain ⟨rfl, hl⟩ := ih h
          exact ⟨rfl, .chain hm hl⟩
      | cache c =>
        obtain ⟨rfl, hc⟩ := ih h
        exact ⟨rfl, .cache hm hc⟩
    · simp at h

theorem outputOf_run_ok (fuel : Nat) :
    ∀ {m o : Ref}, (outputOf m fuel).run w = .ok o w' → w' = w ∧ w.OutputIs m o := by
  induction fuel with
  | zero => intro m o h; simp [outputOf] at h
  | succ fuel ih =>
    intro m o h
    simp only [outputOf, EStateM.run_bind] at h
    split at h
    · next x w₁ hx =>
      obtain ⟨hm, rfl⟩ := mapper_run_ok hx
      cases x with
      | identity c => simp at h; exact ⟨h.2.symm, h.1 ▸ .identity hm⟩
      | direct route i' o' d => simp at h; exact ⟨h.2.symm, h.1 ▸ .direct hm⟩
      | chain links name =>
        cases hl : links.getLast? with
        | none => simp [hl] at h
        | some l =>
          simp only [hl] at h
          obtain ⟨rfl, ho⟩ := ih h
          exact ⟨rfl, .chain hm hl ho⟩
      | cache c =>
        obtain ⟨rfl, hc⟩ := ih h
        exact ⟨rfl, .cache hm hc⟩
    · simp at h

theorem run_input (hn : w.MappersNested) (h : w.InputIs m i) :
    (input m).run w = .ok i w := by
  obtain ⟨x, hx⟩ := h.exists_mapper
  have hlt := lt_size_of_bodyAt hx
  simp [input, depth, run_inputOf hn h _ (Nat.lt_succ_of_lt hlt)]

theorem run_output (hn : w.MappersNested) (h : w.OutputIs m o) :
    (output m).run w = .ok o w := by
  obtain ⟨x, hx⟩ := h.exists_mapper
  have hlt := lt_size_of_bodyAt hx
  simp [output, depth, run_outputOf hn h _ (Nat.lt_succ_of_lt hlt)]

theorem input_run_ok (h : (input m).run w = .ok i w') : w' = w ∧ w.InputIs m i := by
  simp only [input, depth, EStateM.run_bind] at h
  exact inputOf_run_ok _ h

theorem output_run_ok (h : (output m).run w = .ok o w') : w' = w ∧ w.OutputIs m o := by
  simp only [output, depth, EStateM.run_bind] at h
  exact outputOf_run_ok _ h

end Mapper

end MemBridge
