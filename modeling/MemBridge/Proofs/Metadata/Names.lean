import MemBridge.Proofs.Metadata.Records
import MemBridge.Proofs.Store.Adds

/-!
Names of a frame's dictionaries.

A frame finds, replaces and removes a dictionary by the first one of its name, so a name stands
for one dictionary only while no two dictionaries of the frame share it
(`Frame.NamesDistinct`). Adding a name, setting or attaching a dictionary, removing one,
clearing them all and copying another frame's keep the names distinct: each looks the name up
before it inserts, and a replaced dictionary gives its place to one of the same name. Changing a
dictionary in place (`Frame.withMetadata`) puts back whatever the change leaves, so the names
stay distinct exactly when the change keeps the dictionary's name or gives it one the frame does
not use (`Frame.withMetadata_names_iff`). Nothing stops a change from taking the name of another
dictionary, and then two dictionaries share it (`renaming_in_place_repeats_a_name`).

Main statement: `metadata_names_stay_distinct`, along any history of metadata operations whose
changes in place rename only to unused names.
-/

namespace MemBridge

open Std.Do

set_option mvcgen.warning false

-- A lemma of this module reaches `mvcgen` through a `have` (`specN`): named in the list, it would
-- make the proof wait until that lemma's own proof is checked. Where `grind` or `simp_all`
-- follows, the binding is cleared first, so that they do not take it up as a hypothesis.

namespace Frame

def names (f : Frame) : List String := f.metadata.map (·.name)

def NamesDistinct (f : Frame) : Prop := f.names.Nodup

theorem span_name_cons {ds : List Dictionary} {n : String} {old : Dictionary}
    {rest : List Dictionary} (h : (ds.span (·.name != n)).2 = old :: rest) :
    old.name = n ∧ ds = (ds.span (·.name != n)).1 ++ old :: rest := by
  rw [List.span_eq_takeWhile_dropWhile] at h ⊢
  dsimp only at h ⊢
  refine ⟨?_, by rw [← h, List.takeWhile_append_dropWhile]⟩
  have := @List.head_dropWhile_not _ (·.name != n) ds (by simp [h])
  simpa [h] using this

theorem span_name_of_find {ds : List Dictionary} {n : String} {d : Dictionary}
    (h : ds.find? (·.name == n) = some d) : ∃ rest, (ds.span (·.name != n)).2 = d :: rest := by
  obtain ⟨hd, before, rest, rfl, hbefore⟩ := List.find?_eq_some_iff_append.1 h
  refine ⟨rest, ?_⟩
  rw [List.span_eq_takeWhile_dropWhile, List.dropWhile_append_of_pos (by simpa using hbefore)]
  simp_all

theorem span_name_nil {ds : List Dictionary} {n : String} (h : (ds.span (·.name != n)).2 = []) :
    n ∉ ds.map (·.name) := by
  rw [List.span_eq_takeWhile_dropWhile] at h
  have := List.dropWhile_eq_nil_iff.1 h
  simp only [List.mem_map, not_exists, not_and]
  intro d hd
  simpa using this d hd

theorem nodup_replace_iff {l₁ l₂ : List String} {a b : String} (h : (l₁ ++ a :: l₂).Nodup) :
    (l₁ ++ b :: l₂).Nodup ↔ b = a ∨ b ∉ l₁ ++ a :: l₂ := by
  rw [List.nodup_middle, List.nodup_cons] at h ⊢
  grind

@[simp] theorem names_metadata (f : Frame) (ds : List Dictionary) :
    ({ f with metadata := ds } : Frame).names = ds.map (·.name) := rfl

theorem namesDistinct_append {f : Frame} {d : Dictionary} (hf : f.NamesDistinct)
    (hd : d.name ∉ f.names) :
    ({ f with metadata := f.metadata ++ [d] } : Frame).NamesDistinct := by
  simp only [NamesDistinct, names_metadata, List.map_append, List.map_cons, List.map_nil]
  exact hf.append (List.nodup_singleton _) (by simpa [names] using hd)

theorem namesDistinct_add {f : Frame} {n : String} (hf : f.NamesDistinct)
    (hn : ¬ (f.metadata.any (·.name == n)) = true) :
    ({ f with metadata := f.metadata ++ [Dictionary.empty n] } : Frame).NamesDistinct := by
  refine namesDistinct_append hf ?_
  simpa [names] using hn

theorem namesDistinct_replace_iff {f : Frame} {before rest : List Dictionary} {old : Dictionary}
    (d : Dictionary) (hf : f.NamesDistinct) (hds : f.metadata = before ++ old :: rest) :
    ({ f with metadata := before ++ d :: rest } : Frame).NamesDistinct ↔
      d.name = old.name ∨ d.name ∉ f.names := by
  have hf' : (before.map (·.name) ++ old.name :: rest.map (·.name)).Nodup := by
    simpa [NamesDistinct, names, hds] using hf
  simp only [NamesDistinct, names_metadata, List.map_append, List.map_cons]
  rw [nodup_replace_iff hf']
  simp [names, hds]

theorem namesDistinct_set_found {f : Frame} {d old : Dictionary} (hf : f.NamesDistinct)
    (hfind : f.metadata.find? (·.name == d.name) = some old) :
    ({ f with metadata := (f.metadata.span (·.name != d.name)).1 ++
        d :: (f.metadata.span (·.name != d.name)).2.drop 1 } : Frame).NamesDistinct := by
  cases hsplit : (f.metadata.span (·.name != d.name)).2 with
  | nil =>
    -- the dictionary found has the name, so the split cannot run to the end
    have hmem := List.mem_of_find?_eq_some hfind
    have hname : old.name = d.name := by simpa using List.find?_some hfind
    exact absurd (List.mem_map.2 ⟨old, hmem, rfl⟩) (hname ▸ span_name_nil hsplit)
  | cons old' rest =>
    obtain ⟨hname, hds⟩ := span_name_cons hsplit
    exact (namesDistinct_replace_iff d hf hds).2 (.inl hname.symm)

theorem namesDistinct_set_new {f : Frame} {d : Dictionary} (hf : f.NamesDistinct)
    (hfind : f.metadata.find? (·.name == d.name) = none) :
    ({ f with metadata := f.metadata ++ [d] } : Frame).NamesDistinct := by
  refine namesDistinct_append hf ?_
  simpa [names] using hfind

theorem namesDistinct_erase {f : Frame} {before rest : List Dictionary} {old : Dictionary}
    (hf : f.NamesDistinct) (hds : f.metadata = before ++ old :: rest) :
    ({ f with metadata := before ++ rest } : Frame).NamesDistinct := by
  have hsub : List.Sublist ((before ++ rest).map (·.name)) f.names := by
    simp only [names, hds, List.map_append, List.map_cons]
    exact List.Sublist.append_left (List.sublist_cons_self _ _) _
  exact hf.sublist hsub

theorem find_name_of_distinct {f : Frame} {d : Dictionary} (hf : f.NamesDistinct)
    (hd : d ∈ f.metadata) : f.metadata.find? (·.name == d.name) = some d := by
  have hsome : (f.metadata.find? (·.name == d.name)).isSome :=
    List.find?_isSome.2 ⟨d, hd, by simp⟩
  obtain ⟨d', hfind⟩ := Option.isSome_iff_exists.1 hsome
  have hname : d'.name = d.name := by
    have := List.find?_some hfind
    simpa using this
  rw [hfind, List.inj_on_of_nodup_map hf (List.mem_of_find?_eq_some hfind) hd hname]

theorem find_name_after_erase {f : Frame} {before rest : List Dictionary} {d : Dictionary}
    (hf : f.NamesDistinct) (hds : f.metadata = before ++ d :: rest) :
    (before ++ rest).find? (·.name == d.name) = none := by
  have hnd : (d.name :: (before.map (·.name) ++ rest.map (·.name))).Nodup := by
    rw [← List.nodup_middle]
    simpa [NamesDistinct, names, hds] using hf
  rw [List.find?_eq_none]
  intro x hx hname
  have hx' : x.name ∈ before.map (·.name) ++ rest.map (·.name) := by
    rw [← List.map_append]
    exact List.mem_map_of_mem hx
  have hsame : x.name = d.name := by simpa using hname
  exact (List.nodup_cons.1 hnd).1 (hsame ▸ hx')

end Frame

namespace World

def NamesDistinct (w : World) : Prop :=
  ∀ r f, w.bodyAt r = some (.frame f) → f.NamesDistinct

variable {w w' : World}

theorem NamesDistinct.of_sameObjects (h : w.NamesDistinct) (hs : w.SameObjects w') :
    w'.NamesDistinct :=
  fun r f hf => h r f ((hs.2 r _ (by simp)).1 hf)

theorem NamesDistinct.setFrame (h : w.NamesDistinct) {r : Ref} {f : Frame}
    (hf : f.NamesDistinct) : (w.setBody r (.frame f)).NamesDistinct := by
  intro r' f' h'
  rw [bodyAt_setBody] at h'
  split at h'
  · cases h'
    exact hf
  · exact h r' f' h'

theorem namesDistinct_iff_of_sameObjects (hs : w.SameObjects w') :
    w'.NamesDistinct ↔ w.NamesDistinct :=
  ⟨fun h r f hf => h r f ((hs.2 r _ (by simp)).2 hf), fun h => h.of_sameObjects hs⟩

theorem namesDistinct_setFrame_iff (h : w.NamesDistinct) {r : Ref} {f : Frame}
    (hr : r < w.nodes.size) : (w.setBody r (.frame f)).NamesDistinct ↔ f.NamesDistinct :=
  ⟨fun h' => h' r f (bodyAt_setBody_of_lt _ hr), h.setFrame⟩

end World

abbrev World.NamesKept {α : Type} : PostCond α (.except Fault (.arg World .pure)) :=
  post⟨fun _ w => ⌜w.NamesDistinct⌝, fun _ w => ⌜w.NamesDistinct⌝⟩

namespace World

/-- Changing the dictionary of a name of frame `r` in place with `g` keeps that name, or gives
the dictionary one the frame does not use. -/
def RenamesFreshly {α : Type} (w : World) (r : Ref) (name : String)
    (g : Dictionary → α × Dictionary) : Prop :=
  ∀ f d, w.bodyAt r = some (.frame f) → f.metadata.find? (·.name == name) = some d →
    (g d).2.name = name ∨ (g d).2.name ∉ f.names

theorem RenamesFreshly.of_sameObjects {α : Type} {w w' : World} {r : Ref} {name : String}
    {g : Dictionary → α × Dictionary} (h : w.RenamesFreshly r name g) (hs : w.SameObjects w') :
    w'.RenamesFreshly r name g :=
  fun f d hf hd => h f d ((hs.2 r _ (by simp)).1 hf) hd

end World

theorem Act.sameObjects_releaseAll_after (rs : List Ref) (w : World) :
    w.SameObjects ((Act.releaseAll rs).after w) :=
  Act.after_of_run (of_triple (@Act.releaseAll_drops w rs) rfl) (fun _ _ h => h)
    (fun _ _ h => h.1)

namespace Frame

open Act World

theorem releaseAll_names (rs : List Ref) :
    ⦃fun w => ⌜w.NamesDistinct⌝⦄ releaseAll rs ⦃World.NamesKept⦄ := by
  mvcgen [-Act.releaseAll_spec, releaseAll_drops] <;> grind [NamesDistinct.of_sameObjects]

theorem keepDictionary_same {w₁ : World} (d : Dictionary) :
    ⦃fun w => ⌜w = w₁⌝⦄ keepDictionary d
    ⦃post⟨fun _ w => ⌜w₁.SameObjects w⌝, fun _ w => ⌜w₁.SameObjects w⌝⟩⦄ := by
  mvcgen [keepDictionary, -Act.retain_spec, retain_bumps]
  case inv1 =>
    exact post⟨fun _ w => ⌜w₁.SameObjects w⌝, fun _ w => ⌜w₁.SameObjects w⌝⟩
  all_goals grind [SameObjects.setStrong]

theorem keepDictionary_names (d : Dictionary) :
    ⦃fun w => ⌜w.NamesDistinct⌝⦄ keepDictionary d ⦃World.NamesKept⦄ := by
  have spec1 := @keepDictionary_same
  mvcgen [spec1] <;> clear spec1 <;> grind [NamesDistinct.of_sameObjects]

theorem modifyFrame_names (r : Ref) (fn : Frame → Frame) :
    ⦃fun w => ⌜w.NamesDistinct ∧
      ∃ f, w.bodyAt r = some (.frame f) ∧ (fn f).NamesDistinct⌝⦄
    modifyFrame r fn ⦃World.NamesKept⦄ := by
  mvcgen [-Act.modifyFrame_spec, Act.modifyFrame_sets] <;> grind [NamesDistinct.setFrame]

theorem addMetadata_names (r : Ref) (name : String) :
    ⦃fun w => ⌜w.NamesDistinct⌝⦄ addMetadata r name ⦃World.NamesKept⦄ := by
  have spec1 := @modifyFrame_names
  mvcgen [addMetadata, -Act.frame_spec, Act.frame_reads, -Act.modifyFrame_spec, spec1] <;>
    clear spec1
  case isFalse hd f hadd _ hs =>
    -- the frame has no dictionary of the name
    obtain ⟨rfl, hf⟩ := hs
    exact ⟨hd, f, hf, namesDistinct_add (hd r f hf) hadd⟩
  all_goals grind

theorem setMetadata_names (r : Ref) (d : Dictionary) :
    ⦃fun w => ⌜w.NamesDistinct⌝⦄ setMetadata r d ⦃World.NamesKept⦄ := by
  have spec1 := @modifyFrame_names
  have spec2 := @releaseAll_names
  mvcgen [setMetadata, -Act.frame_spec, Act.frame_reads, -Act.modifyFrame_spec, spec1,
    -dropDictionary_spec, dropDictionary, -Act.releaseAll_spec, spec2] <;> clear spec1 spec2
  case pre hd f old hfind _ hs =>
    obtain ⟨rfl, hf⟩ := hs
    exact ⟨hd, f, hf, namesDistinct_set_found (hd r f hf) hfind⟩
  case h_2 hd f hfind _ hs =>
    obtain ⟨rfl, hf⟩ := hs
    exact ⟨hd, f, hf, namesDistinct_set_new (hd r f hf) hfind⟩
  all_goals grind

theorem attach_names (r : Ref) (d : Dictionary) :
    ⦃fun w => ⌜w.NamesDistinct⌝⦄ attach r d ⦃World.NamesKept⦄ := by
  have spec1 := @keepDictionary_names
  have spec2 := @setMetadata_names
  mvcgen [attach, spec1, spec2]

theorem updateMetadata_names (r : Ref) (name : String) (d : Dictionary) :
    ⦃fun w => ⌜w.NamesDistinct ∧
      ∀ f, w.bodyAt r = some (.frame f) → d.name = name ∨ d.name ∉ f.names⌝⦄
    updateMetadata r name d ⦃World.NamesKept⦄ := by
  have spec1 := @modifyFrame_names
  have spec2 := @releaseAll_names
  mvcgen [updateMetadata, -Act.frame_spec, Act.frame_reads, -Act.modifyFrame_spec,
    spec1, -dropDictionary_spec, dropDictionary, -Act.releaseAll_spec,
    spec2] <;> clear spec1 spec2
  case pre hd f old rest hsplit _ hs =>
    obtain ⟨rfl, hf⟩ := hs
    obtain ⟨hname, hds⟩ := span_name_cons hsplit
    refine ⟨hd.1, f, hf, (namesDistinct_replace_iff d (hd.1 r f hf) hds).2 ?_⟩
    rw [hname]
    exact hd.2 f hf
  all_goals grind

theorem withMetadata_names {α : Type} (r : Ref) (name : String)
    (g : Dictionary → α × Dictionary) :
    ⦃fun w => ⌜w.NamesDistinct ∧ w.RenamesFreshly r name g⌝⦄ withMetadata r name g
    ⦃World.NamesKept⦄ := by
  have spec1 := @keepDictionary_same
  have spec2 := @updateMetadata_names
  mvcgen [withMetadata, findMetadata, -Act.frame_spec, Act.frame_reads, spec1,
    spec2] <;> clear spec1 spec2
  case pre hd f _ hs old hfind _ _ hsame =>
    obtain ⟨rfl, hf⟩ := hs
    refine ⟨hd.1.of_sameObjects hsame, fun f' hf' => ?_⟩
    -- taking references leaves the frame as it was
    obtain rfl : f = f' := by simpa [hf] using (hsame.2 r (.frame f') (by simp)).1 hf'
    exact hd.2 f old hf hfind
  all_goals grind [NamesDistinct.of_sameObjects]

theorem withMetadata_names_iff {α : Type} {w : World} {r : Ref} {f : Frame} {name : String}
    {d : Dictionary} (g : Dictionary → α × Dictionary) (hw : w.NamesDistinct)
    (hf : w.bodyAt r = some (.frame f)) (hd : f.metadata.find? (·.name == name) = some d)
    (ht : ∀ t ∈ (g d).2.tensors, t.id < w.nodes.size) :
    ((withMetadata r name g).after w).NamesDistinct ↔
      (g d).2.name = name ∨ (g d).2.name ∉ f.names := by
  obtain ⟨w₁, hkeep, hsame⟩ := retainEach_ok (g d).2.tensors ht
  have hf₁ : w₁.bodyAt r = some (.frame f) := (hsame.2 r _ (by simp)).2 hf
  obtain ⟨rest, hsplit⟩ := span_name_of_find hd
  obtain ⟨hname, hds⟩ := span_name_cons hsplit
  -- the change puts its dictionary in place and lets go of the old one's tensors
  have hafter : (withMetadata r name g).after w = (releaseAll (d.tensors.map (·.id))).after
      (w₁.setBody r (.frame { f with metadata :=
        (f.metadata.span (·.name != name)).1 ++ (g d).2 :: rest })) := by
    simp only [after, withMetadata, findMetadata, EStateM.run_bind, run_frame hf, EStateM.run_pure,
      hd, keepDictionary, hkeep, updateMetadata, run_frame hf₁, hsplit, run_modifyFrame hf₁,
      dropDictionary]
    generalize EStateM.run (releaseAll (d.tensors.map (·.id))) _ = res
    cases res <;> rfl
  rw [hafter, namesDistinct_iff_of_sameObjects (sameObjects_releaseAll_after _ _),
    namesDistinct_setFrame_iff (hw.of_sameObjects hsame) (lt_size_of_bodyAt hf₁),
    namesDistinct_replace_iff _ (hw r f hf) hds, hname]

theorem removeMetadata_names (r : Ref) (name : String) :
    ⦃fun w => ⌜w.NamesDistinct⌝⦄ removeMetadata r name ⦃World.NamesKept⦄ := by
  have spec1 := @modifyFrame_names
  mvcgen [removeMetadata, -Act.frame_spec, Act.frame_reads, -Act.modifyFrame_spec,
    spec1] <;> clear spec1
  case pre hd f old rest hsplit _ hs =>
    obtain ⟨rfl, hf⟩ := hs
    exact ⟨hd, f, hf, namesDistinct_erase (hd r f hf) (span_name_cons hsplit).2⟩
  all_goals grind

theorem clearMetadata_names (r : Ref) :
    ⦃fun w => ⌜w.NamesDistinct⌝⦄ clearMetadata r ⦃World.NamesKept⦄ := by
  have spec1 := @modifyFrame_names
  have spec2 := @releaseAll_names
  mvcgen [clearMetadata, -clearMetadata_spec, -Act.frame_spec, Act.frame_reads,
    -Act.modifyFrame_spec, spec1, -dropDictionary_spec, dropDictionary,
    -Act.releaseAll_spec, spec2] <;> clear spec1 spec2
  case inv1 => exact World.NamesKept
  case pre hd f _ hs =>
    obtain ⟨rfl, hf⟩ := hs
    exact ⟨hd, f, hf, List.nodup_nil⟩
  all_goals grind

theorem copyMetadata_names (r src : Ref) :
    ⦃fun w => ⌜w.NamesDistinct⌝⦄ copyMetadata r src ⦃World.NamesKept⦄ := by
  have spec1 := @keepDictionary_names
  have spec2 := @setMetadata_names
  mvcgen [copyMetadata, -Act.frame_spec, Act.frame_reads, spec1,
    spec2] <;> clear spec1 spec2
  case inv1 => exact World.NamesKept
  case inv2 => exact World.NamesKept
  all_goals grind

theorem run_findMetadata {w : World} {r : Ref} {f : Frame} (hf : w.bodyAt r = some (.frame f))
    (name : String) :
    (findMetadata r name).run w = .ok (f.metadata.find? (·.name == name)) w := by
  simp [findMetadata, run_frame hf]

theorem only_record_of_a_name {w : World} {r : Ref} {f : Frame} {d : Dictionary}
    (hf : w.bodyAt r = some (.frame f)) (hnames : f.NamesDistinct) (hd : d ∈ f.metadata) :
    (findMetadata r d.name).run w = .ok (some d) w ∧
      ∃ w', (removeMetadata r d.name).run w = .ok (some d) w' ∧
        (findMetadata r d.name).run w' = .ok none w' := by
  have hfind := find_name_of_distinct hnames hd
  obtain ⟨rest, hsplit⟩ := span_name_of_find hfind
  obtain ⟨-, hds⟩ := span_name_cons hsplit
  let f' : Frame := { f with metadata := (f.metadata.span (·.name != d.name)).1 ++ rest }
  have hf' : (w.setBody r (.frame f')).bodyAt r = some (.frame f') :=
    bodyAt_setBody_of_lt _ (lt_size_of_bodyAt hf)
  refine ⟨by rw [run_findMetadata hf, hfind], w.setBody r (.frame f'), ?_, ?_⟩
  · simp only [removeMetadata, EStateM.run_bind, run_frame hf, hsplit, run_modifyFrame hf,
      EStateM.run_pure, f']
  · rw [run_findMetadata hf', find_name_after_erase hnames hds]

end Frame

namespace World

/-- The worlds a history of metadata operations on frames reaches from one whose frames have
distinct names, every change in place renaming only to a name its frame does not use. Steps
that keep every object but devices, as taking and letting go of references do, may come
between. -/
inductive NamesReached : World → Prop
  | start {w : World} : w.NamesDistinct → NamesReached w
  | add {w : World} (r : Ref) (name : String) : NamesReached w →
      NamesReached ((Frame.addMetadata r name).after w)
  | set {w : World} (r : Ref) (d : Dictionary) : NamesReached w →
      NamesReached ((Frame.setMetadata r d).after w)
  | attach {w : World} (r : Ref) (d : Dictionary) : NamesReached w →
      NamesReached ((Frame.attach r d).after w)
  | change {w : World} {α : Type} (r : Ref) (name : String) (g : Dictionary → α × Dictionary) :
      NamesReached w → w.RenamesFreshly r name g →
      NamesReached ((Frame.withMetadata r name g).after w)
  | remove {w : World} (r : Ref) (name : String) : NamesReached w →
      NamesReached ((Frame.removeMetadata r name).after w)
  | clear {w : World} (r : Ref) : NamesReached w → NamesReached ((Frame.clearMetadata r).after w)
  | copy {w : World} (r src : Ref) : NamesReached w →
      NamesReached ((Frame.copyMetadata r src).after w)
  | keeps {w w' : World} : NamesReached w → w.SameObjects w' → NamesReached w'

theorem NamesDistinct.after {α : Type} {w : World} {x : Act α}
    (hx : ⦃fun w => ⌜w.NamesDistinct⌝⦄ x ⦃World.NamesKept⦄) (h : w.NamesDistinct) :
    (x.after w).NamesDistinct :=
  Act.after_of_run (Act.of_triple hx h) (fun _ _ h => h) (fun _ _ h => h)

theorem NamesReached.distinct {w : World} (h : w.NamesReached) : w.NamesDistinct := by
  induction h with
  | start h => exact h
  | add r name _ ih => exact ih.after (Frame.addMetadata_names r name)
  | set r d _ ih => exact ih.after (Frame.setMetadata_names r d)
  | attach r d _ ih => exact ih.after (Frame.attach_names r d)
  | change r name g _ hg ih =>
    exact Act.after_of_run (Act.of_triple (Frame.withMetadata_names r name g) ⟨ih, hg⟩)
      (fun _ _ h => h) (fun _ _ h => h)
  | remove r name _ ih => exact ih.after (Frame.removeMetadata_names r name)
  | clear r _ ih => exact ih.after (Frame.clearMetadata_names r)
  | copy r src _ ih => exact ih.after (Frame.copyMetadata_names r src)
  | keeps _ hs ih => exact ih.of_sameObjects hs

end World

open World

def plainFrameWorld : World where
  nodes := #[⟨1, .tensor { kind := .cpu, layout := ⟨[4], [1], .uint8⟩, primary := "data" }⟩,
    ⟨1, .frame { media := .image, format := 0, kind := .cpu, tensors := [0] }⟩]

theorem plainFrameWorld_namesDistinct : plainFrameWorld.NamesDistinct := by
  intro r f h
  rcases r with _ | _ | r <;> simp [bodyAt, plainFrameWorld] at h
  subst h
  exact List.nodup_nil

/-- A frame's dictionary names stay distinct. Along any history of adding, setting, attaching,
removing, clearing and copying dictionaries and of changing one in place, where a change in place
keeps the dictionary's name or gives it one the frame does not use, no frame has two
dictionaries of one name; so finding a dictionary by its name gives that one, and removing it by
its name hands it over and leaves none of that name. A change in place from such a world, putting
back a dictionary that names tensors of the world, keeps the names distinct exactly when it
renames as said. -/
theorem metadata_names_stay_distinct {w : World} (h : w.NamesReached) :
    w.NamesDistinct ∧
      (∀ r f d, w.bodyAt r = some (.frame f) → d ∈ f.metadata →
        (Frame.findMetadata r d.name).run w = .ok (some d) w ∧
          ∃ w', (Frame.removeMetadata r d.name).run w = .ok (some d) w' ∧
            (Frame.findMetadata r d.name).run w' = .ok none w') ∧
      ∀ {α : Type} (r : Ref) (f : Frame) (name : String) (d : Dictionary)
        (g : Dictionary → α × Dictionary), w.bodyAt r = some (.frame f) →
        f.metadata.find? (·.name == name) = some d →
        (∀ t ∈ (g d).2.tensors, t.id < w.nodes.size) →
        (((Frame.withMetadata r name g).after w).NamesDistinct ↔
          (g d).2.name = name ∨ (g d).2.name ∉ f.names) := by
  have hw := h.distinct
  refine ⟨hw, fun r f d hf hd => Frame.only_record_of_a_name hf (hw r f hf) hd,
    fun r f name d g hf hd ht => Frame.withMetadata_names_iff g hw hf hd ht⟩


/-- A dictionary "a" added to the plain frame is the one found under "a". -/
theorem added_name_is_found :
    ((Frame.addMetadata 1 "a").after plainFrameWorld).NamesReached ∧
      (Frame.findMetadata 1 "a").run ((Frame.addMetadata 1 "a").after plainFrameWorld) =
        .ok (some (Dictionary.empty "a")) ((Frame.addMetadata 1 "a").after plainFrameWorld) := by
  have hreach : ((Frame.addMetadata 1 "a").after plainFrameWorld).NamesReached :=
    .add 1 "a" (.start plainFrameWorld_namesDistinct)
  exact ⟨hreach, ((metadata_names_stay_distinct hreach).2.1 1 _ (Dictionary.empty "a") rfl
    (by simp)).1⟩

/-- Adding dictionaries "a" and "b" and then renaming "a" to "b" in place leaves two
dictionaries named "b". -/
theorem renaming_in_place_repeats_a_name :
    ∃ w', (do
      Frame.addMetadata 1 "a"
      Frame.addMetadata 1 "b"
      let _ ← Frame.withMetadata 1 "a" fun d => ((), { d with name := "b" })
      Frame.metadataNames 1 : Act (List String)).run plainFrameWorld = .ok ["b", "b"] w' :=
  ⟨_, rfl⟩

end MemBridge
