import MemBridge.Metadata.Records
import MemBridge.Proofs.Context.History

/-!
Well-known records read back what they write.

Writing a record sets one key per field it keeps; reading finds each key where writing put it
(`Dictionary.value?_set`), checks the dictionary's name, and takes every field apart again. A
record whose 32-bit fields fit 32 bits, as their type makes sure, reads back as itself
(`Record.ofDict_toDict`), with one exception by design: a detection writes a negative
identifier as no identifier at all, and an identifier that is absent reads as `-1`, so a
detection identifier below `-1` comes back as `-1` (`Record.negative_detection_id_reads_as_absent`).

Attaching a record to a frame sets its dictionary in place of the frame's dictionary of that
name, or after the others; the frame then finds that dictionary first under the record's name,
whatever letting go of the replaced dictionary's tensors does (`Frame.attach_then_find`).
Main statement: `Record.round_trip_through_frames`.
-/

namespace MemBridge

open Act

/-- A value that every value may be read as is always kept. -/
@[simp] theorem filter_const_true {α : Type} (o : Option α) : o.filter (fun _ => true) = o := by
  cases o <;> rfl

namespace Dictionary

@[simp] theorem name_empty (n : String) : (empty n).name = n := rfl

@[simp] theorem value?_empty (n k : String) : (empty n).value? k = none := rfl

@[simp] theorem name_set (d : Dictionary) (k : String) (v : MetaValue) :
    (d.set k v).name = d.name := by
  unfold set
  split <;> rfl

theorem find?_key_of_contains {d : Dictionary} {k : String} (hc : d.contains k = true) :
    ∃ e, d.entries.find? (·.1 == k) = some e ∧ e.1 = k := by
  obtain ⟨v, hv⟩ := Option.isSome_iff_exists.1 hc
  obtain ⟨e, he, -⟩ := Option.map_eq_some_iff.1 hv
  exact ⟨e, he, by simpa using List.find?_some he⟩

theorem find?_key_of_not_contains {d : Dictionary} {k : String} (hc : ¬ d.contains k = true) :
    d.entries.find? (·.1 == k) = none := by
  have hv : d.value? k = none := by simpa [contains] using hc
  exact Option.map_eq_none_iff.1 hv

/-- Setting a key answers it with the new value and leaves every other key. -/
@[simp] theorem value?_set (d : Dictionary) (k k' : String) (v : MetaValue) :
    (d.set k v).value? k' = if k' = k then some v else d.value? k' := by
  unfold set
  split
  · next hc =>
    simp only [value?, List.find?_map]
    -- replacing values in place keeps which entry each key finds first
    have hp : ((fun e : String × MetaValue => e.1 == k') ∘
        fun e => if e.1 == k then (k, v) else e) = fun e => e.1 == k' := by
      funext e
      by_cases h : e.1 = k <;> by_cases h' : k = k' <;> simp_all
    rw [hp]
    split
    · next h =>
      subst h
      obtain ⟨e, he, hk⟩ := find?_key_of_contains hc
      simp [he, hk]
    · next h =>
      cases hf : d.entries.find? (·.1 == k') with
      | none => rfl
      | some e =>
        have hk : e.1 = k' := by simpa using List.find?_some hf
        simp [hk, h]
  · next hc =>
    simp only [value?, List.find?_append]
    split
    · next h =>
      subst h
      simp [find?_key_of_not_contains hc]
    · next h => cases d.entries.find? (·.1 == k') <;> simp [Ne.symm h]

@[simp] theorem setSome_some (d : Dictionary) (k : String) (v : MetaValue) :
    d.setSome k (some v) = d.set k v := rfl

@[simp] theorem setSome_none (d : Dictionary) (k : String) : d.setSome k none = d := rfl

@[simp] theorem name_setSome (d : Dictionary) (k : String) (o : Option MetaValue) :
    (d.setSome k o).name = d.name := by
  cases o <;> simp

@[simp] theorem value?_setSome (d : Dictionary) (k k' : String) (o : Option MetaValue) :
    (d.setSome k o).value? k' = if k' = k then o.or (d.value? k') else d.value? k' := by
  cases o <;> simp

end Dictionary

namespace MetaValue

@[simp] theorem fits_int (v : Int) : (MetaValue.int v).fits .int = true := rfl

@[simp] theorem fits_i32 (v : Int) : (MetaValue.int v).fits .i32 = Word.isSigned32 v := by
  simp [fits, Word.isSigned32]

@[simp] theorem fits_float (x : Float) : (MetaValue.float x).fits .float = true := rfl
@[simp] theorem fits_string (s : String) : (MetaValue.string s).fits .string = true := rfl
@[simp] theorem fits_floats (xs : List Float) : (MetaValue.floats xs).fits .floats = true := rfl
@[simp] theorem fits_sizes (ns : List Nat) : (MetaValue.sizes ns).fits .sizes = true := rfl
@[simp] theorem fits_tensor (t : TensorRef) : (MetaValue.tensor t).fits .tensor = true := rfl

@[simp] theorem asInt?_int (v : Int) : (MetaValue.int v).asInt? = some v := rfl
@[simp] theorem asFloat?_float (x : Float) : (MetaValue.float x).asFloat? = some x := rfl
@[simp] theorem asString?_string (s : String) : (MetaValue.string s).asString? = some s := rfl
@[simp] theorem asFloats?_floats (xs : List Float) : (MetaValue.floats xs).asFloats? = some xs :=
  rfl
@[simp] theorem asSizes?_sizes (ns : List Nat) : (MetaValue.sizes ns).asSizes? = some ns := rfl
@[simp] theorem asTensor?_tensor (t : TensorRef) : (MetaValue.tensor t).asTensor? = some t := rfl

end MetaValue

namespace Record

/-- Every field a record keeps in 32 bits holds a 32-bit integer, as the field's type makes
sure; the other integer fields are not read with a range. -/
def Fits32 : Record → Prop
  | .detection t =>
    Word.isSigned32 t.id ∧ Word.isSigned32 t.parentId ∧ Word.isSigned32 t.labelId
  | .classification c => Word.isSigned32 c.labelId
  | .objectId o => Word.isSigned32 o.id
  | .sourceId s =>
    Word.isSigned32 s.batchIndex ∧ Word.isSigned32 s.roiId ∧ Word.isSigned32 s.objectId
  | _ => True

def IdsKept : Record → Prop
  | .detection t =>
    (t.id = -1 ∨ 0 ≤ t.id) ∧ (t.parentId = -1 ∨ 0 ≤ t.parentId) ∧
      (t.labelId = -1 ∨ 0 ≤ t.labelId)
  | _ => True

instance (r : Record) : Decidable r.Fits32 :=
  match r with
  | .timestamp _ | .affine _ | .inference _ => isTrue trivial
  | .detection t => inferInstanceAs
    (Decidable (Word.isSigned32 t.id ∧ Word.isSigned32 t.parentId ∧ Word.isSigned32 t.labelId))
  | .classification c => inferInstanceAs (Decidable (Word.isSigned32 c.labelId))
  | .objectId o => inferInstanceAs (Decidable (Word.isSigned32 o.id))
  | .sourceId s => inferInstanceAs (Decidable
    (Word.isSigned32 s.batchIndex ∧ Word.isSigned32 s.roiId ∧ Word.isSigned32 s.objectId))

instance (r : Record) : Decidable r.IdsKept :=
  match r with
  | .detection t => inferInstanceAs (Decidable ((t.id = -1 ∨ 0 ≤ t.id) ∧
      (t.parentId = -1 ∨ 0 ≤ t.parentId) ∧ (t.labelId = -1 ∨ 0 ≤ t.labelId)))
  | .timestamp _ | .classification _ | .objectId _ | .sourceId _ | .affine _ | .inference _ =>
    isTrue trivial

@[simp] theorem name_toDict (r : Record) : r.toDict.name = r.kind.dictName := by
  cases r <;> simp [toDict, kind]

theorem absent_id_round_trip (v : Int) (hfit : Word.isSigned32 v) (hk : v = -1 ∨ 0 ≤ v) :
    ((Option.filter (fun x => x.fits .i32) (if 0 ≤ v then some (MetaValue.int v) else none)).bind
      MetaValue.asInt?).getD (-1) = v := by
  by_cases h : 0 ≤ v
  · simp [h, hfit, Option.filter_some]
  · simp only [h, if_false, Option.filter_none, Option.bind_none, Option.getD_none]
    omega

theorem absent_text_round_trip (s : String) :
    ((Option.filter (fun x => x.fits .string)
      (if s = "" then none else some (MetaValue.string s))).bind MetaValue.asString?).getD "" = s := by
  by_cases h : s = "" <;> simp [h, Option.filter_some]

open Dictionary in
theorem ofDict_toDict (r : Record) (hfit : r.Fits32) (hids : r.IdsKept) :
    ofDict r.kind r.toDict = .ok r := by
  cases r with
  | timestamp t =>
    simp [ofDict, toDict, kind, RecordKind.dictName, expectName, need, maybe, Dictionary.get,
      tryGet, Option.filter_map, Option.bind_map, Function.comp_def, bind, Except.bind, pure,
      Except.pure]
  | detection t =>
    obtain ⟨hid, hpid, hlid⟩ := hfit
    obtain ⟨kid, kpid, klid⟩ := hids
    simp [ofDict, toDict, kind, RecordKind.dictName, expectName, need, maybe, Dictionary.get,
      tryGet, Option.filter_map, Option.bind_map, Function.comp_def, bind, Except.bind, pure,
      Except.pure, absent_id_round_trip _ hid kid, absent_id_round_trip _ hpid kpid,
      absent_id_round_trip _ hlid klid, absent_text_round_trip]
  | classification c =>
    simp [ofDict, toDict, kind, RecordKind.dictName, expectName, need, Dictionary.get, bind,
      Except.bind, pure, Except.pure, show Word.isSigned32 c.labelId from hfit]
  | objectId o =>
    simp [ofDict, toDict, kind, RecordKind.dictName, expectName, need, Dictionary.get, bind,
      Except.bind, pure, Except.pure, show Word.isSigned32 o.id from hfit]
  | sourceId s =>
    obtain ⟨h₁, h₂, h₃⟩ := hfit
    simp [ofDict, toDict, kind, RecordKind.dictName, expectName, need, maybe, Dictionary.get,
      tryGet, Option.filter_some, bind, Except.bind, pure, Except.pure, h₁, h₂, h₃]
  | affine m =>
    simp [ofDict, toDict, kind, RecordKind.dictName, expectName, need, Dictionary.get, bind,
      Except.bind, pure, Except.pure, AffineMap.entries, AffineMap.ofEntries?]
  | inference i =>
    simp [ofDict, toDict, kind, RecordKind.dictName, expectName, need, maybe, Dictionary.get,
      tryGet, Option.filter_map, Option.filter_some, Option.bind_map, Function.comp_def, bind,
      Except.bind, pure, Except.pure, ElementType.parse_name, absent_text_round_trip]

end Record

namespace Frame

variable {w : World} {f : Ref} {fr : Frame}

theorem find?_replace_first (ds : List Dictionary) (d : Dictionary) :
    ((ds.span (·.name != d.name)).1 ++ d :: ((ds.span (·.name != d.name)).2.drop 1)).find?
      (·.name == d.name) = some d := by
  rw [List.span_eq_takeWhile_dropWhile, List.find?_append]
  have hnone : (ds.takeWhile (·.name != d.name)).find? (·.name == d.name) = none := by
    rw [List.find?_eq_none]
    intro x hx
    simpa using List.mem_takeWhile_imp hx
  simp [hnone]

theorem setMetadata_after (hf : w.bodyAt f = some (.frame fr)) (d : Dictionary) :
    ∃ fr', ((setMetadata f d).after w).bodyAt f = some (.frame fr') ∧
      fr'.metadata.find? (·.name == d.name) = some d := by
  cases hfind : fr.metadata.find? (·.name == d.name) with
  | none =>
    refine ⟨{ fr with metadata := fr.metadata ++ [d] }, ?_, by simp [List.find?_append, hfind]⟩
    simp [after, setMetadata, run_frame hf, hfind, run_modifyFrame hf,
      World.bodyAt_setBody_of_lt _ (World.lt_size_of_bodyAt hf)]
  | some old =>
    let fr₁ : Frame := { fr with metadata :=
      (fr.metadata.span (fun x : Dictionary => x.name != d.name)).1 ++
        d :: (fr.metadata.span (fun x : Dictionary => x.name != d.name)).2.drop 1 }
    have hbody : (w.setBody f (.frame fr₁)).bodyAt f = some (.frame fr₁) :=
      World.bodyAt_setBody_of_lt _ (World.lt_size_of_bodyAt hf)
    have hrun : (setMetadata f d).run w = (dropDictionary old).run (w.setBody f (.frame fr₁)) := by
      simp [setMetadata, run_frame hf, hfind, run_modifyFrame hf, fr₁]
    refine ⟨fr₁, ?_, find?_replace_first fr.metadata d⟩
    -- letting go of the old dictionary's tensors keeps every frame as it is
    have hkeep := releaseAll_run_keeps (old.tensors.map (·.id)) (w.setBody f (.frame fr₁))
    simp only [after, hrun, dropDictionary]
    split <;> rename_i heq <;> rw [heq] at hkeep <;> exact hkeep f _ hbody (by simp)

theorem retainEach_ok (ts : List TensorRef) (h : ∀ t ∈ ts, t.id < w.nodes.size) :
    ∃ w', (forIn ts PUnit.unit fun t _ => do
        retain t.id
        pure (ForInStep.yield PUnit.unit) : Act PUnit).run w = .ok PUnit.unit w' ∧
      w.SameObjects w' := by
  induction ts generalizing w with
  | nil => exact ⟨w, rfl, World.SameObjects.refl w⟩
  | cons t rest ih =>
    obtain ⟨n, hn⟩ : ∃ n, w.nodes[t.id]? = some n :=
      ⟨_, Array.getElem?_eq_getElem (h t (by simp))⟩
    have hsame := World.SameObjects.setStrong hn (n.strong + 1)
    obtain ⟨w', hrun, hs⟩ := ih (w := w.setStrong t.id n (n.strong + 1))
      fun x hx => hsame.1 ▸ h x (List.mem_cons_of_mem t hx)
    refine ⟨w', ?_, hsame.trans hs⟩
    rw [List.forIn_cons]
    simp only [EStateM.run_bind, run_retain hn]
    exact hrun

theorem attach_then_find (hf : w.bodyAt f = some (.frame fr)) (d : Dictionary)
    (ht : ∀ t ∈ d.tensors, t.id < w.nodes.size) :
    (findMetadata f d.name).run ((attach f d).after w) = .ok (some d) ((attach f d).after w) := by
  obtain ⟨w₁, hkeep, hsame⟩ := retainEach_ok d.tensors ht
  have hf₁ : w₁.bodyAt f = some (.frame fr) := (hsame.2 f _ (by simp)).2 hf
  obtain ⟨fr', hfr', hfind⟩ := setMetadata_after hf₁ d
  have hafter : (attach f d).after w = (setMetadata f d).after w₁ := by
    simp only [after, attach, keepDictionary, EStateM.run_bind, hkeep, EStateM.run_pure]
  simp only [hafter, findMetadata, EStateM.run_bind, run_frame hfr', hfind]
  rfl

end Frame

namespace Record

/-- Records round-trip through dictionaries and frames. A record whose 32-bit fields fit and
whose detection identifiers are `-1` or not negative reads back from its dictionary as itself,
field for field; attached to a frame, with its tensor an object of the world, it is the record
the frame reads back under its kind, whatever letting go of a replaced record does. -/
theorem round_trip_through_frames (r : Record) (hfit : r.Fits32) (hids : r.IdsKept) :
    ofDict r.kind r.toDict = .ok r ∧
      ∀ (w : World) (f : Ref) (fr : Frame), w.bodyAt f = some (.frame fr) →
        (∀ t ∈ r.toDict.tensors, t.id < w.nodes.size) →
        ∃ d, (Frame.findMetadata f r.kind.dictName).run ((Frame.attach f r.toDict).after w) =
            .ok (some d) ((Frame.attach f r.toDict).after w) ∧
          ofDict r.kind d = .ok r := by
  refine ⟨ofDict_toDict r hfit hids, fun w f fr hf ht => ⟨r.toDict, ?_, ofDict_toDict r hfit hids⟩⟩
  simpa using Frame.attach_then_find hf r.toDict ht

/-- A detection whose identifier is `-2`, read back from its dictionary, has identifier `-1`. -/
theorem negative_detection_id_reads_as_absent :
    ofDict .detection (Record.detection ⟨0.25, 0.25, 0.75, 1.5, none, -2, -1, -1, ""⟩).toDict =
      .ok (.detection ⟨0.25, 0.25, 0.75, 1.5, none, -1, -1, -1, ""⟩) := by
  simp [ofDict, toDict, kind, RecordKind.dictName, Dictionary.expectName, Dictionary.need,
    Dictionary.maybe, Dictionary.get, Dictionary.tryGet, bind, Except.bind, pure, Except.pure]

def personTensor : Tensor where
  kind := .dma
  layout := ⟨[8, 8], [8, 1], .uint8⟩
  handles := [("dma_fd", .num 3)]
  primary := "dma_fd"

def personFrame : Frame where
  media := .image
  format := 0
  kind := .dma
  tensors := [0]

def personFrameWorld : World where
  nodes := #[⟨1, .tensor personTensor⟩, ⟨1, .frame personFrame⟩]

def personDetection : Record :=
  .detection { xMin := 0.25, yMin := 0.25, xMax := 0.75, yMax := 1.5
               confidence := some 0.9, label := "person" }

/-- The detected person, attached to the frame, is the detection the frame reads back. -/
theorem person_detection_round_trip_on_frame :
    personDetection.Fits32 ∧ personDetection.IdsKept ∧
      ∃ d, (Frame.findMetadata 1 "detection").run
          ((Frame.attach 1 personDetection.toDict).after personFrameWorld) =
          .ok (some d) ((Frame.attach 1 personDetection.toDict).after personFrameWorld) ∧
        ofDict .detection d = .ok personDetection :=
  have hfit : personDetection.Fits32 := by decide
  have hids : personDetection.IdsKept := by decide
  ⟨hfit, hids, (round_trip_through_frames personDetection hfit hids).2 personFrameWorld 1 _ rfl
    (by decide)⟩

end Record

end MemBridge
