import MemBridge.Proofs.Store.Closed
import MemBridge.Context.Allocate

/-!
A frame pool takes the first format its allocator accepts.

A pool asks its allocator for a first frame in each format in turn. A format whose allocation
fails with a recoverable failure gives way to the next one (`FramePool.Skips`); the first
allocation that succeeds fixes the pool's format, an unrecoverable failure of a format that is
not the last is returned at once, and the failure of the last format is returned whatever it is
(`FramePool.run_firstFrame_of_skips`). The other frames are then allocated in the format found,
one after another (`FramePool.Allocates`), and a failure among them is returned once the frames
made so far are let go (`FramePool.run_fillFrames_of_allocates`).

The allocator is any operation on the store, so what a pool's creation does is stated over the
runs of the allocations it makes, for every allocator, list of formats and capacity
(`FramePool.new_falls_back_through_formats`).
-/

namespace MemBridge

namespace Act

variable {w : World}

theorem run_attempt {α : Type} (x : Act α) :
    (attempt x).run w = match x.run w with
      | .ok a w' => .ok (.ok a) w'
      | .error e w' => .ok (.error e) w' := by
  simp only [attempt, EStateM.run, tryCatch, tryCatchThe, MonadExceptOf.tryCatch, EStateM.tryCatch,
    Functor.map, EStateM.map]
  cases x w <;> simp [pure, EStateM.pure]

theorem run_tryCatch {α : Type} (x : Act α) (h : Fault → Act α) :
    (tryCatch x h).run w = match x.run w with
      | .ok a w' => .ok a w'
      | .error e w' => (h e).run w' := by
  simp only [EStateM.run, tryCatch, tryCatchThe, MonadExceptOf.tryCatch, EStateM.tryCatch]
  cases x w <;> simp

end Act

namespace FramePool

open Act

variable {a : FrameAllocator} {w w' : World}

/-- The allocations of `fmts`, one after another from `w`, each fail with a recoverable failure,
and leave `w'`. -/
inductive Skips (a : FrameAllocator) : World → List ImageFormat → World → Prop
  | nil {w : World} : Skips a w [] w
  | cons {w w₁ w₂ : World} {fmt : ImageFormat} {fmts : List ImageFormat} {e : Fault} :
      (a.allocate fmt).run w = .error e w₁ → e.recoverable = true → Skips a w₁ fmts w₂ →
      Skips a w (fmt :: fmts) w₂

/-- The allocations of frames in `fmt`, one after another from `w`, make `frames` and leave
`w'`. -/
inductive Allocates (a : FrameAllocator) (fmt : ImageFormat) : World → List Ref → World → Prop
  | nil {w : World} : Allocates a fmt w [] w
  | cons {w w₁ w₂ : World} {f : Ref} {fs : List Ref} :
      (a.allocate fmt).run w = .ok f w₁ → Allocates a fmt w₁ fs w₂ →
      Allocates a fmt w (f :: fs) w₂

theorem run_firstFrame_last (fmt : ImageFormat) :
    (firstFrame a [fmt]).run w = match (a.allocate fmt).run w with
      | .ok f w' => .ok (fmt, f) w'
      | .error e w' => .error e w' := by
  simp only [firstFrame, EStateM.run_bind]
  cases (a.allocate fmt).run w <;> rfl

theorem run_firstFrame_cons (fmt : ImageFormat) {rest : List ImageFormat} (hrest : rest ≠ []) :
    (firstFrame a (fmt :: rest)).run w = match (a.allocate fmt).run w with
      | .ok f w' => .ok (fmt, f) w'
      | .error e w' => if e.recoverable then (firstFrame a rest).run w' else .error e w' := by
  obtain ⟨g, gs, rfl⟩ := List.exists_cons_of_ne_nil hrest
  simp only [firstFrame, EStateM.run_bind, run_attempt]
  cases (a.allocate fmt).run w with
  | ok f w' => rfl
  | error e w' => by_cases h : e.recoverable <;> simp [h]

theorem run_firstFrame_of_skips {skipped : List ImageFormat} {w₁ : World} (fmt : ImageFormat)
    (rest : List ImageFormat) (hs : Skips a w skipped w₁) :
    (firstFrame a (skipped ++ fmt :: rest)).run w = match (a.allocate fmt).run w₁ with
      | .ok f w' => .ok (fmt, f) w'
      | .error e w' =>
        if e.recoverable ∧ rest ≠ [] then (firstFrame a rest).run w' else .error e w' := by
  induction hs with
  | nil =>
    by_cases hrest : rest = []
    · subst hrest
      rw [List.nil_append, run_firstFrame_last]
      cases (a.allocate fmt).run w₁ <;> simp
    · rw [List.nil_append, run_firstFrame_cons fmt hrest]
      cases (a.allocate fmt).run w₁ <;> simp [hrest]
  | cons he hr _ ih =>
    -- a skipped format is followed by at least the one that decides
    rw [List.cons_append, run_firstFrame_cons _ (by simp), he]
    simpa [hr] using ih

theorem skips_of_firstFrame_ok {fmt : ImageFormat} {f : Ref} :
    ∀ {fmts : List ImageFormat} {w : World}, (firstFrame a fmts).run w = .ok (fmt, f) w' →
      ∃ skipped rest w₁, fmts = skipped ++ fmt :: rest ∧ Skips a w skipped w₁ ∧
        (a.allocate fmt).run w₁ = .ok f w'
  | [], w, h => by simp [firstFrame] at h
  | [g], w, h => by
    rw [run_firstFrame_last] at h
    split at h
    · next f₀ w₀ hg =>
      cases h
      exact ⟨[], [], w, rfl, .nil, hg⟩
    · cases h
  | g :: g' :: gs, w, h => by
    rw [run_firstFrame_cons g (List.cons_ne_nil g' gs)] at h
    split at h
    · next f₀ w₀ hg =>
      cases h
      exact ⟨[], g' :: gs, w, rfl, .nil, hg⟩
    · next e w₀ hg =>
      split at h
      · next hr =>
        obtain ⟨skipped, rest, w₁, hfmts, hs, hf⟩ := skips_of_firstFrame_ok h
        exact ⟨g :: skipped, rest, w₁, by rw [hfmts]; rfl, .cons hg hr hs, hf⟩
      · cases h

theorem run_fillFrames_of_allocates {fmt : ImageFormat} {fs : List Ref} {w₁ : World}
    (ha : Allocates a fmt w fs w₁) (n : Nat) (frames : List Ref) (hlen : fs.length ≤ n) :
    (fillFrames a fmt n frames).run w = (fillFrames a fmt (n - fs.length) (frames ++ fs)).run w₁ := by
  induction ha generalizing n frames with
  | nil => simp
  | @cons w w₂ w₃ f fs hf _ ih =>
    obtain ⟨m, rfl⟩ : ∃ m, n = m + 1 := ⟨n - 1, by simp at hlen; omega⟩
    simp only [fillFrames, EStateM.run_bind, run_tryCatch, hf]
    rw [ih m (frames ++ [f]) (by simp at hlen; omega)]
    simp

theorem allocates_of_fillFrames_ok {fmt : ImageFormat} {frames' : List Ref} :
    ∀ (n : Nat) (frames : List Ref) (w : World), (fillFrames a fmt n frames).run w = .ok frames' w' →
      ∃ fs, frames' = frames ++ fs ∧ fs.length = n ∧ Allocates a fmt w fs w'
  | 0, frames, w, h => by
    cases h
    exact ⟨[], by simp, rfl, .nil⟩
  | n + 1, frames, w, h => by
    simp only [fillFrames, EStateM.run_bind, run_tryCatch] at h
    cases hf : (a.allocate fmt).run w with
    | ok f w₁ =>
      rw [hf] at h
      obtain ⟨fs, rfl, hlen, ha⟩ := allocates_of_fillFrames_ok n (frames ++ [f]) w₁ h
      exact ⟨f :: fs, by simp, by simp [hlen], .cons hf ha⟩
    | error e w₁ =>
      -- a failed allocation lets the frames go and fails, or fails letting them go
      rw [hf] at h
      cases hr : (releaseAll frames).run w₁ <;> simp [hr] at h

theorem fillFrames_ok_iff {fmt : ImageFormat} {frames' : List Ref} (n : Nat) (frames : List Ref) :
    (fillFrames a fmt n frames).run w = .ok frames' w' ↔
      ∃ fs, frames' = frames ++ fs ∧ fs.length = n ∧ Allocates a fmt w fs w' := by
  refine ⟨allocates_of_fillFrames_ok n frames w, ?_⟩
  rintro ⟨fs, rfl, rfl, ha⟩
  rw [run_fillFrames_of_allocates ha fs.length frames le_rfl, Nat.sub_self]
  rfl

theorem run_fillFrames_fails {fmt : ImageFormat} {fs frames : List Ref} {n : Nat}
    {w₁ w₂ w₃ : World} {e : Fault} (ha : Allocates a fmt w fs w₁) (hlen : fs.length < n)
    (he : (a.allocate fmt).run w₁ = .error e w₂)
    (hrel : (releaseAll (frames ++ fs)).run w₂ = .ok () w₃) :
    (fillFrames a fmt n frames).run w = .error e w₃ := by
  rw [run_fillFrames_of_allocates ha n frames hlen.le]
  obtain ⟨m, hm⟩ : ∃ m, n - fs.length = m + 1 := ⟨n - fs.length - 1, by omega⟩
  rw [hm]
  simp only [fillFrames, EStateM.run_bind, run_tryCatch, he, hrel]
  rfl

theorem run_new_zero (fmts : List ImageFormat) :
    (new a fmts 0).run w = .error (.invalidArgument "frame pool capacity must be non-zero") w :=
  rfl

theorem run_new_pos {capacity : Nat} (hc : capacity ≠ 0) (fmts : List ImageFormat) :
    (new a fmts capacity).run w = match (firstFrame a fmts).run w with
      | .ok first w₁ =>
        match (fillFrames a first.1 (capacity - 1) [first.2]).run w₁ with
        | .ok frames w₂ =>
          .ok w₂.nodes.size (w₂.push ⟨1, .framePool { frames, format := first.1, kind := a.kind }⟩)
        | .error e w₂ => .error e w₂
      | .error e w₁ => .error e w₁ := by
  simp only [new, hc, if_false, EStateM.run_bind]
  cases (firstFrame a fmts).run w with
  | ok first w₁ =>
    dsimp only
    cases (fillFrames a first.1 (capacity - 1) [first.2]).run w₁ <;> rfl
  | error e w₁ => rfl

/-- What making a pool of `capacity` frames, in the first of `formats` the allocator accepts,
does from a store `w`. -/
structure FallsBack (a : FrameAllocator) (formats : List ImageFormat) (capacity : Nat)
    (w : World) : Prop where
  /-- a pool of no frames is refused before anything is allocated -/
  zero_capacity : capacity = 0 →
    (new a formats capacity).run w =
      .error (.invalidArgument "frame pool capacity must be non-zero") w
  /-- so is a pool with no format to try -/
  no_format : capacity ≠ 0 → formats = [] →
    (new a formats capacity).run w =
      .error (.invalidArgument "frame pool needs at least one format") w
  /-- a pool is made exactly when the formats before one fail recoverably, that one's
  allocation succeeds, and so do `capacity - 1` more in it; the pool holds these frames in that
  format -/
  made_iff : capacity ≠ 0 → ∀ p w', (new a formats capacity).run w = .ok p w' ↔
    ∃ skipped fmt rest w₁ first w₂ fs w₃, formats = skipped ++ fmt :: rest ∧
      Skips a w skipped w₁ ∧ (a.allocate fmt).run w₁ = .ok first w₂ ∧
      Allocates a fmt w₂ fs w₃ ∧ fs.length = capacity - 1 ∧ p = w₃.nodes.size ∧
      w' = w₃.push ⟨1, .framePool { frames := first :: fs, format := fmt, kind := a.kind }⟩
  /-- the failure of a format reached is returned at once, unless it is recoverable and more
  formats follow -/
  format_fails : capacity ≠ 0 → ∀ skipped fmt rest w₁ e w₂, formats = skipped ++ fmt :: rest →
    Skips a w skipped w₁ → (a.allocate fmt).run w₁ = .error e w₂ →
    (rest = [] ∨ e.recoverable = false) → (new a formats capacity).run w = .error e w₂
  /-- a failure among the other allocations is returned, once the frames made so far are let
  go; in a closed store they always can be -/
  fill_fails : capacity ≠ 0 → ∀ skipped fmt rest w₁ first w₂ fs w₃ e w₄,
    formats = skipped ++ fmt :: rest → Skips a w skipped w₁ →
    (a.allocate fmt).run w₁ = .ok first w₂ → Allocates a fmt w₂ fs w₃ →
    fs.length < capacity - 1 → (a.allocate fmt).run w₃ = .error e w₄ →
    w₄.Closed → (∀ f ∈ first :: fs, f < w₄.nodes.size) →
    ∃ w₅, (releaseAll (first :: fs)).run w₄ = .ok () w₅ ∧
      (new a formats capacity).run w = .error e w₅

/-- A pool is made in the first format its allocator accepts, for every allocator, list of
formats and capacity: formats refused with a recoverable failure are skipped, any other failure
of a format, or the failure of the last one, is returned, and so is a failure while allocating
the rest of the pool's frames in the format found. -/
theorem new_falls_back_through_formats (a : FrameAllocator) (formats : List ImageFormat)
    (capacity : Nat) (w : World) : FallsBack a formats capacity w where
  zero_capacity h := by
    subst h
    exact run_new_zero formats
  no_format hc h := by
    subst h
    rw [run_new_pos hc]
    rfl
  made_iff hc p w' := by
    rw [run_new_pos hc]
    constructor
    · intro h
      split at h
      · next first w₁ hff =>
        obtain ⟨skipped, rest, w₁', hfmts, hs, hf⟩ := skips_of_firstFrame_ok hff
        split at h
        · next frames w₂ hfill =>
          obtain ⟨fs, rfl, hlen, ha⟩ := allocates_of_fillFrames_ok _ _ _ hfill
          cases h
          exact ⟨skipped, first.1, rest, w₁', first.2, w₁, fs, w₂, hfmts, hs, hf, ha, hlen, rfl,
            rfl⟩
        · cases h
      · cases h
    · rintro ⟨skipped, fmt, rest, w₁, first, w₂, fs, w₃, rfl, hs, hf, ha, hlen, rfl, rfl⟩
      rw [run_firstFrame_of_skips fmt rest hs, hf]
      dsimp only
      rw [(fillFrames_ok_iff (capacity - 1) [first]).2 ⟨fs, rfl, hlen, ha⟩]
      rfl
  format_fails hc skipped fmt rest w₁ e w₂ hfmts hs he hlast := by
    -- the failure decides unless it is recoverable and more formats follow
    have hstop : ¬(e.recoverable = true ∧ rest ≠ []) := by
      rintro ⟨hr, hrest⟩
      rcases hlast with h | h
      · exact hrest h
      · simp [hr] at h
    rw [run_new_pos hc, hfmts, run_firstFrame_of_skips fmt rest hs, he]
    simp only [hstop, if_false]
  fill_fails hc skipped fmt rest w₁ first w₂ fs w₃ e w₄ hfmts hs hf ha hlen he hc₄ hlt := by
    obtain ⟨w₅, hrel, -⟩ := releaseAll_closed hc₄ hlt
    refine ⟨w₅, hrel, ?_⟩
    rw [run_new_pos hc, hfmts, run_firstFrame_of_skips fmt rest hs, hf]
    dsimp only
    rw [run_fillFrames_fails ha hlen he hrel]

def nv12Refusing : FrameAllocator where
  kind := .vaapi
  allocate fmt :=
    if fmt = .nv12 then throw (.backendFailure .vaapi "vaCreateSurfaces" (-1))
    else create (.frame { media := .image, format := fmt.code, kind := .vaapi, tensors := [] })

example : ∃ w', (new nv12Refusing [.nv12, .rgb] 2).run {} = .ok 2 w' ∧
    w'.bodyAt 2 = some (.framePool { frames := [0, 1], format := .rgb, kind := .vaapi }) :=
  ⟨_, rfl, rfl⟩

end FramePool

end MemBridge
