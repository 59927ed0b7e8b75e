import MemBridge.Proofs.Device.Limit
import MemBridge.Proofs.Host.Recycling

/-!
Where allocation stops on an overflow.

Host allocation rounds the bytes asked for up to a bucket, and the rounding of a large request
adds two MiB before it takes one byte off and divides: that sum leaves the word for the last two
MiB of request sizes, and there host allocation stops with an overflow. It is the only stop: every
other failure is an error of the heap, a refused layout or a failed system allocation
(`HostPool.alloc_halts_iff`). A device serves its memory from its host allocator, so a device
allocation stops exactly when it admits the request under its memory limit and the rounding
overflows (`Device.allocate_halts_iff`). Main statement: `allocation_halts_iff_rounding_overflows`.
-/

namespace MemBridge

theorem Heap.allocate_error_ne_halt {h : Heap} {size : Nat} {e : Fault}
    (he : h.allocate size = .error e) (m : String) : e ≠ .halt m := by
  unfold Heap.allocate at he
  split at he
  · cases he
    exact fun e => Fault.noConfusion e
  · split at he
    · cases he
      exact fun e => Fault.noConfusion e
    · cases he

namespace HostPool

theorem alloc_halts_iff (p : HostPool) (heap : Heap) (n : Nat) :
    (∃ m, (p.alloc heap n).1 = .error (.halt m)) ↔ Word.bound ≤ n + bucketAlignment := by
  by_cases hu : n + bucketAlignment < Word.bound
  · obtain ⟨k, hk⟩ := bucketFor_ok_iff.2 hu
    refine ⟨?_, fun h => absurd h (Nat.not_le.2 hu)⟩
    rintro ⟨m, hm⟩
    cases hs : p.stack k with
    | cons b rest => simp [alloc_of_stack_cons hk hs] at hm
    | nil =>
      cases ha : heap.allocate k with
      | ok r => simp [alloc_of_stack_nil hk hs ha] at hm
      | error e =>
        rw [alloc_of_stack_nil_error hk hs ha] at hm
        exact (Heap.allocate_error_ne_halt ha m (by simpa using hm)).elim
  · have hover := Nat.le_of_not_lt hu
    refine ⟨fun _ => hover, fun _ => ⟨"attempt to add with overflow", ?_⟩⟩
    simp [alloc, bucketFor_overflow hover, Fault.addOverflow]

/-- At the top of the word, a fresh allocator stops on the rounding. -/
theorem top_of_word_request_halts :
    (({} : HostPool).alloc {} (Word.bound - 1)).1 = .error (.halt "attempt to add with overflow") :=
  rfl

end HostPool

namespace Act

variable {w : World}

theorem run_hostAlloc {a size : Nat} {p : HostPool} (hp : w.allocators[a]? = some (some p)) :
    (hostAlloc a size).run w =
      match p.alloc w.heap size with
      | (.ok block, p', heap) =>
        .ok ⟨a, block, size⟩ { w with heap, allocators := w.allocators.set! a (some p') }
      | (.error e, p', heap) =>
        .error e { w with heap, allocators := w.allocators.set! a (some p') } := by
  have hrun : (allocator a).run w = .ok p w := by simp [allocator, hp]
  obtain ⟨r, p', heap', hres⟩ : ∃ r p' heap', p.alloc w.heap size = (r, p', heap') :=
    ⟨_, _, _, rfl⟩
  simp only [hostAlloc, EStateM.run_bind, hrun, EStateM.run_get, EStateM.run_set, hres]
  cases r <;> rfl

end Act

namespace Device

open Act World

variable {w : World} {dv : Ref} {d : Device} {p : HostPool}

theorem allocate_halts_iff (hd : w.bodyAt dv = some (.device d))
    (hp : w.allocators[d.allocator]? = some (some p)) (backend : MemoryKind) (n : Nat) :
    (∃ m w', (allocate dv backend n).run w = .error (.halt m) w') ↔
      (d.config.memoryLimit = 0 ∨ Nat.min (d.bytes + n) Word.max ≤ d.config.memoryLimit) ∧
        Word.bound ≤ n + bucketAlignment := by
  by_cases hfit : d.config.memoryLimit = 0 ∨ Nat.min (d.bytes + n) Word.max ≤ d.config.memoryLimit
  · rw [← HostPool.alloc_halts_iff p w.heap n]
    obtain ⟨r, p', heap', hres⟩ : ∃ r p' heap', p.alloc w.heap n = (r, p', heap') := ⟨_, _, _, rfl⟩
    have hrun : (hostAlloc d.allocator n).run w = _ := run_hostAlloc hp
    rw [hres] at hrun
    simp only [allocate, EStateM.run_bind, run_device hd]
    split
    · next hc =>
      simp only [Bool.and_eq_true, decide_eq_true_eq] at hc
      omega
    · rw [EStateM.run_bind, hrun, hres]
      cases r with
      | error e =>
        simp only [Except.error.injEq, EStateM.Result.error.injEq, exists_and_left, exists_eq',
          and_true, hfit, true_and]
      | ok block =>
        -- serving the buffer leaves the objects, so the device is still there to count it
        have hd₁ := run_modifyDevice
          (w := { w with heap := heap', allocators := w.allocators.set! d.allocator (some p') }) hd
        simp only [EStateM.run_bind, hd₁, run_create]
        simp
  · have hpos : 0 < d.config.memoryLimit := by omega
    have hover : d.config.memoryLimit < Nat.min (d.bytes + n) Word.max := by omega
    rw [allocate_refused hd hpos hover]
    simp only [hfit, false_and, iff_false, not_exists]
    intro m w' h
    cases h

def unlimitedDevice : Device := { serial := 1, config := {}, allocator := 0 }

def unlimitedWorld : World where
  nodes := #[⟨1, .device unlimitedDevice⟩]
  allocators := #[some {}]

end Device

/-- Host and device allocation stop on an overflow exactly when rounding the request up to its
bucket leaves the word, the device having admitted the request first; every other way they fail
is an error. -/
theorem allocation_halts_iff_rounding_overflows (p : HostPool) (n : Nat) :
    (∀ heap : Heap,
      (∃ m, (p.alloc heap n).1 = .error (.halt m)) ↔ Word.bound ≤ n + bucketAlignment) ∧
    (∀ (w : World) (dv : Ref) (d : Device),
      w.bodyAt dv = some (.device d) → w.allocators[d.allocator]? = some (some p) →
      ∀ backend : MemoryKind,
        (∃ m w', (Device.allocate dv backend n).run w = .error (.halt m) w') ↔
          (d.config.memoryLimit = 0 ∨ Nat.min (d.bytes + n) Word.max ≤ d.config.memoryLimit) ∧
            Word.bound ≤ n + bucketAlignment) :=
  ⟨fun heap => HostPool.alloc_halts_iff p heap n,
    fun _ _ _ hd hp backend => Device.allocate_halts_iff hd hp backend n⟩

/-- A device without a memory limit stops on a request at the top of the word. -/
theorem unlimited_device_halts_at_top_of_word :
    ∃ m w', (Device.allocate 0 .levelZero (Word.bound - 1)).run Device.unlimitedWorld =
      .error (.halt m) w' := by
  have hb : bucketAlignment = 2097152 := rfl
  have hw : Word.bound = 18446744073709551616 := rfl
  refine ((allocation_halts_iff_rounding_overflows {} (Word.bound - 1)).2 Device.unlimitedWorld 0 _
    rfl rfl .levelZero).2 ⟨Or.inl rfl, ?_⟩
  rw [hb, hw]
  omega

end MemBridge
