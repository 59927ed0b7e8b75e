import MemBridge.Proofs.Store.Basic
import MemBridge.Device.Resources

/-!
The memory limit of a device.

`Device.allocate` admits a request when the limit is zero, or when the bytes the device has
handed out plus the bytes asked for, saturating at the top of the word, stay within the limit.
A refused request fails with status `-12` and leaves the world exactly as it was. An admitted
request is served by a host buffer of the request rounded up to its bucket, and the device
counts that buffer's capacity, not the bytes asked for. So the count may pass the limit by what
the rounding adds: on a device limited to one byte, a one-byte request is admitted and counted
as a whole page.
-/

namespace MemBridge

namespace Act

variable {w w' : World} {r : Ref}

theorem run_device {d : Device} (h : w.bodyAt r = some (.device d)) :
    (device r).run w = .ok d w := by
  simp [device, run_body h]

theorem run_modifyDevice {d : Device} (h : w.bodyAt r = some (.device d)) (f : Device → Device) :
    (modifyDevice r f).run w = .ok () (w.setBody r (.device (f d))) := by
  simp [modifyDevice, run_device h, run_setBody]

theorem run_create (b : Body) : (create b).run w = .ok w.nodes.size (w.push ⟨1, b⟩) := rfl

theorem allocator_run_ok {a : Nat} {p : HostPool} (h : (allocator a).run w = .ok p w') :
    w' = w := by
  simp only [allocator, EStateM.run_bind, EStateM.run_get] at h
  split at h
  · simp at h; exact h.2.symm
  · simp [broken] at h

theorem hostAlloc_run_ok {a size : Nat} {b : Buffer} (h : (hostAlloc a size).run w = .ok b w') :
    w'.nodes = w.nodes ∧ b.len = size := by
  simp only [hostAlloc, EStateM.run_bind] at h
  split at h
  · next p _ hp =>
    cases allocator_run_ok hp
    simp only [EStateM.run_get, EStateM.run_set] at h
    split at h
    · simp at h; obtain ⟨rfl, rfl⟩ := h; exact ⟨rfl, rfl⟩
    · simp at h
  · simp at h

end Act

namespace Device

open Act World

variable {w w' : World} {dv r : Ref} {d : Device} {backend : MemoryKind} {size : Nat}

theorem allocate_refused (hd : w.bodyAt dv = some (.device d)) (hpos : 0 < d.config.memoryLimit)
    (hover : d.config.memoryLimit < Nat.min (d.bytes + size) Word.max) :
    (allocate dv backend size).run w = .error (.backendFailure backend "allocate" (-12)) w := by
  have hover' : d.config.memoryLimit < d.bytes + size ∧ d.config.memoryLimit < Word.max := by
    simpa using hover
  simp [allocate, EStateM.run_bind, run_device hd, hpos, hover']

theorem allocate_admitted (hd : w.bodyAt dv = some (.device d))
    (h : (allocate dv backend size).run w = .ok r w') :
    (d.config.memoryLimit = 0 ∨ Nat.min (d.bytes + size) Word.max ≤ d.config.memoryLimit) ∧
      ∃ a d', w'.bodyAt r = some (.allocation a) ∧ w'.bodyAt dv = some (.device d') ∧
        a.device = dv ∧ a.buffer.len = size ∧ d'.config = d.config ∧
        d'.allocations = d.allocations + 1 ∧
        d'.bytes = (d.bytes + a.buffer.capacity) % Word.bound := by
  simp only [allocate, EStateM.run_bind, run_device hd] at h
  split at h
  · simp at h
  · next hfit =>
    refine ⟨by simpa [Nat.pos_iff_ne_zero, imp_iff_not_or] using hfit, ?_⟩
    obtain ⟨b, w₁, hb, h⟩ := bind_ok h
    obtain ⟨hnodes, hlen⟩ := hostAlloc_run_ok hb
    -- serving the buffer left the objects, so the device is still there
    have hd₁ : w₁.bodyAt dv = some (.device d) := by simpa [bodyAt, hnodes] using hd
    obtain ⟨u, w₂, hm, h⟩ := bind_ok h
    rw [run_modifyDevice hd₁] at hm
    cases hm
    rw [run_create] at h
    cases h
    have hlt : dv < w₁.nodes.size := lt_size_of_bodyAt hd₁
    refine ⟨_, { d with allocations := d.allocations + 1
                        bytes := (d.bytes + b.capacity) % Word.bound },
      bodyAt_push_size _ _, ?_, rfl, hlen, rfl, rfl, rfl⟩
    rw [bodyAt_push, if_neg (Nat.ne_of_lt (by simpa using hlt)), bodyAt_setBody_of_lt _ hlt]

/-- The memory limit of a device: a request is refused exactly when the limit is set and the
bytes handed out plus the bytes asked for pass it, and a refusal changes nothing; an admitted
request is counted by the capacity of the buffer that serves it. -/
theorem allocate_limit_law (hd : w.bodyAt dv = some (.device d)) (backend : MemoryKind)
    (size : Nat) :
    (0 < d.config.memoryLimit → d.config.memoryLimit < Nat.min (d.bytes + size) Word.max →
      (allocate dv backend size).run w = .error (.backendFailure backend "allocate" (-12)) w) ∧
    ∀ r w', (allocate dv backend size).run w = .ok r w' →
      (d.config.memoryLimit = 0 ∨ Nat.min (d.bytes + size) Word.max ≤ d.config.memoryLimit) ∧
      ∃ a d', w'.bodyAt r = some (.allocation a) ∧ w'.bodyAt dv = some (.device d') ∧
        a.device = dv ∧ a.buffer.len = size ∧ d'.config = d.config ∧
        d'.allocations = d.allocations + 1 ∧
        d'.bytes = (d.bytes + a.buffer.capacity) % Word.bound :=
  ⟨allocate_refused hd, fun _ _ h => allocate_admitted hd h⟩

def oneByteDevice : Device := { serial := 1, config := { memoryLimit := 1 }, allocator := 0 }

def oneByteWorld : World where
  nodes := #[⟨1, .device oneByteDevice⟩]
  allocators := #[some {}]

theorem oneByteWorld_device : oneByteWorld.bodyAt 0 = some (.device oneByteDevice) := rfl

/-- The one-byte request is admitted against the limit of one byte, and the device counts the
capacity of the buffer that serves it. -/
theorem one_byte_request_counted :
    ∃ w' a d', (allocate 0 .levelZero 1).run oneByteWorld = .ok 1 w' ∧
      w'.bodyAt 1 = some (.allocation a) ∧ w'.bodyAt 0 = some (.device d') ∧
      Nat.min (oneByteDevice.bytes + 1) Word.max ≤ oneByteDevice.config.memoryLimit ∧
      d'.bytes = (oneByteDevice.bytes + a.buffer.capacity) % Word.bound := by
  obtain ⟨w', hrun⟩ : ∃ w', (allocate 0 .levelZero 1).run oneByteWorld = .ok 1 w' := ⟨_, rfl⟩
  obtain ⟨hfit, a, d', ha, hd, -, -, -, -, hbytes⟩ :=
    (allocate_limit_law oneByteWorld_device .levelZero 1).2 1 w' hrun
  exact ⟨w', a, d', hrun, ha, hd, hfit.resolve_left (by decide), hbytes⟩

/-- A one-byte request on a device limited to one byte is admitted, and the device then counts
4096 bytes handed out. -/
theorem one_byte_limit_counts_a_page :
    ∃ w', (allocate 0 .levelZero 1).run oneByteWorld = .ok 1 w' ∧
      ∃ d', w'.bodyAt 0 = some (.device d') ∧ d'.config.memoryLimit = 1 ∧ d'.bytes = 4096 :=
  ⟨_, rfl, _, rfl, rfl, rfl⟩

end Device

end MemBridge
