import Mathlib
import MemBridge.Device.Basic

/-!
Recycling host allocation over any sequence of requests.

A `HostClient` is what the caller of one allocator sees: the allocator, the heap it draws on,
the buffers it holds, and how many buffers it asked for and dropped. It asks through
`HostPool.alloc` and drops through `HostPool.recycle`, as `Act.hostAlloc` and `Act.freeBuffer`
do on the allocators of a world. Serving requests keeps `HostClient.Accounted`: the buckets
of the pool are distinct and each stack holds one to `maxPerBucket` blocks of its bucket's
size (`HostPool.Stacked`), every held buffer has the bucket of its length as capacity, the
live bytes are the capacities held plus the bytes pooled, counted in word arithmetic, and the
counters of the pool count the requests. Main statement: `recycling_keeps_accounts`.

The stacks are last in, first out (`HostPool.LastInFirstOut`): a dropped block goes on top of
its bucket's stack (`HostPool.stack_recycle`), and a request takes the top block of its
bucket's stack or, when that stack is empty, a new block from the heap
(`HostPool.alloc_of_stack_cons`, `HostPool.alloc_of_stack_nil`).
-/

namespace MemBridge

def blockBytes (bs : List HostBlock) : Nat := (bs.map (·.size)).sum

@[simp] theorem blockBytes_nil : blockBytes [] = 0 := rfl

@[simp] theorem blockBytes_cons (b : HostBlock) (bs : List HostBlock) :
    blockBytes (b :: bs) = b.size + blockBytes bs := by
  simp [blockBytes]

@[simp] theorem blockBytes_append (bs cs : List HostBlock) :
    blockBytes (bs ++ cs) = blockBytes bs + blockBytes cs := by
  simp [blockBytes]

theorem blockBytes_eraseIdx {bs : List HostBlock} {i : Nat} {b : HostBlock} (h : bs[i]? = some b) :
    blockBytes (bs.eraseIdx i) + b.size = blockBytes bs := by
  induction bs generalizing i with
  | nil => simp at h
  | cons c cs ih =>
    cases i with
    | zero =>
      simp only [List.getElem?_cons_zero, Option.some.injEq] at h
      subst h
      simp
      omega
    | succ i =>
      simp only [List.getElem?_cons_succ] at h
      simp only [List.eraseIdx_cons_succ, blockBytes_cons]
      have := ih h
      omega

/-! ## Bucket sizes -/

theorem checkedAdd_of_lt {a b : Nat} (h : a + b < Word.bound) : checkedAdd a b = .ok (a + b) := by
  unfold checkedAdd Word.addChecked
  rw [if_pos h]

theorem checkedAdd_of_le {a b : Nat} (h : Word.bound ≤ a + b) :
    checkedAdd a b = .error Fault.addOverflow := by
  unfold checkedAdd Word.addChecked
  rw [if_neg (Nat.not_lt.2 h)]

theorem nextPowerOfTwo_ge (n : Nat) : n ≤ nextPowerOfTwo n := by
  unfold nextPowerOfTwo
  split
  · omega
  · have := Nat.lt_log2_self (n := n - 1)
    rw [Nat.pow_eq]
    omega

theorem bucketFor_small {n : Nat} (h0 : n ≠ 0) (h : n < bucketAlignment) :
    bucketFor n = .ok (nextPowerOfTwo (max n pageAlignment)) := by
  unfold bucketFor
  rw [if_neg h0, if_pos h]

theorem bucketFor_large {n : Nat} (h : bucketAlignment ≤ n)
    (hu : n + bucketAlignment < Word.bound) :
    bucketFor n = .ok ((n + bucketAlignment - 1) / bucketAlignment * bucketAlignment) := by
  have h0 : n ≠ 0 := by
    intro e
    subst e
    exact absurd h (by decide)
  unfold bucketFor
  rw [if_neg h0, if_neg (Nat.not_lt.2 h), checkedAdd_of_lt hu]
  rfl

theorem bucketFor_overflow {n : Nat} (hu : Word.bound ≤ n + bucketAlignment) :
    bucketFor n = .error Fault.addOverflow := by
  have hw : Word.bound = 18446744073709551616 := rfl
  have hb : bucketAlignment = 2097152 := rfl
  have h0 : n ≠ 0 := by rw [hw, hb] at hu; omega
  have hs : ¬n < bucketAlignment := by rw [hw, hb] at hu; rw [hb]; omega
  unfold bucketFor
  rw [if_neg h0, if_neg hs, checkedAdd_of_le hu]
  rfl

theorem bucketFor_ok_iff {n : Nat} :
    (∃ k, bucketFor n = .ok k) ↔ n + bucketAlignment < Word.bound := by
  have hb : bucketAlignment = 2097152 := rfl
  have hw : Word.bound = 18446744073709551616 := rfl
  by_cases h0 : n = 0
  · subst h0
    exact ⟨fun _ => by rw [hb, hw]; omega, fun _ => ⟨pageAlignment, rfl⟩⟩
  by_cases hs : n < bucketAlignment
  · rw [bucketFor_small h0 hs]
    exact ⟨fun _ => by rw [hb, hw] at *; omega, fun _ => ⟨_, rfl⟩⟩
  by_cases hu : n + bucketAlignment < Word.bound
  · exact ⟨fun _ => hu, fun _ => ⟨_, bucketFor_large (Nat.le_of_not_lt hs) hu⟩⟩
  · rw [bucketFor_overflow (Nat.le_of_not_lt hu)]
    constructor
    · rintro ⟨_, e⟩
      cases e
    · exact fun e => absurd e hu

theorem le_bucketFor {n k : Nat} (h : bucketFor n = .ok k) : max n 1 ≤ k := by
  have hb : bucketAlignment = 2097152 := rfl
  have hp : pageAlignment = 4096 := rfl
  by_cases h0 : n = 0
  · subst h0
    cases h
    rw [hp]
    omega
  by_cases hs : n < bucketAlignment
  · rw [bucketFor_small h0 hs] at h
    cases h
    have := nextPowerOfTwo_ge (max n pageAlignment)
    omega
  by_cases hu : n + bucketAlignment < Word.bound
  · rw [bucketFor_large (Nat.le_of_not_lt hs) hu] at h
    cases h
    rw [hb]
    omega
  · rw [bucketFor_overflow (Nat.le_of_not_lt hu)] at h
    cases h

theorem nextPowerOfTwo_le {m j : Nat} (h : m ≤ Nat.pow 2 j) : nextPowerOfTwo m ≤ Nat.pow 2 j := by
  unfold nextPowerOfTwo
  split
  · rw [Nat.pow_eq]
    exact Nat.one_le_two_pow
  · rw [Nat.pow_eq] at h ⊢
    apply Nat.pow_le_pow_right (by decide)
    have := (Nat.log2_lt (n := m - 1) (k := j) (by omega)).2 (by omega)
    omega

theorem bucketFor_lt {n k : Nat} (h : bucketFor n = .ok k) : k < Word.bound := by
  have hb : bucketAlignment = 2097152 := rfl
  have hw : Word.bound = 18446744073709551616 := rfl
  by_cases h0 : n = 0
  · subst h0
    cases h
    rw [hw]
    decide
  by_cases hs : n < bucketAlignment
  · rw [bucketFor_small h0 hs] at h
    cases h
    have := nextPowerOfTwo_le (m := max n pageAlignment) (j := 21)
      (by rw [Nat.pow_eq, show pageAlignment = 4096 from rfl]; rw [hb] at hs; omega)
    rw [Nat.pow_eq, hw] at *
    omega
  by_cases hu : n + bucketAlignment < Word.bound
  · rw [bucketFor_large (Nat.le_of_not_lt hs) hu] at h
    cases h
    rw [hb, hw] at *
    omega
  · rw [bucketFor_overflow (Nat.le_of_not_lt hu)] at h
    cases h

namespace HostPool

/-! ## Stacks -/

def buckets (p : HostPool) : List Nat := p.freeLists.map (·.1)

def pooledBytes (p : HostPool) : Nat := (p.freeLists.map fun e => blockBytes e.2).sum

/-- How the stacks of a pool stay: one stack per bucket, each holding one to `maxPerBucket`
blocks of its bucket's size. -/
structure Stacked (p : HostPool) : Prop where
  nodup : p.buckets.Nodup
  shaped : ∀ e ∈ p.freeLists, e.2 ≠ [] ∧ e.2.length ≤ maxPerBucket ∧ ∀ b ∈ e.2, b.size = e.1

theorem find?_filter_bucket_self (fl : List (Nat × List HostBlock)) (k : Nat) :
    (fl.filter (·.1 != k)).find? (·.1 == k) = none := by
  rw [List.find?_eq_none]
  intro x hx
  simpa using (List.mem_filter.1 hx).2

theorem find?_filter_bucket_ne (fl : List (Nat × List HostBlock)) {k k' : Nat} (h : k' ≠ k) :
    (fl.filter (·.1 != k)).find? (·.1 == k') = fl.find? (·.1 == k') := by
  rw [List.find?_filter]
  congr 1
  funext x
  by_cases hx : x.1 = k' <;> simp [hx, h]

theorem stack_setStack (p : HostPool) (k : Nat) (s : List HostBlock) (k' : Nat) :
    (p.setStack k s).stack k' = if k' = k then s else p.stack k' := by
  unfold stack setStack
  by_cases h : k' = k
  · subst h
    have hn : ∀ fl : List (Nat × List HostBlock), fl.find? (fun _ => false) = none :=
      fun fl => List.find?_eq_none.2 (by simp)
    cases s <;> simp [hn]
  · cases s <;> simp [find?_filter_bucket_ne _ h, h, Ne.symm h]

theorem buckets_setStack (p : HostPool) (k : Nat) (s : List HostBlock) :
    (p.setStack k s).buckets = p.buckets.filter (· != k) ++ if s.isEmpty then [] else [k] := by
  unfold buckets setStack
  cases s <;> simp [List.filter_map, Function.comp_def]

theorem pooledBytes_split {p : HostPool} (h : p.buckets.Nodup) (k : Nat) :
    p.pooledBytes = ((p.freeLists.filter (·.1 != k)).map fun e => blockBytes e.2).sum +
      blockBytes (p.stack k) := by
  obtain ⟨fl, _, _, _, _, _, _⟩ := p
  simp only [buckets, pooledBytes, stack] at h ⊢
  induction fl with
  | nil => simp
  | cons e fl ih =>
    rw [List.map_cons, List.nodup_cons] at h
    by_cases he : e.1 = k
    · have hfl : fl.filter (·.1 != k) = fl :=
        List.filter_eq_self.2 fun x hx => by
          have : x.1 ≠ k := fun hx' => h.1 (he ▸ hx' ▸ List.mem_map_of_mem hx)
          simpa using this
      have hnone : fl.find? (·.1 == k) = none :=
        List.find?_eq_none.2 fun x hx => by
          have : x.1 ≠ k := fun hx' => h.1 (he ▸ hx' ▸ List.mem_map_of_mem hx)
          simpa using this
      simp [he, hfl]
      omega
    · simp [he, ih h.2]
      omega

theorem pooledBytes_setStack {p : HostPool} (h : p.buckets.Nodup) (k : Nat)
    (s : List HostBlock) :
    (p.setStack k s).pooledBytes + blockBytes (p.stack k) = p.pooledBytes + blockBytes s := by
  rw [pooledBytes_split h k]
  unfold setStack pooledBytes
  cases s <;> simp
  omega

theorem Stacked.setStack {p : HostPool} (h : p.Stacked) {k : Nat} {s : List HostBlock}
    (hs : s.length ≤ maxPerBucket) (hk : ∀ b ∈ s, b.size = k) : (p.setStack k s).Stacked where
  nodup := by
    rw [buckets_setStack]
    refine List.nodup_append.2 ⟨h.nodup.filter _, ?_, ?_⟩
    · split <;> simp
    · intro a ha b hb
      split at hb
      · simp at hb
      · simp only [List.mem_filter, bne_iff_ne] at ha
        simp only [List.mem_singleton] at hb
        omega
  shaped e he := by
    unfold HostPool.setStack at he
    simp only at he
    split at he
    · exact h.shaped e (List.mem_filter.1 he).1
    · rcases List.mem_append.1 he with he | he
      · exact h.shaped e (List.mem_filter.1 he).1
      · simp only [List.mem_singleton] at he
        subst he
        exact ⟨by simpa using ‹¬s.isEmpty = true›, hs, hk⟩

theorem Stacked.stack {p : HostPool} (h : p.Stacked) (k : Nat) :
    (p.stack k).length ≤ maxPerBucket ∧ ∀ b ∈ p.stack k, b.size = k := by
  unfold HostPool.stack
  cases hf : p.freeLists.find? (·.1 == k) with
  | none => simp
  | some e =>
    have hk : e.1 = k := by simpa using List.find?_some hf
    obtain ⟨-, hl, hb⟩ := h.shaped e (List.mem_of_find?_eq_some hf)
    exact ⟨hl, fun b hmem => (hb b hmem).trans hk⟩

theorem Stacked.of_freeLists {p q : HostPool} (h : p.Stacked) (e : q.freeLists = p.freeLists) :
    q.Stacked :=
  ⟨by simpa [buckets, e] using h.nodup, by simpa [e] using h.shaped⟩

/-! ## One request -/

@[simp] theorem setStack_hits (p : HostPool) (k : Nat) (s : List HostBlock) :
    (p.setStack k s).hits = p.hits := rfl

@[simp] theorem setStack_misses (p : HostPool) (k : Nat) (s : List HostBlock) :
    (p.setStack k s).misses = p.misses := rfl

@[simp] theorem setStack_recycled (p : HostPool) (k : Nat) (s : List HostBlock) :
    (p.setStack k s).recycled = p.recycled := rfl

@[simp] theorem setStack_overflows (p : HostPool) (k : Nat) (s : List HostBlock) :
    (p.setStack k s).overflows = p.overflows := rfl

@[simp] theorem setStack_liveBytes (p : HostPool) (k : Nat) (s : List HostBlock) :
    (p.setStack k s).liveBytes = p.liveBytes := rfl

theorem stack_congr {p q : HostPool} (h : p.freeLists = q.freeLists) (k : Nat) :
    p.stack k = q.stack k := by
  simp [stack, h]

theorem take_of_stack_cons {p : HostPool} {k : Nat} {b : HostBlock} {rest : List HostBlock}
    (h : p.stack k = b :: rest) : p.take k = (some b, p.setStack k rest) := by
  simp [take, h]

theorem alloc_of_stack_cons {p : HostPool} {heap : Heap} {n k : Nat} {b : HostBlock}
    {rest : List HostBlock} (hk : bucketFor n = .ok k) (h : p.stack k = b :: rest) :
    p.alloc heap n = (.ok b, { p.setStack k rest with hits := p.hits + 1 }, heap) := by
  simp [alloc, hk, take_of_stack_cons h]

theorem alloc_of_stack_nil {p : HostPool} {heap heap' : Heap} {n k id : Nat}
    (hk : bucketFor n = .ok k) (h : p.stack k = []) (ha : heap.allocate k = .ok (id, heap')) :
    p.alloc heap n = (.ok ⟨id, k⟩,
      { p with misses := p.misses + 1, liveBytes := (p.liveBytes + k) % Word.bound }, heap') := by
  simp [alloc, hk, take, h, ha]

theorem alloc_of_stack_nil_error {p : HostPool} {heap : Heap} {n k : Nat} {e : Fault}
    (hk : bucketFor n = .ok k) (h : p.stack k = []) (ha : heap.allocate k = .error e) :
    p.alloc heap n = (.error e, { p with misses := p.misses + 1 }, heap) := by
  simp [alloc, hk, take, h, ha]

theorem stack_recycle {p : HostPool} {b : HostBlock} (h : (p.stack b.size).length < maxPerBucket) :
    (p.recycle b).1.stack b.size = b :: p.stack b.size ∧ (p.recycle b).2 = none := by
  have hf : (p.recycle b).1.freeLists = (p.setStack b.size (b :: p.stack b.size)).freeLists := by
    simp [recycle, if_neg (Nat.not_le.2 h)]
  refine ⟨?_, by simp [recycle, if_neg (Nat.not_le.2 h)]⟩
  rw [stack_congr hf, stack_setStack, if_pos rfl]

/-- The stacks are last in, first out: a request takes the top block of its bucket's stack, or
a new block of the heap when that stack is empty, and a block dropped onto a stack with room
becomes its top. -/
structure LastInFirstOut (p : HostPool) (heap : Heap) : Prop where
  takes_top : ∀ n k b rest, bucketFor n = .ok k → p.stack k = b :: rest →
    (p.alloc heap n).1 = .ok b
  takes_fresh : ∀ n k, bucketFor n = .ok k → p.stack k = [] →
    (p.alloc heap n).1 = (heap.allocate k).map fun r => ⟨r.1, k⟩
  drops_on_top : ∀ b : HostBlock, (p.stack b.size).length < maxPerBucket →
    (p.recycle b).1.stack b.size = b :: p.stack b.size

theorem lastInFirstOut (p : HostPool) (heap : Heap) : p.LastInFirstOut heap where
  takes_top _ _ _ _ hk hs := by rw [alloc_of_stack_cons hk hs]
  takes_fresh _ _ hk hs := by
    cases ha : heap.allocate _ with
    | error e => rw [alloc_of_stack_nil_error hk hs ha]; rfl
    | ok r => rw [alloc_of_stack_nil hk hs ha]; rfl
  drops_on_top _ h := (stack_recycle h).1

end HostPool

/-! ## A caller of one allocator -/

/-- What the caller of one allocator sees: the allocator, the heap it draws on, the buffers it
holds in the order it got them, and the number of buffers it asked for and dropped. -/
structure HostClient where
  pool : HostPool := {}
  heap : Heap := {}
  held : List Buffer := []
  asked : Nat := 0
  dropped : Nat := 0

/-- What a caller does: ask for `n` bytes, or drop the `i`-th buffer it holds. -/
inductive HostRequest where
  | alloc (n : Nat)
  | drop (i : Nat)

def HostRequest.Rounds : HostRequest → Prop
  | .alloc n => n + bucketAlignment < Word.bound
  | .drop _ => True

instance : DecidablePred HostRequest.Rounds := fun r =>
  match r with
  | .alloc n => inferInstanceAs (Decidable (n + bucketAlignment < Word.bound))
  | .drop _ => inferInstanceAs (Decidable True)

namespace HostClient

/-- Serves one request. A buffer handed out is held; a dropped buffer goes back to the
allocator, which pools its block or gives it back to the system. -/
def serve (c : HostClient) : HostRequest → HostClient
  | .alloc n =>
    match c.pool.alloc c.heap n with
    | (.ok b, pool, heap) =>
      { c with pool, heap, held := c.held ++ [⟨0, b, n⟩], asked := c.asked + 1 }
    | (.error _, pool, heap) => { c with pool, heap, asked := c.asked + 1 }
  | .drop i =>
    match c.held[i]? with
    | some b =>
      { c with pool := (c.pool.recycle b.block).1, held := c.held.eraseIdx i,
               dropped := c.dropped + 1 }
    | none => c

def run (c : HostClient) (rs : List HostRequest) : HostClient := rs.foldl serve c

def heldBytes (c : HostClient) : Nat := blockBytes (c.held.map (·.block))

/-- The accounts of an allocator as its caller can check them: the stacks keep their shape,
every buffer held has the bucket of its length as capacity, the live bytes are those held and
those pooled, in word arithmetic, and hits and misses count the requests for bytes while
recycled and overflowing blocks count the drops. -/
structure Accounted (c : HostClient) : Prop where
  stacked : c.pool.Stacked
  capacity : ∀ b ∈ c.held, bucketFor b.len = .ok b.capacity
  live : c.pool.liveBytes = (c.heldBytes + c.pool.pooledBytes) % Word.bound
  asked : c.pool.hits + c.pool.misses = c.asked
  dropped : c.pool.recycled + c.pool.overflows = c.dropped

theorem accounted_start (heap : Heap) : ({ heap } : HostClient).Accounted where
  stacked := ⟨by simp [HostPool.buckets], by simp⟩
  capacity := by simp
  live := by simp [heldBytes, HostPool.pooledBytes]
  asked := rfl
  dropped := rfl

variable {c : HostClient}

theorem Accounted.alloc_pooled (h : c.Accounted) {n k : Nat} {b : HostBlock}
    {rest : List HostBlock} (hk : bucketFor n = .ok k) (hs : c.pool.stack k = b :: rest) :
    (c.serve (.alloc n)).Accounted := by
  obtain ⟨hl, hsz⟩ := h.stacked.stack k
  have hb : b.size = k := hsz b (by simp [hs])
  have hrest : ∀ x ∈ rest, x.size = k :=
    fun x hx => hsz x (by rw [hs]; exact List.mem_cons_of_mem _ hx)
  have hbytes := HostPool.pooledBytes_setStack h.stacked.nodup k rest
  rw [hs, blockBytes_cons] at hbytes
  rw [hs] at hl
  simp only [serve, HostPool.alloc_of_stack_cons hk hs]
  refine ⟨(h.stacked.setStack (by simp at hl; omega) hrest).of_freeLists rfl, ?_, ?_, ?_,
    h.dropped⟩
  · intro x hx
    rcases List.mem_append.1 hx with hx | hx
    · exact h.capacity x hx
    · simp only [List.mem_singleton] at hx
      subst hx
      simpa [Buffer.capacity, hb] using hk
  · have hlive := h.live
    dsimp only
    simp only [HostPool.pooledBytes, HostPool.setStack_liveBytes, heldBytes, List.map_append,
      List.map_cons, List.map_nil, blockBytes_append, blockBytes_cons, blockBytes_nil]
      at hlive hbytes ⊢
    rw [hlive]
    congr 1
    omega
  · simp only [HostPool.setStack_misses]
    have := h.asked
    omega

theorem Accounted.alloc_fresh (h : c.Accounted) {n k : Nat} (hk : bucketFor n = .ok k)
    (hs : c.pool.stack k = []) : (c.serve (.alloc n)).Accounted := by
  cases ha : c.heap.allocate k with
  | error e =>
    simp only [serve, HostPool.alloc_of_stack_nil_error hk hs ha]
    refine ⟨h.stacked.of_freeLists rfl, h.capacity, ?_, ?_, h.dropped⟩
    · exact h.live
    · have := h.asked
      simp only
      omega
  | ok r =>
    obtain ⟨id, heap'⟩ := r
    simp only [serve, HostPool.alloc_of_stack_nil hk hs ha]
    refine ⟨h.stacked.of_freeLists rfl, ?_, ?_, ?_, h.dropped⟩
    · intro x hx
      rcases List.mem_append.1 hx with hx | hx
      · exact h.capacity x hx
      · simp only [List.mem_singleton] at hx
        subst hx
        exact hk
    · have hlive := h.live
      dsimp only
      simp only [HostPool.pooledBytes, heldBytes, List.map_append, List.map_cons, List.map_nil,
        blockBytes_append, blockBytes_cons, blockBytes_nil] at hlive ⊢
      rw [hlive, Nat.mod_add_mod]
      congr 1
      omega
    · have := h.asked
      simp only
      omega

theorem Accounted.alloc (h : c.Accounted) {n : Nat}
    (hn : n + bucketAlignment < Word.bound) : (c.serve (.alloc n)).Accounted := by
  obtain ⟨k, hk⟩ := bucketFor_ok_iff.2 hn
  cases hs : c.pool.stack k with
  | nil => exact h.alloc_fresh hk hs
  | cons b rest => exact h.alloc_pooled hk hs

theorem Accounted.drop (h : c.Accounted) (i : Nat) : (c.serve (.drop i)).Accounted := by
  cases hi : c.held[i]? with
  | none => simpa [serve, hi] using h
  | some b =>
    have hmem : b ∈ c.held := List.mem_of_getElem? hi
    have hheld : c.heldBytes = blockBytes ((c.held.eraseIdx i).map (·.block)) + b.capacity := by
      rw [heldBytes, ← blockBytes_eraseIdx (i := i) (b := b.block) (by simp [hi]),
        List.eraseIdx_map]
      rfl
    have hcap : ∀ x ∈ c.held.eraseIdx i, bucketFor x.len = .ok x.capacity :=
      fun x hx => h.capacity x (List.mem_of_mem_eraseIdx hx)
    have hlt : b.capacity < Word.bound := bucketFor_lt (h.capacity b hmem)
    obtain ⟨hl, hsz⟩ := h.stacked.stack b.block.size
    simp only [serve, hi, HostPool.recycle]
    split
    · -- a full stack: the block goes back to the system and its bytes stop being live
      refine ⟨h.stacked.of_freeLists rfl, hcap, ?_, h.asked, ?_⟩
      · have hlive := h.live
        have hw : Word.bound = 18446744073709551616 := rfl
        dsimp only
        rw [hheld] at hlive
        simp only [HostPool.pooledBytes, heldBytes, Buffer.capacity] at hlive hlt ⊢
        rw [hlive]
        rw [hw] at hlt ⊢
        omega
      · have := h.dropped
        simp only
        omega
    · -- room on the stack: the block is pooled on top and its bytes stay live
      next hroom =>
      have hbytes := HostPool.pooledBytes_setStack h.stacked.nodup b.block.size
        (b.block :: c.pool.stack b.block.size)
      have hlen : (b.block :: c.pool.stack b.block.size).length ≤ maxPerBucket := by
        rw [List.length_cons]
        omega
      refine ⟨(h.stacked.setStack hlen ?_).of_freeLists rfl, hcap, ?_, h.asked, ?_⟩
      · intro x hx
        rcases List.mem_cons.1 hx with rfl | hx
        · rfl
        · exact hsz x hx
      · have hlive := h.live
        dsimp only
        rw [hheld] at hlive
        simp only [HostPool.pooledBytes, heldBytes, Buffer.capacity, blockBytes_cons]
          at hlive hbytes ⊢
        rw [hlive]
        congr 1
        omega
      · have := h.dropped
        simp only
        omega

theorem Accounted.serve (h : c.Accounted) {r : HostRequest} (hr : r.Rounds) :
    (c.serve r).Accounted := by
  cases r with
  | alloc n => exact h.alloc hr
  | drop i => exact h.drop i

theorem Accounted.run (h : c.Accounted) {rs : List HostRequest} (hrs : ∀ r ∈ rs, r.Rounds) :
    (c.run rs).Accounted := by
  induction rs generalizing c with
  | nil => exact h
  | cons r rs ih =>
    exact ih (h.serve (hrs r List.mem_cons_self)) fun r' hr' => hrs r' (List.mem_cons_of_mem r hr')

end HostClient

/-- A fresh allocator serving any requests for bytes that round up to a bucket, and drops of
the buffers it handed out in any order, keeps its accounts: every stack holds one to
`maxPerBucket` blocks of its bucket's size, every buffer held has the bucket of its length as
capacity, the live bytes are the capacities held plus the bytes pooled (in word arithmetic,
which the memory of a machine keeps below its bound), hits and misses count the requests and
recycled and overflowing blocks count the drops. A buffer's capacity holds its length and at
least one byte, and its first byte starts a page. The stacks stay last in, first out. -/
theorem recycling_keeps_accounts (heap : Heap) (rs : List HostRequest) (hrs : ∀ r ∈ rs, r.Rounds) :
    let c := ({ heap } : HostClient).run rs
    c.Accounted ∧
      (∀ b ∈ c.held, max b.len 1 ≤ b.capacity ∧ b.base.offset % pageAlignment = 0) ∧
      c.pool.LastInFirstOut c.heap := by
  intro c
  have h : c.Accounted := (HostClient.accounted_start heap).run hrs
  exact ⟨h, fun b hb => ⟨le_bucketFor (h.capacity b hb), rfl⟩, HostPool.lastInFirstOut _ _⟩

/-- Three requests: a buffer, dropped, and a second buffer of the same bucket. -/
theorem reuse_after_drop_keeps_accounts :
    (∀ r ∈ [HostRequest.alloc 3000, .drop 0, .alloc 4000], r.Rounds) ∧
    let c := ({ heap := {} } : HostClient).run [.alloc 3000, .drop 0, .alloc 4000]
    c.Accounted ∧
      (∀ b ∈ c.held, max b.len 1 ≤ b.capacity ∧ b.base.offset % pageAlignment = 0) ∧
      c.pool.LastInFirstOut c.heap :=
  ⟨by decide, recycling_keeps_accounts {} _ (by decide)⟩

end MemBridge
