import MemBridge.Proofs.Layout.Elements
import MemBridge.Proofs.Host.Bytes
import MemBridge.Proofs.Store.Basic
import MemBridge.Tensor.View

/-!
Reading and writing the elements of a host tensor.

A tensor's bytes are read and written run by run from its host address. Through the byte view
of host memory this is exact: a read gives the bytes of the elements in row-major order
(`run_readBytes`), and a write of as many bytes as the elements hold stores them, in row-major
order, into the bytes of the elements and changes no other byte (`run_writeBytes`). When no two
elements share a byte, a read after a write gives back what was written
(`readBytes_after_writeBytes`).

The two loops are characterised by what one step does (`run_forIn_append`, `run_forIn_store`),
so no statement depends on the shape of the elaborated loop body.

Main statement: `strided_access_exact`.
-/

namespace MemBridge

namespace Act

variable {w : World}

theorem run_readHost (a : Addr) (len : Nat) :
    (readHost a len).run w = .ok (w.heap.read a.block a.offset len) w := rfl

theorem run_writeHost (a : Addr) (bytes : ByteArray) :
    (writeHost a bytes).run w =
      .ok () { w with heap := w.heap.write a.block a.offset bytes } := rfl

end Act

namespace Heap

/-- The heap after writing consecutive slices of `bytes`, from position `c` on, at the
`(offset, length)` runs `rs` from `base`, one run after another. -/
def writeRuns (h : Heap) (base : Addr) (bytes : ByteArray) : List (Nat × Nat) → Nat → Heap
  | [], _ => h
  | (off, len) :: rs, c =>
    (h.write base.block (base.offset + off) (bytes.extract c (c + len))).writeRuns base bytes rs
      (c + len)

theorem size_writeRuns (h : Heap) (base : Addr) (bytes : ByteArray) (rs : List (Nat × Nat))
    (c : Nat) : (h.writeRuns base bytes rs c).contents.size = h.contents.size := by
  induction rs generalizing h c with
  | nil => rfl
  | cons r rs ih =>
    obtain ⟨off, len⟩ := r
    rw [writeRuns, ih, size_write]

theorem byte_writeRuns_of_ne (h : Heap) (base : Addr) (bytes : ByteArray)
    (rs : List (Nat × Nat)) (c : Nat) {b : Nat} (hb : b ≠ base.block) :
    (h.writeRuns base bytes rs c).byte b = h.byte b := by
  induction rs generalizing h c with
  | nil => rfl
  | cons r rs ih =>
    obtain ⟨off, len⟩ := r
    rw [writeRuns, ih, byte_write_of_ne _ hb]

theorem byte_writeRuns (h : Heap) (base : Addr) (bytes : ByteArray) (rs : List (Nat × Nat))
    (c : Nat) (hblock : base.block < h.contents.size)
    (hroom : c + (Layout.runBytes rs).length ≤ bytes.size) :
    (h.writeRuns base bytes rs c).byte base.block = storeAll (h.byte base.block)
      (((Layout.runBytes rs).map (base.offset + ·)).zip (bytes.data.toList.drop c)) := by
  induction rs generalizing h c with
  | nil => simp [writeRuns]
  | cons r rs ih =>
    obtain ⟨off, len⟩ := r
    have hlen : c + len + (Layout.runBytes rs).length ≤ bytes.size := by
      simpa [Nat.add_assoc] using hroom
    have hext : (bytes.extract c (c + len)).data.toList = (bytes.data.toList.drop c).take len := by
      simp [ByteArray.data_extract, Array.toList_extract]
    have hsz : (bytes.extract c (c + len)).size = len := by
      simp only [ByteArray.size_extract]
      omega
    have htake : ((bytes.data.toList.drop c).take len).length = len := by
      simp only [List.length_take, List.length_drop, Array.length_toList, ByteArray.size_data]
      omega
    have hsplit : bytes.data.toList.drop c =
        (bytes.data.toList.drop c).take len ++ bytes.data.toList.drop (c + len) := by
      rw [← List.drop_drop, List.take_append_drop]
    -- the first run's stores, then the others'
    rw [writeRuns, ih _ _ (by rwa [size_write]) hlen, byte_write_eq_storeAll _ hblock, hsz, hext]
    conv_rhs => rw [hsplit]
    rw [Layout.runBytes_cons, List.map_append, List.map_add_range',
      List.zip_append (by simp [htake]), storeAll_append]

theorem byte_writeRuns_runs (h : Heap) (base : Addr) (bytes : ByteArray) {l : Layout}
    (hrank : l.stride.length = l.shape.length) (hblock : base.block < h.contents.size)
    (hsize : bytes.size = (Layout.bytePositions l.shape l.stride l.elem.size).length) :
    (h.writeRuns base bytes l.runs 0).byte base.block = storeAll (h.byte base.block)
      (((Layout.bytePositions l.shape l.stride l.elem.size).map (base.offset + ·)).zip
        bytes.data.toList) := by
  rw [byte_writeRuns _ _ _ _ _ hblock (by rw [Layout.runBytes_runs hrank, hsize, Nat.zero_add]),
    Layout.runBytes_runs hrank, List.drop_zero]

theorem byte_writeRuns_runs_of_not_mem (h : Heap) (base : Addr) (bytes : ByteArray) {l : Layout}
    (hrank : l.stride.length = l.shape.length) (hblock : base.block < h.contents.size)
    (hsize : bytes.size = (Layout.bytePositions l.shape l.stride l.elem.size).length) {b i : Nat}
    (hbi : b ≠ base.block ∨ i ∉ (Layout.bytePositions l.shape l.stride l.elem.size).map
      (base.offset + ·)) :
    (h.writeRuns base bytes l.runs 0).byte b i = h.byte b i := by
  by_cases hb : b = base.block
  · subst hb
    rw [byte_writeRuns_runs _ _ _ hrank hblock hsize, storeAll_of_not_mem]
    rw [List.map_fst_zip (by simp [hsize])]
    exact hbi.resolve_left (not_not.2 rfl)
  · rw [byte_writeRuns_of_ne _ _ _ _ _ hb]

end Heap

theorem toByteArray_data_toList (b : ByteArray) : b.data.toList.toByteArray = b := by
  ext1
  simp [List.data_toByteArray]

namespace Tensor

open Act

variable {w : World}

theorem run_forIn_append {α : Type} (xs : List α)
    (f : α → ByteArray → Act (ForInStep ByteArray)) (g : α → List UInt8)
    (hf : ∀ x s, (f x s).run w = .ok (.yield (s ++ (g x).toByteArray)) w) (out : ByteArray) :
    (forIn xs out f).run w = .ok (out ++ (xs.flatMap g).toByteArray) w := by
  induction xs generalizing out with
  | nil => simp [ByteArray.append_empty]
  | cons x xs ih =>
    rw [List.forIn_cons, EStateM.run_bind, hf]
    simp [ih, List.toByteArray_append, ByteArray.append_assoc]

theorem run_elementBytes {t : Tensor} {n : Nat} (hn : t.layout.size = .ok n)
    (hfit : n * t.layout.elem.size < Word.bound) :
    (elementBytes t).run w = .ok (n * t.layout.elem.size) w := by
  simp [elementBytes, hn, lift, checkedMul, Word.mulChecked, hfit]

theorem run_readBytes {r : Ref} {t : Tensor} {a : Addr} {n : Nat}
    (ht : w.bodyAt r = some (.tensor t)) (hrank : t.layout.stride.length = t.layout.shape.length)
    (ha : t.host = some a) (hn : t.layout.size = .ok n)
    (hcap : n * t.layout.elem.size < Nat.pow 2 63) :
    (readBytes r).run w =
      .ok (((Layout.bytePositions t.layout.shape t.layout.stride t.layout.elem.size).map
        fun p => w.heap.byte a.block (a.offset + p)).toByteArray) w := by
  have hfit : n * t.layout.elem.size < Word.bound := lt_trans hcap (by decide)
  simp only [readBytes, EStateM.run_bind, run_tensor ht, data, ha, lift, run_elementBytes hn hfit,
    EStateM.run_pure, ge_iff_le, if_neg (Nat.not_le.2 hcap)]
  -- the loop reads the runs one after another
  rw [run_forIn_append _ _ fun x => (w.heap.read a.block (a.offset + x.1) x.2).data.toList]
  · simp only [ByteArray.empty_append, ← Layout.runBytes_runs hrank, Layout.runBytes,
      Heap.read_toList, List.map_flatMap, ← List.map_add_range', List.map_map]
    rfl
  · intro x s
    simp [run_readHost, toByteArray_data_toList]

theorem run_forIn_store (base : Addr) (bytes : ByteArray) (rs : List (Nat × Nat))
    (f : (Nat × Nat) → Nat → Act (ForInStep Nat))
    (hf : ∀ x c w, (f x c).run w = .ok (.yield (c + x.2))
      { w with heap := w.heap.write base.block (base.offset + x.1) (bytes.extract c (c + x.2)) })
    (c : Nat) (w : World) :
    (forIn rs c f).run w =
      .ok (c + (Layout.runBytes rs).length) { w with heap := w.heap.writeRuns base bytes rs c } := by
  induction rs generalizing c w with
  | nil => simp [Heap.writeRuns]
  | cons x rs ih =>
    rw [List.forIn_cons, EStateM.run_bind, hf]
    simp [ih, Heap.writeRuns, Nat.add_assoc]

theorem run_writeAt {layout : Layout} {base : Addr} {bytes : ByteArray} {n : Nat}
    (hn : layout.size = .ok n) (hfit : n * layout.elem.size < Word.bound)
    (hsize : bytes.size = n * layout.elem.size) :
    (writeAt (.ok base) layout bytes).run w =
      .ok () { w with heap := w.heap.writeRuns base bytes layout.runs 0 } := by
  simp only [writeAt, EStateM.run_bind, lift, hn, checkedMul, Word.mulChecked, if_pos hfit,
    EStateM.run_pure, hsize, bne_self_eq_false, Bool.false_eq_true, if_false]
  -- the match on the loop's result closes once the loop is run
  rw [run_forIn_store base bytes]
  intro x c w
  rfl

theorem run_writeBytes {r : Ref} {t : Tensor} {a : Addr} {n : Nat} {bytes : ByteArray}
    (ht : w.bodyAt r = some (.tensor t)) (ha : t.host = some a) (hn : t.layout.size = .ok n)
    (hfit : n * t.layout.elem.size < Word.bound) (hsize : bytes.size = n * t.layout.elem.size) :
    (writeBytes r bytes).run w =
      .ok () { w with heap := w.heap.writeRuns a bytes t.layout.runs 0 } := by
  simp only [writeBytes, EStateM.run_bind, run_tensor ht, data, ha]
  exact run_writeAt hn hfit hsize

theorem readBytes_after_writeBytes {r : Ref} {t : Tensor} {a : Addr} {n : Nat} {bytes : ByteArray}
    (ht : w.bodyAt r = some (.tensor t)) (hrank : t.layout.stride.length = t.layout.shape.length)
    (ha : t.host = some a) (hn : t.layout.size = .ok n)
    (hcap : n * t.layout.elem.size < Nat.pow 2 63) (hsize : bytes.size = n * t.layout.elem.size)
    (hblock : a.block < w.heap.contents.size)
    (hnodup : (Layout.bytePositions t.layout.shape t.layout.stride t.layout.elem.size).Nodup) :
    (do writeBytes r bytes; readBytes r).run w =
      .ok bytes { w with heap := w.heap.writeRuns a bytes t.layout.runs 0 } := by
  have hfit : n * t.layout.elem.size < Word.bound := lt_trans hcap (by decide)
  have hlen : (Layout.bytePositions t.layout.shape t.layout.stride t.layout.elem.size).length =
      bytes.size := by
    rw [Layout.length_bytePositions, ← Layout.size_eq_ok hn, hsize]
  -- the write leaves the tensor where it was
  have ht' : ({ w with heap := w.heap.writeRuns a bytes t.layout.runs 0 } : World).bodyAt r =
      some (.tensor t) := ht
  rw [EStateM.run_bind, run_writeBytes ht ha hn hfit hsize]
  dsimp only
  rw [run_readBytes ht' hrank ha hn hcap]
  congr 1
  have hshift : ∀ (g : Nat → UInt8) (ps : List Nat),
      ps.map (fun p => g (a.offset + p)) = (ps.map (a.offset + ·)).map g := by
    simp [Function.comp_def]
  rw [Heap.byte_writeRuns_runs _ _ _ hrank hblock hlen.symm, hshift, map_storeAll_zip
    (hnodup.map (add_right_injective a.offset)) (by simp [hlen]), toByteArray_data_toList]

theorem run_readBytes_capacity {r : Ref} {t : Tensor} {a : Addr} {n : Nat}
    (ht : w.bodyAt r = some (.tensor t)) (ha : t.host = some a) (hn : t.layout.size = .ok n)
    (hfit : n * t.layout.elem.size < Word.bound) (hcap : Nat.pow 2 63 ≤ n * t.layout.elem.size) :
    (readBytes r).run w = .error (.halt "capacity overflow") w := by
  simp only [readBytes, EStateM.run_bind, run_tensor ht, data, ha, lift, run_elementBytes hn hfit,
    EStateM.run_pure, ge_iff_le, if_pos hcap]
  rfl

theorem run_writeBytes_stores {r : Ref} {t : Tensor} {a : Addr} {n : Nat} {bytes : ByteArray}
    (ht : w.bodyAt r = some (.tensor t)) (hrank : t.layout.stride.length = t.layout.shape.length)
    (ha : t.host = some a) (hn : t.layout.size = .ok n)
    (hfit : n * t.layout.elem.size < Word.bound) (hsize : bytes.size = n * t.layout.elem.size)
    (hblock : a.block < w.heap.contents.size) :
    ∃ H, (writeBytes r bytes).run w = .ok () { w with heap := H } ∧
      H.byte a.block = storeAll (w.heap.byte a.block)
        (((Layout.bytePositions t.layout.shape t.layout.stride t.layout.elem.size).map
          (a.offset + ·)).zip bytes.data.toList) ∧
      ∀ b i, (b ≠ a.block ∨ i ∉ (Layout.bytePositions t.layout.shape t.layout.stride
        t.layout.elem.size).map (a.offset + ·)) → H.byte b i = w.heap.byte b i := by
  have hlen : bytes.size =
      (Layout.bytePositions t.layout.shape t.layout.stride t.layout.elem.size).length := by
    rw [Layout.length_bytePositions, ← Layout.size_eq_ok hn, hsize]
  refine ⟨_, run_writeBytes ht ha hn hfit hsize,
    Heap.byte_writeRuns_runs _ _ _ hrank hblock hlen, fun b i hbi => ?_⟩
  exact Heap.byte_writeRuns_runs_of_not_mem _ _ _ hrank hblock hlen hbi

/-- Strided access to a host tensor is exact. Take a layout that `withStride` accepts, with `n`
elements whose bytes fit in the largest buffer, and a host tensor with it whose address lies in a
block that was made. The runs of the layout cover the bytes of its elements in row-major order and
end within its span; a read gives the bytes at those positions from the tensor's address; a write
of as many bytes stores them there in row-major order and changes no other byte; and when no two
elements share a byte, a read after the write gives back the bytes written. -/
theorem strided_access_exact {shape stride : List Nat} {elem : ElementType} {r : Ref}
    {t : Tensor} {a : Addr} {n : Nat} (hl : Layout.withStride shape stride elem = .ok t.layout)
    (hn : t.layout.size = .ok n) (hcap : n * elem.size < Nat.pow 2 63)
    (ht : w.bodyAt r = some (.tensor t)) (ha : t.host = some a)
    (hblock : a.block < w.heap.contents.size) :
    Layout.runBytes t.layout.runs = Layout.bytePositions shape stride elem.size ∧
    (∀ run ∈ t.layout.runs, run.1 + run.2 ≤ t.layout.span) ∧
    (readBytes r).run w =
      .ok (((Layout.bytePositions shape stride elem.size).map
        fun p => w.heap.byte a.block (a.offset + p)).toByteArray) w ∧
    ∀ bytes : ByteArray, bytes.size = n * elem.size →
      ∃ H, (writeBytes r bytes).run w = .ok () { w with heap := H } ∧
        H.byte a.block = storeAll (w.heap.byte a.block)
          (((Layout.bytePositions shape stride elem.size).map (a.offset + ·)).zip
            bytes.data.toList) ∧
        (∀ b i, (b ≠ a.block ∨ i ∉ (Layout.bytePositions shape stride elem.size).map
          (a.offset + ·)) → H.byte b i = w.heap.byte b i) ∧
        ((Layout.indices shape).Pairwise (fun i j =>
            (List.range' (Layout.offsetOf i stride) elem.size).Disjoint
              (List.range' (Layout.offsetOf j stride) elem.size)) →
          (do writeBytes r bytes; readBytes r).run w = .ok bytes { w with heap := H }) := by
  obtain ⟨hrank, -, hlay⟩ := Layout.withStride_eq_ok.1 hl
  -- state everything about the tensor's own layout
  obtain ⟨rfl, rfl, rfl⟩ : shape = t.layout.shape ∧ stride = t.layout.stride ∧
      elem = t.layout.elem := by
    rw [hlay]
    exact ⟨rfl, rfl, rfl⟩
  have hfit : n * t.layout.elem.size < Word.bound := lt_trans hcap (by decide)
  refine ⟨Layout.runBytes_runs hrank, Layout.runs_end_within_span hrank,
    run_readBytes ht hrank ha hn hcap, fun bytes hsize => ?_⟩
  obtain ⟨H, hrun, hbyte, hframe⟩ := run_writeBytes_stores ht hrank ha hn hfit hsize hblock
  refine ⟨H, hrun, hbyte, hframe, fun hdisj => ?_⟩
  -- the heap after the write is the one the runs leave
  have hH : H = w.heap.writeRuns a bytes t.layout.runs 0 := by
    rw [run_writeBytes ht ha hn hfit hsize] at hrun
    cases hrun
    rfl
  rw [hH]
  exact readBytes_after_writeBytes ht hrank ha hn hcap hsize hblock
    (Layout.nodup_bytePositions hdisj)

def windowWorld : World where
  nodes := #[⟨1, .tensor
    { kind := .cpu, layout := ⟨[2, 2], [4, 1], .uint8⟩, primary := "data", host := some ⟨0, 5⟩ }⟩]
  heap := ⟨#[⟨#[0, 1, 2, 3, 4, 5, 6, 7, 8, 9, 10, 11, 12, 13, 14, 15]⟩]⟩

/-- The window reads its four bytes and skips the padding between its rows. -/
theorem window_read_skips_padding :
    (readBytes 0).run windowWorld = .ok ⟨#[5, 6, 9, 10]⟩ windowWorld := by
  have hl : Layout.withStride [2, 2] [4, 1] .uint8 = .ok ⟨[2, 2], [4, 1], .uint8⟩ := rfl
  rw [(strided_access_exact (w := windowWorld) (r := 0) (n := 4) hl rfl (by decide) rfl rfl
    (by decide)).2.2.1]
  rfl

def broadcastWorld : World where
  nodes := #[⟨1, .tensor
    { kind := .cpu, layout := ⟨[Nat.pow 2 63], [0], .uint8⟩, primary := "data",
      host := some ⟨0, 0⟩ }⟩]
  heap := ⟨#[ByteArray.empty]⟩

/-- `withStride` accepts `2^63` one-byte elements on a single byte, and their bytes fit in a word,
yet a read of a host tensor with that layout stops: the bytes do not fit in the largest buffer. -/
theorem broadcast_read_overflows_capacity :
    Layout.withStride [Nat.pow 2 63] [0] .uint8 = .ok ⟨[Nat.pow 2 63], [0], .uint8⟩ ∧
    (⟨[Nat.pow 2 63], [0], .uint8⟩ : Layout).size = .ok (Nat.pow 2 63) ∧
    Nat.pow 2 63 * ElementType.uint8.size < Word.bound ∧
    (readBytes 0).run broadcastWorld = .error (.halt "capacity overflow") broadcastWorld :=
  ⟨by rfl, by rfl, by decide, run_readBytes_capacity rfl rfl rfl (by decide) (by decide)⟩

end Tensor

end MemBridge
