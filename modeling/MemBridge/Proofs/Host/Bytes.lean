import Mathlib
import MemBridge.Host.Heap

/-!
The bytes of host memory.

`Heap.byte` reads one byte of a block: the stored byte, or zero past what was stored and past
the blocks made. Reads and writes are stated through it: a read of `len` bytes gives the bytes
at the positions from its offset (`read_toList`), and a write into a block that was made stores
its bytes at consecutive positions and changes no other byte (`byte_write`).

`storeAll` stores values at positions one after another, a later store to a position winning
over an earlier one. A write is the stores of its bytes at consecutive positions
(`byte_write_eq_storeAll`); a store sequence leaves a position it never names alone
(`storeAll_of_not_mem`), and when no position is named twice each named position holds the
value stored there (`storeAll_of_nodup`).
-/

namespace MemBridge

def storeAll (f : Nat → UInt8) (stores : List (Nat × UInt8)) : Nat → UInt8 :=
  stores.foldl (fun f s => Function.update f s.1 s.2) f

section storeAll

variable {f : Nat → UInt8}

@[simp] theorem storeAll_nil : storeAll f [] = f := rfl

theorem storeAll_cons (s : Nat × UInt8) (ss : List (Nat × UInt8)) :
    storeAll f (s :: ss) = storeAll (Function.update f s.1 s.2) ss := rfl

theorem storeAll_append (xs ys : List (Nat × UInt8)) :
    storeAll f (xs ++ ys) = storeAll (storeAll f xs) ys :=
  List.foldl_append

theorem storeAll_of_not_mem {stores : List (Nat × UInt8)} {i : Nat}
    (h : i ∉ stores.map Prod.fst) : storeAll f stores i = f i := by
  induction stores generalizing f with
  | nil => rfl
  | cons s ss ih =>
    simp only [List.map_cons, List.mem_cons, not_or] at h
    rw [storeAll_cons, ih h.2, Function.update_of_ne h.1]

theorem storeAll_of_nodup {stores : List (Nat × UInt8)} {s : Nat × UInt8}
    (hn : (stores.map Prod.fst).Nodup) (hs : s ∈ stores) : storeAll f stores s.1 = s.2 := by
  induction stores generalizing f with
  | nil => simp at hs
  | cons t ts ih =>
    simp only [List.map_cons, List.nodup_cons] at hn
    rw [storeAll_cons]
    rcases List.mem_cons.1 hs with rfl | hs
    · rw [storeAll_of_not_mem hn.1, Function.update_self]
    · exact ih hn.2 hs

theorem storeAll_range' (o : Nat) (bytes : List UInt8) (i : Nat) :
    storeAll f ((List.range' o bytes.length).zip bytes) i =
      if o ≤ i ∧ i < o + bytes.length then bytes.getD (i - o) 0 else f i := by
  induction bytes generalizing o f with
  | nil => simp
  | cons x xs ih =>
    rw [List.length_cons, List.range'_succ, List.zip_cons_cons, storeAll_cons, ih]
    by_cases hi : i = o
    · subst hi
      simp
    · by_cases hin : o + 1 ≤ i ∧ i < o + 1 + xs.length
      · rw [if_pos hin, if_pos (by omega),
          show i - o = (i - (o + 1)) + 1 by omega, List.getD_cons_succ]
      · rw [if_neg hin, if_neg (by omega), Function.update_of_ne hi]

theorem map_storeAll_zip {keys : List Nat} {vals : List UInt8} (hn : keys.Nodup)
    (hl : keys.length = vals.length) : keys.map (storeAll f (keys.zip vals)) = vals := by
  induction keys generalizing vals f with
  | nil => cases vals <;> simp_all
  | cons k ks ih =>
    cases vals with
    | nil => simp at hl
    | cons v vs =>
      rw [List.nodup_cons] at hn
      have hl' : ks.length = vs.length := by simpa using hl
      rw [List.zip_cons_cons, List.map_cons, storeAll_cons, ih hn.2 hl',
        storeAll_of_not_mem (by rw [List.map_fst_zip (Nat.le_of_eq hl')]; exact hn.1),
        Function.update_self]

end storeAll

namespace Heap

/-- The byte at position `i` of a block: the stored byte, or zero past the stored prefix or
past the blocks made. -/
def byte (h : Heap) (block i : Nat) : UInt8 :=
  ((h.contents[block]?).getD ByteArray.empty).data.toList.getD i 0

theorem take_drop_append_zeros (xs : List UInt8) (o n : Nat) :
    (xs.drop o).take n ++ List.replicate (n - ((xs.drop o).take n).length) 0 =
      (List.range' o n).map (xs.getD · 0) := by
  apply List.ext_getElem
  · simp only [List.length_append, List.length_take, List.length_drop, List.length_replicate,
      List.length_map, List.length_range']
    omega
  · intro k h₁ h₂
    simp only [List.length_map, List.length_range'] at h₂
    simp only [List.getElem_map, List.getElem_range', Nat.one_mul, List.getD_eq_getElem?_getD]
    rw [List.getElem_append]
    split
    · next hk =>
      simp only [List.length_take, List.length_drop] at hk
      simp [List.getElem?_eq_getElem (show o + k < xs.length by omega)]
    · next hk =>
      simp only [List.length_take, List.length_drop] at hk
      simp [List.getElem?_eq_none (show xs.length ≤ o + k by omega)]

theorem read_toList (h : Heap) (block offset len : Nat) :
    (h.read block offset len).data.toList = (List.range' offset len).map (h.byte block) := by
  set data := (h.contents[block]?).getD ByteArray.empty with hdata
  have hstored : (data.extract offset (offset + len)).data.toList =
      (data.data.toList.drop offset).take len := by
    simp [ByteArray.data_extract, Array.toList_extract]
  have hsize : (data.extract offset (offset + len)).size =
      ((data.data.toList.drop offset).take len).length := by
    rw [← hstored]; rfl
  have hbyte : h.byte block = fun i => data.data.toList.getD i 0 := rfl
  unfold read
  rw [← hdata, hbyte, ← take_drop_append_zeros]
  dsimp only
  split
  · next he => rw [hstored, ← hsize, he, Nat.sub_self, List.replicate_zero, List.append_nil]
  · rw [ByteArray.toList_data_append, hstored, ← hsize]
    rfl

theorem getD_grow (data : ByteArray) (n i : Nat) :
    (grow data n).data.toList.getD i 0 = data.data.toList.getD i 0 := by
  unfold grow
  split
  · rfl
  · next hlt =>
    rw [ByteArray.toList_data_append]
    by_cases hi : i < data.data.toList.length
    · rw [List.getD_append _ _ _ _ hi]
    · rw [List.getD_append_right _ _ _ _ (by omega),
        List.getD_eq_default data.data.toList 0 (by omega)]
      simp only [List.getD_eq_getElem?_getD, Array.toList_replicate, List.getElem?_replicate]
      split <;> rfl

theorem le_size_grow (data : ByteArray) (n : Nat) : n ≤ (grow data n).size := by
  unfold grow
  split
  · assumption
  · rw [ByteArray.size_append]
    show n ≤ data.size + (Array.replicate (n - data.size) (0 : UInt8)).size
    rw [Array.size_replicate]
    omega

theorem getD_splice (xs bytes : List UInt8) (o i : Nat) (h : o + bytes.length ≤ xs.length) :
    (xs.take o ++ bytes ++ xs.drop (o + bytes.length)).getD i 0 =
      if o ≤ i ∧ i < o + bytes.length then bytes.getD (i - o) 0 else xs.getD i 0 := by
  have hmin : min o xs.length = o := by omega
  simp only [List.getD_eq_getElem?_getD, List.getElem?_append, List.getElem?_take,
    List.getElem?_drop, List.length_append, List.length_take, hmin]
  -- before the bytes, among them, after them; the other three cases contradict their guards
  split_ifs with h₁ h₂ h₃ h₃ h₃
  · omega
  · rfl
  · rfl
  · omega
  · omega
  · rw [Nat.add_sub_cancel' (Nat.le_of_not_lt h₁)]

theorem size_write (h : Heap) (block offset : Nat) (bytes : ByteArray) :
    (h.write block offset bytes).contents.size = h.contents.size := by
  unfold write
  split <;> simp

theorem byte_write (h : Heap) (block offset : Nat) (bytes : ByteArray) (b i : Nat) :
    (h.write block offset bytes).byte b i =
      if b = block ∧ block < h.contents.size ∧ offset ≤ i ∧ i < offset + bytes.size then
        bytes.data.toList.getD (i - offset) 0
      else h.byte b i := by
  have hsize : bytes.data.toList.length = bytes.size := Array.length_toList
  unfold write
  split
  · next h0 => rw [if_neg (by omega)]
  · simp only [byte, Array.getElem?_modify]
    by_cases hb : block = b
    · subst hb
      rw [if_pos rfl]
      rcases Nat.lt_or_ge block h.contents.size with hlt | hge
      · -- the written block: its grown prefix with the bytes spliced in
        rw [Array.getElem?_eq_getElem hlt, Option.map_some, Option.getD_some, Option.getD_some]
        set data := grow h.contents[block] (offset + bytes.size)
        have hlen : offset + bytes.data.toList.length ≤ data.data.toList.length := by
          rw [hsize, Array.length_toList]
          exact le_size_grow _ _
        have hsplice : (bytes.copySlice 0 data offset bytes.size).data.toList =
            data.data.toList.take offset ++ bytes.data.toList ++
              data.data.toList.drop (offset + bytes.data.toList.length) := by
          simp [ByteArray.data_copySlice, Array.toList_extract, List.extract_eq_take_drop]
          rw [← hsize, List.take_length, List.take_of_length_le (by simp)]
        rw [hsplice, getD_splice _ _ _ _ hlen, hsize, getD_grow]
        simp only [true_and, hlt]
      · -- a block never made: the write is lost
        rw [Array.getElem?_eq_none hge, Option.map_none, if_neg (by omega)]
    · rw [if_neg hb, if_neg fun hc => hb hc.1.symm]

theorem byte_write_eq_storeAll (h : Heap) {block : Nat} (hb : block < h.contents.size)
    (offset : Nat) (bytes : ByteArray) :
    (h.write block offset bytes).byte block =
      storeAll (h.byte block) ((List.range' offset bytes.size).zip bytes.data.toList) := by
  funext i
  have hsize : bytes.data.toList.length = bytes.size := Array.length_toList
  rw [byte_write, ← hsize, storeAll_range']
  simp [hb]

theorem byte_write_of_ne (h : Heap) {block b : Nat} (hb : b ≠ block) (offset : Nat)
    (bytes : ByteArray) : (h.write block offset bytes).byte b = h.byte b := by
  funext i
  rw [byte_write, if_neg fun hc => hb hc.1]

end Heap

end MemBridge
