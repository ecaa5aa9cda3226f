import Mathlib.Data.List.Basic
import Mathlib.Tactic.Common
/-!
# Slices of equal size

`[xs[i : i + size] for i in range(0, len(xs), size)]`: the slices are not empty,
and put together again they are the list.
-/

namespace ImmichDoctor.Library

variable {α : Type*}

/-- How many slices of `size` a list of `length` is cut into. -/
def chunkCount (size length : Nat) : Nat :=
  (length + size - 1) / size

/-- `xs[index * size : (index + 1) * size]`. -/
def chunk (size : Nat) (xs : List α) (index : Nat) : List α :=
  (xs.drop (index * size)).take size

theorem lt_chunkCount_iff {size length index : Nat} (hsize : 0 < size) :
    index < chunkCount size length ↔ index * size < length := by
  rw [chunkCount, ← Nat.succ_le_iff, Nat.le_div_iff_mul_le hsize, Nat.succ_mul]
  omega

theorem chunkCount_eq_one_iff {size length : Nat} (hsize : 0 < size) :
    chunkCount size length = 1 ↔ 0 < length ∧ length ≤ size := by
  have hzero : 0 < chunkCount size length ↔ 0 * size < length := lt_chunkCount_iff hsize
  have hone : 1 < chunkCount size length ↔ 1 * size < length := lt_chunkCount_iff hsize
  omega

theorem chunk_ne_nil {size index : Nat} {xs : List α} (hsize : 0 < size)
    (hindex : index < chunkCount size xs.length) : chunk size xs index ≠ [] := by
  have hlt : index * size < xs.length := (lt_chunkCount_iff hsize).mp hindex
  have hlength : 0 < (chunk size xs index).length := by
    rw [chunk, List.length_take, List.length_drop]
    omega
  exact List.length_pos_iff.mp hlength

theorem flatMap_chunk (size : Nat) (xs : List α) (count : Nat) :
    (List.range count).flatMap (chunk size xs) = xs.take (count * size) := by
  induction count with
  | zero => rw [List.range_zero, List.flatMap_nil, Nat.zero_mul, List.take_zero]
  | succ count ih =>
      rw [List.range_succ, List.flatMap_append, ih, List.flatMap_singleton, Nat.succ_mul, chunk,
        List.take_add]

theorem flatMap_chunk_chunkCount {size : Nat} (hsize : 0 < size) (xs : List α) :
    (List.range (chunkCount size xs.length)).flatMap (chunk size xs) = xs := by
  rw [flatMap_chunk]
  apply List.take_of_length_le
  by_contra hlt
  have hmore : chunkCount size xs.length < chunkCount size xs.length :=
    (lt_chunkCount_iff hsize).mpr (Nat.lt_of_not_le hlt)
  exact Nat.lt_irrefl _ hmore

end ImmichDoctor.Library
