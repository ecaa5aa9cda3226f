import Mathlib.Algebra.BigOperators.Group.List.Basic
import Mathlib.Algebra.GroupWithZero.Nat
/-!
# Sums over the fibers of a key

A list whose elements have a key or none: what the elements of each key weigh, and those without
one, adds up to what all of them weigh.
-/

namespace ImmichDoctor.Library

variable {α κ : Type*} [DecidableEq κ] (key : α → Option κ) (weight : α → Nat)

/-- What the elements with the key weigh together. -/
def fiberSum (xs : List α) (k : Option κ) : Nat :=
  ((xs.filter fun x => key x = k).map weight).sum

theorem fiberSum_append (xs ys : List α) (k : Option κ) :
    fiberSum key weight (xs ++ ys) k = fiberSum key weight xs k + fiberSum key weight ys k := by
  rw [fiberSum, List.filter_append, List.map_append, List.sum_append]
  rfl

theorem fiberSum_singleton (x : α) (k : Option κ) :
    fiberSum key weight [x] k = if key x = k then weight x else 0 := by
  unfold fiberSum
  by_cases h : key x = k
  · simp [h]
  · simp [h]

/-- A single element weighs what it weighs, in the fiber of its key. -/
theorem sum_fibers_singleton {keys : List κ} (hnodup : keys.Nodup) (x : α)
    (hkey : ∀ k ∈ key x, k ∈ keys) :
    (keys.map fun k => fiberSum key weight [x] (some k)).sum + fiberSum key weight [x] none =
      weight x := by
  simp only [fiberSum_singleton]
  cases h : key x with
  | none => simp
  | some k =>
      have hmem := hkey k h
      clear hkey h
      induction keys with
      | nil => cases hmem
      | cons first keys ih =>
          obtain ⟨hfirst, hrest⟩ := List.nodup_cons.mp hnodup
          rw [List.map_cons, List.sum_cons]
          by_cases heq : k = first
          · subst heq
            have hzero : (keys.map fun other => if some k = some other then weight x else 0).sum =
                0 := by
              apply List.sum_eq_zero
              intro n hn
              obtain ⟨other, hother, rfl⟩ := List.mem_map.mp hn
              rw [if_neg]
              rintro heq
              exact hfirst (Option.some.inj heq ▸ hother)
            rw [hzero]
            simp
          · have hlater := (List.mem_cons.mp hmem).resolve_left heq
            rw [if_neg (fun h => heq (Option.some.inj h)), Nat.zero_add]
            exact ih hrest hlater

/-- Every element is in one fiber. -/
theorem sum_fibers {keys : List κ} (hnodup : keys.Nodup) (xs : List α)
    (hkey : ∀ x ∈ xs, ∀ k ∈ key x, k ∈ keys) :
    (keys.map fun k => fiberSum key weight xs (some k)).sum + fiberSum key weight xs none =
      (xs.map weight).sum := by
  induction xs with
  | nil => simp [fiberSum]
  | cons x xs ih =>
      have hfirst := sum_fibers_singleton key weight hnodup x (hkey x List.mem_cons_self)
      have hrest := ih fun y hy => hkey y (List.mem_cons_of_mem x hy)
      have hsplit : ∀ k, fiberSum key weight (x :: xs) k =
          fiberSum key weight [x] k + fiberSum key weight xs k := fun k =>
        fiberSum_append key weight [x] xs k
      simp only [hsplit, List.sum_map_add, List.map_cons, List.sum_cons]
      omega

end ImmichDoctor.Library
