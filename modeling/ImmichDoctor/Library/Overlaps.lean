import Mathlib.Data.List.Pairwise
import Mathlib.Algebra.Order.Group.Nat
import Mathlib.Algebra.BigOperators.Group.List.Basic
import Mathlib.Algebra.GroupWithZero.Nat
/-!
# Overlapping selections

Elements that several conditions select are counted once in the union and several times in
the sum over the conditions; the two agree exactly when no two conditions overlap.
-/

namespace ImmichDoctor.Library

variable {α β : Type*}

/-- The conditions select nothing in common. -/
def NoOverlap (l : List α) (p q : α → Bool) : Prop :=
  ∀ a ∈ l, p a = true → q a = false

theorem NoOverlap.symm {l : List α} {p q : α → Bool} (h : NoOverlap l p q) : NoOverlap l q p := by
  intro a ha hq
  by_contra hp
  have hnone := h a ha (Bool.not_eq_false _ ▸ hp)
  rw [hq] at hnone
  cases hnone

instance (l : List α) (p : β → α → Bool) :
    Std.Symm fun b c => NoOverlap l (p b) (p c) :=
  ⟨fun _ _ h => h.symm⟩

theorem length_filter_or_add (l : List α) (p q : α → Bool) :
    (l.filter fun a => p a || q a).length + (l.filter fun a => p a && q a).length =
      (l.filter p).length + (l.filter q).length := by
  induction l with
  | nil => rfl
  | cons a l ih =>
      simp only [List.filter_cons]
      cases hp : p a <;> cases hq : q a <;>
        simp only [Bool.or_false, Bool.or_true, Bool.and_false, Bool.and_true, Bool.false_eq_true,
          if_true, if_false, List.length_cons] <;> omega

/-- The selection of at least one of the conditions. -/
def union (p : β → α → Bool) (bs : List β) (a : α) : Bool :=
  bs.any (p · a)

theorem union_congr {p q : β → α → Bool} {bs : List β} {a : α} (h : ∀ b ∈ bs, p b a = q b a) :
    union p bs a = union q bs a := by
  rw [Bool.eq_iff_iff, union, union, List.any_eq_true, List.any_eq_true]
  exact exists_congr fun b => and_congr_right fun hb => by rw [h b hb]

theorem filter_union_nil (l : List α) (p : β → α → Bool) : l.filter (union p []) = [] :=
  List.filter_eq_nil_iff.mpr fun _ _ => Bool.false_ne_true

theorem length_filter_union_le (l : List α) (p : β → α → Bool) (bs : List β) :
    (l.filter (union p bs)).length ≤ (bs.map fun b => (l.filter (p b)).length).sum := by
  induction bs with
  | nil =>
      rw [filter_union_nil]
      exact Nat.le_refl _
  | cons b bs ih =>
      have hsplit := length_filter_or_add l (p b) (union p bs)
      calc (l.filter (union p (b :: bs))).length
          = (l.filter fun a => p b a || union p bs a).length := rfl
        _ ≤ (l.filter (p b)).length + (l.filter (union p bs)).length := by omega
        _ ≤ ((b :: bs).map fun b => (l.filter (p b)).length).sum := by
            rw [List.map_cons, List.sum_cons]
            omega

theorem length_filter_union_eq_iff (l : List α) (p : β → α → Bool) (bs : List β) :
    (l.filter (union p bs)).length = (bs.map fun b => (l.filter (p b)).length).sum ↔
      bs.Pairwise fun b c => NoOverlap l (p b) (p c) := by
  induction bs with
  | nil =>
      rw [filter_union_nil]
      exact iff_of_true rfl List.Pairwise.nil
  | cons b bs ih =>
      have hsplit := length_filter_or_add l (p b) (union p bs)
      have hle := length_filter_union_le l p bs
      have hcons : (l.filter (union p (b :: bs))).length =
          (l.filter fun a => p b a || union p bs a).length := rfl
      have hboth : (l.filter fun a => p b a && union p bs a).length = 0 ↔
          ∀ c ∈ bs, NoOverlap l (p b) (p c) := by
        rw [List.length_eq_zero_iff, List.filter_eq_nil_iff]
        constructor
        · intro h c hc a ha hb
          by_contra hcontra
          exact h a ha ((Bool.and_eq_true _ _).mpr
            ⟨hb, List.any_eq_true.mpr ⟨c, hc, Bool.not_eq_false _ ▸ hcontra⟩⟩)
        · intro h a ha htrue
          obtain ⟨hb, hany⟩ := (Bool.and_eq_true _ _).mp htrue
          obtain ⟨c, hc, hca⟩ := List.any_eq_true.mp hany
          exact Bool.false_ne_true ((h c hc a ha hb).symm.trans hca)
      rw [List.pairwise_cons, ← ih, ← hboth, hcons, List.map_cons, List.sum_cons]
      omega

end ImmichDoctor.Library
