import Mathlib.Data.List.Nodup
/-!
# Steps that do not disturb each other

Items are worked on one after the other until one of them stops the run. When no item changes
what another one looks at, every item ends as it would have ended in the state before the run.
-/

namespace ImmichDoctor.Library

variable {ι σ ρ : Type*}

/-- A loop over the items: the last state, and the results unless an item stops the run. -/
def runAll (act : ι → σ → σ × Option ρ) : List ι → σ → σ × Option (List ρ)
  | [], s => (s, some [])
  | item :: items, s =>
      match act item s with
      | (t, none) => (t, none)
      | (t, some result) => ((runAll act items t).1, (runAll act items t).2.map (result :: ·))

/-- The items that are worked on to their end. -/
def finished (act : ι → σ → σ × Option ρ) (items : List ι) (s : σ) : List ι :=
  items.takeWhile fun item => (act item s).2.isSome

variable {act : ι → σ → σ × Option ρ} {item : ι} {items : List ι} {s s₀ t : σ}

theorem runAll_stopped (h : act item s = (t, none)) : runAll act (item :: items) s = (t, none) := by
  rw [runAll, h]

theorem runAll_cons {result : ρ} (h : act item s = (t, some result)) :
    runAll act (item :: items) s =
      ((runAll act items t).1, (runAll act items t).2.map (result :: ·)) := by
  rw [runAll, h]

theorem finished_cons (h : (act item s).2.isSome = true) :
    finished act (item :: items) s = item :: finished act items s := by
  simp only [finished, List.takeWhile_cons, h, if_true]

/-- `Same item s₀ s` says that what the item looks at is in `s` as in `s₀`; then the item ends
in the same way, and it leaves what the others look at. -/
structure Independent (act : ι → σ → σ × Option ρ) (Same : ι → σ → σ → Prop) (all : List ι)
    (s₀ : σ) : Prop where
  agrees : ∀ item ∈ all, ∀ s, Same item s₀ s → (act item s).2 = (act item s₀).2
  kept : ∀ item ∈ all, ∀ other ∈ all, item ≠ other → ∀ s, Same item s₀ s → Same other s₀ s →
    Same other s₀ (act item s).1

namespace Independent

variable {Same : ι → σ → σ → Prop} {all : List ι}

/-- What the items have not looked at yet is as it was. -/
theorem rest (h : Independent act Same all s₀) (hall : ∀ other ∈ item :: items, other ∈ all)
    (hnodup : (item :: items).Nodup) (hsame : ∀ other ∈ item :: items, Same other s₀ s) :
    ∀ other ∈ items, Same other s₀ (act item s).1 := by
  intro other hother
  have hmem := List.mem_cons_of_mem item hother
  apply h.kept item (hall item List.mem_cons_self) other (hall other hmem)
  · rintro rfl
    exact (List.nodup_cons.mp hnodup).1 hother
  · exact hsame item List.mem_cons_self
  · exact hsame other hmem

theorem results (h : Independent act Same all s₀) (hall : ∀ item ∈ items, item ∈ all)
    (hnodup : items.Nodup) (hsame : ∀ item ∈ items, Same item s₀ s) :
    (runAll act items s).2 = items.mapM fun item => (act item s₀).2 := by
  induction items generalizing s with
  | nil => rfl
  | cons item items ih =>
      have hagrees := h.agrees item (hall item List.mem_cons_self) s (hsame item List.mem_cons_self)
      have hrest := h.rest hall hnodup hsame
      rw [List.mapM_cons, ← hagrees]
      rcases hact : act item s with ⟨t, result⟩
      rw [hact] at hrest
      cases result with
      | none => rw [runAll_stopped hact]; rfl
      | some result =>
          have htail := ih (fun other hother => hall other (List.mem_cons_of_mem item hother))
            (List.nodup_cons.mp hnodup).2 hrest
          rw [runAll_cons hact, htail]
          cases items.mapM fun item => (act item s₀).2 <;> rfl

/-- What every item keeps that is worked on, to its end or until it stops the run, the run
keeps. -/
theorem keeps (h : Independent act Same all s₀) (hall : ∀ item ∈ items, item ∈ all)
    (hnodup : items.Nodup) (hsame : ∀ item ∈ items, Same item s₀ s) {P : σ → Prop}
    (hkeep : ∀ item ∈ items, item ∈ finished act items s₀ ∨ (act item s₀).2 = none →
      ∀ s, Same item s₀ s → P s → P (act item s).1) (hs : P s) :
    P (runAll act items s).1 := by
  induction items generalizing s with
  | nil => exact hs
  | cons item items ih =>
      have hfirst := hsame item List.mem_cons_self
      have hagrees := h.agrees item (hall item List.mem_cons_self) s hfirst
      have hrest := h.rest hall hnodup hsame
      have hnext := fun hworked => hkeep item List.mem_cons_self hworked s hfirst hs
      rcases hact : act item s with ⟨t, result⟩
      rw [hact] at hnext hrest hagrees
      cases result with
      | none =>
          rw [runAll_stopped hact]
          exact hnext (.inr hagrees.symm)
      | some result =>
          have hsome : (act item s₀).2.isSome = true := by rw [← hagrees]; rfl
          rw [finished_cons hsome] at hkeep hnext
          rw [runAll_cons hact]
          refine ih (fun other hother => hall other (List.mem_cons_of_mem item hother))
            (List.nodup_cons.mp hnodup).2 hrest (fun other hother hworked => ?_)
            (hnext (.inl List.mem_cons_self))
          apply hkeep other (List.mem_cons_of_mem item hother)
          exact hworked.imp_left (List.mem_cons_of_mem item)

/-- What an item establishes and no other undoes holds after the run of every finished item. -/
theorem established (h : Independent act Same all s₀) (hall : ∀ item ∈ items, item ∈ all)
    (hnodup : items.Nodup) (hsame : ∀ item ∈ items, Same item s₀ s) {P : ι → σ → Prop}
    (hmake : ∀ item ∈ items, ∀ s, Same item s₀ s → (act item s).2.isSome = true →
      P item (act item s).1)
    (hkeep : ∀ item ∈ items, ∀ other ∈ items, item ≠ other → ∀ s, Same item s₀ s → P other s →
      P other (act item s).1) :
    ∀ item ∈ finished act items s₀, P item (runAll act items s).1 := by
  induction items generalizing s with
  | nil => exact List.forall_mem_nil _
  | cons first items ih =>
      have hfirst := hsame first List.mem_cons_self
      have hagrees := h.agrees first (hall first List.mem_cons_self) s hfirst
      have hrest := h.rest hall hnodup hsame
      have hnodup' := List.nodup_cons.mp hnodup
      have hall' : ∀ other ∈ items, other ∈ all := fun other hother =>
        hall other (List.mem_cons_of_mem first hother)
      have hmade := hmake first List.mem_cons_self s hfirst
      intro item hitem
      rw [finished, List.takeWhile_cons, ← hagrees] at hitem
      rcases hact : act first s with ⟨t, result⟩
      rw [hact] at hitem hmade hrest
      cases result with
      | none => cases hitem
      | some result =>
          rw [runAll_cons hact]
          rcases List.mem_cons.mp hitem with rfl | hlater
          · -- the first item is followed by others only
            refine h.keeps hall' hnodup'.2 hrest (fun other hother _ => ?_) (hmade rfl)
            apply hkeep other (List.mem_cons_of_mem _ hother) item List.mem_cons_self
            rintro rfl
            exact hnodup'.1 hother
          · exact ih hall' hnodup'.2 hrest
              (fun other hother => hmake other (List.mem_cons_of_mem _ hother))
              (fun other hother next hnext =>
                hkeep other (List.mem_cons_of_mem _ hother) next (List.mem_cons_of_mem _ hnext))
              item hlater

end Independent

end ImmichDoctor.Library
