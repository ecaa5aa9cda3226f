import Mathlib.Algebra.GroupWithZero.Nat
import Mathlib.Data.List.Basic
import Mathlib.Logic.Function.Basic
import Mathlib.Order.WellFounded
/-!
# Runs of partial transition functions

A system is an executable `step : σ → ι → Option σ`: a label either applies to a
state and gives the next one, or does not apply. `Steps step ok` is a run whose
every step meets the side condition `ok`; the rules below turn facts about one
step into facts about whole runs.
-/

namespace ImmichDoctor.Library

variable {σ τ ι : Type*} {step : σ → ι → Option σ} {ok ok' : σ → ι → Prop}

/-- Execute the labels one after the other, up to the first that does not apply. -/
def exec (step : σ → ι → Option σ) : σ → List ι → Option σ
  | s, [] => some s
  | s, label :: labels => (step s label).bind fun t => exec step t labels

/-- The step function on the labels that pass a check in the state they meet. -/
def checkedStep (step : σ → ι → Option σ) (check : σ → ι → Bool) (s : σ) (label : ι) : Option σ :=
  if check s label then step s label else none

/-- A run from one state to another whose every step meets `ok` where it starts. -/
inductive Steps (step : σ → ι → Option σ) (ok : σ → ι → Prop) : σ → List ι → σ → Prop
  | refl (s : σ) : Steps step ok s [] s
  | head {s t u : σ} {label : ι} {labels : List ι} (hok : ok s label)
      (hstep : step s label = some t) (hrest : Steps step ok t labels u) :
      Steps step ok s (label :: labels) u

/-- A state some run leads to. -/
def Reachable (step : σ → ι → Option σ) (start s : σ) : Prop :=
  ∃ labels, Steps step (fun _ _ => True) start labels s

namespace Steps

theorem mono {s t : σ} {labels : List ι} (himp : ∀ s label, ok s label → ok' s label)
    (hrun : Steps step ok s labels t) : Steps step ok' s labels t := by
  induction hrun with
  | refl s => exact .refl s
  | head hok hstep _ ih => exact .head (himp _ _ hok) hstep ih

theorem append {s t u : σ} {first second : List ι} (hfirst : Steps step ok s first t)
    (hsecond : Steps step ok t second u) : Steps step ok s (first ++ second) u := by
  induction hfirst with
  | refl _ => exact hsecond
  | head hok hstep _ ih => exact .head hok hstep (ih hsecond)

/-- An invariant of every admissible step holds at the end of every admissible run. -/
theorem invariant {P : σ → Prop}
    (hpres : ∀ s label t, ok s label → step s label = some t → P s → P t)
    {s t : σ} {labels : List ι} (hrun : Steps step ok s labels t) (hs : P s) : P t := by
  induction hrun with
  | refl _ => exact hs
  | head hok hstep _ ih => exact ih (hpres _ _ _ hok hstep hs)

/-- The labels of a run are those of its list. -/
theorem mem {s t : σ} {labels : List ι} (hrun : Steps step ok s labels t) :
    Steps step (fun s label => ok s label ∧ label ∈ labels) s labels t := by
  induction hrun with
  | refl s => exact .refl s
  | head hok hstep _ ih =>
      refine .head ⟨hok, List.mem_cons_self⟩ hstep (ih.mono fun _ _ h => ⟨h.1, ?_⟩)
      exact List.mem_cons_of_mem _ h.2

/-- A run of steps that always apply ends where folding them ends. -/
theorem eq_foldl {next : σ → ι → σ} {s t : σ} {labels : List ι}
    (hrun : Steps (fun s label => some (next s label)) ok s labels t) :
    t = labels.foldl next s := by
  induction labels generalizing s with
  | nil =>
      cases hrun
      rfl
  | cons label labels ih =>
      cases hrun with
      | head _ hstep hrest =>
          cases hstep
          exact ih hrest

/-- A list of labels that executes under a check is a run of what the check decides. -/
theorem of_checked {check : σ → ι → Bool} (hcheck : ∀ s label, check s label = true → ok s label)
    {s t : σ} {labels : List ι} (hexec : exec (checkedStep step check) s labels = some t) :
    Steps step ok s labels t := by
  induction labels generalizing s with
  | nil =>
      cases hexec
      exact .refl _
  | cons label labels ih =>
      obtain ⟨next, hstep, hrest⟩ := Option.bind_eq_some_iff.mp hexec
      unfold checkedStep at hstep
      split at hstep
      · next hok => exact .head (hcheck s label hok) hstep (ih hrest)
      · cases hstep

/-- An executed list of labels is a run, whatever holds of these labels in every state. -/
theorem of_exec {s t : σ} {labels : List ι} (hok : ∀ label ∈ labels, ∀ s, ok s label)
    (hexec : exec step s labels = some t) : Steps step ok s labels t := by
  induction labels generalizing s with
  | nil =>
      cases hexec
      exact .refl _
  | cons label labels ih =>
      obtain ⟨next, hstep, hrest⟩ := Option.bind_eq_some_iff.mp hexec
      exact .head (hok label List.mem_cons_self s) hstep
        (ih (fun other hother => hok other (List.mem_cons_of_mem _ hother)) hrest)

/-- The last state of an execution, or the first one if a label does not apply. -/
def last (step : σ → ι → Option σ) (s : σ) (labels : List ι) : σ :=
  (exec step s labels).getD s

theorem exec_eq_last {s : σ} {labels : List ι} (h : (exec step s labels).isSome = true) :
    exec step s labels = some (last step s labels) := by
  obtain ⟨t, ht⟩ := Option.isSome_iff_exists.mp h
  rw [last, ht, Option.getD_some]

end Steps

theorem Reachable.self (s : σ) : Reachable step s s :=
  ⟨[], Steps.refl s⟩

theorem Reachable.of_exec {s t : σ} {labels : List ι} (hexec : exec step s labels = some t) :
    Reachable step s t :=
  ⟨labels, Steps.of_exec (fun _ _ _ => trivial) hexec⟩

theorem Reachable.trans {s t u : σ} {labels : List ι} (hs : Reachable step s t)
    (hrun : Steps step ok t labels u) : Reachable step s u := by
  obtain ⟨before, hbefore⟩ := hs
  exact ⟨before ++ labels, hbefore.append (hrun.mono fun _ _ _ => trivial)⟩

theorem Reachable.invariant {P : σ → Prop}
    (hpres : ∀ s label t, step s label = some t → P s → P t)
    {s t : σ} (hreach : Reachable step s t) (hs : P s) : P t := by
  obtain ⟨_, hrun⟩ := hreach
  exact hrun.invariant (fun s label t _ hstep => hpres s label t hstep) hs

/-! ## Termination -/

/-- A run that goes on for ever. -/
def InfiniteRun (step : σ → ι → Option σ) (ok : σ → ι → Prop) (start : σ) : Prop :=
  ∃ (states : Nat → σ) (labels : Nat → ι), states 0 = start ∧
    ∀ i, ok (states i) (labels i) ∧ step (states i) (labels i) = some (states (i + 1))

/-- No run goes on for ever when every step of it lowers a well-founded measure. -/
theorem not_infiniteRun {P : σ → Prop} {r : τ → τ → Prop} (hwf : WellFounded r) (measure : σ → τ)
    (hpres : ∀ s label t, ok s label → step s label = some t → P s → P t)
    (hlower : ∀ s label t, ok s label → step s label = some t → P s → r (measure t) (measure s))
    {start : σ} (hstart : P start) : ¬ InfiniteRun step ok start := by
  rintro ⟨states, labels, hzero, hrun⟩
  have hall : ∀ i, P (states i) := by
    intro i
    induction i with
    | zero => exact hzero ▸ hstart
    | succ i ih => exact hpres _ _ _ (hrun i).1 (hrun i).2 ih
  have : IsWellFounded τ r := ⟨hwf⟩
  obtain ⟨i, hi⟩ := WellFounded.not_rel_apply_succ (r := r) fun i => measure (states i)
  exact hi (hlower _ _ _ (hrun i).1 (hrun i).2 (hall i))

/-! ## States made of the states of several actors -/

/-- What holds of an actor after one of them moved on held of it before, or is new. -/
theorem of_update {α β : Type*} [DecidableEq α] {f : α → β} {a other : α} {b : β} (P : β → Prop)
    (h : P (Function.update f a b other)) : other = a ∧ P b ∨ other ≠ a ∧ P (f other) := by
  by_cases heq : other = a
  · subst heq
    rw [Function.update_self] at h
    exact Or.inl ⟨rfl, h⟩
  · rw [Function.update_of_ne heq] at h
    exact Or.inr ⟨heq, h⟩

/-- What one actor adds to a sum over all of them. -/
theorem sum_map_set {α : Type*} (f : α → Nat) {actors : List α} {index : Nat} {old : α}
    (hold : actors[index]? = some old) (new : α) :
    ((actors.set index new).map f).sum + f old = (actors.map f).sum + f new := by
  induction actors generalizing index with
  | nil => cases hold
  | cons actor rest ih =>
      cases index with
      | zero =>
          cases hold
          rw [List.set_cons_zero, List.map_cons, List.map_cons, List.sum_cons, List.sum_cons]
          omega
      | succ index =>
          have hsum := ih (List.getElem?_cons_succ ▸ hold)
          rw [List.set_cons_succ, List.map_cons, List.map_cons, List.sum_cons, List.sum_cons]
          omega

end ImmichDoctor.Library
