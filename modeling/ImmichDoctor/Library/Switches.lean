import Mathlib.Data.List.Induction
import Mathlib.Data.Set.Insert
/-!
# Switches

A set of keys that are turned on and off one after the other: a key is in the set exactly when
the last turn of it was on.
-/

namespace ImmichDoctor.Library

/-- A key is turned on or off. -/
structure Turn (κ : Type*) where
  key : κ
  on : Bool
  deriving DecidableEq

namespace Turn

variable {κ : Type*} {turns later : List (Turn κ)} {s : Set κ} {key : κ}

/-- The set after one turn. -/
def apply (s : Set κ) (turn : Turn κ) : Set κ :=
  {key | key = turn.key ∧ turn.on = true ∨ key ≠ turn.key ∧ key ∈ s}

/-- The set after a list of turns. -/
def replay (s : Set κ) (turns : List (Turn κ)) : Set κ :=
  turns.foldl apply s

/-- What the last turn of a key was. -/
def last [DecidableEq κ] (turns : List (Turn κ)) (key : κ) : Option Bool :=
  (turns.reverse.find? fun turn => turn.key = key).map Turn.on

@[simp] theorem replay_nil : replay s [] = s := rfl

@[simp] theorem replay_cons (turn : Turn κ) :
    replay s (turn :: turns) = replay (apply s turn) turns := rfl

theorem replay_append : replay s (turns ++ later) = replay (replay s turns) later :=
  List.foldl_append

theorem mem_apply {turn : Turn κ} : key ∈ apply s turn ↔
    key = turn.key ∧ turn.on = true ∨ key ≠ turn.key ∧ key ∈ s :=
  Iff.rfl

theorem mem_replay_on {keys : List κ} : key ∈ replay s (keys.map fun key => ⟨key, true⟩) ↔
    key ∈ s ∨ key ∈ keys := by
  induction keys generalizing s with
  | nil => simp
  | cons first keys ih =>
      rw [List.map_cons, replay_cons, ih, mem_apply, List.mem_cons]
      by_cases h : key = first
      · simp [h]
      · simp [h]

theorem mem_replay_off {keys : List κ} : key ∈ replay s (keys.map fun key => ⟨key, false⟩) ↔
    key ∈ s ∧ key ∉ keys := by
  induction keys generalizing s with
  | nil => simp
  | cons first keys ih =>
      rw [List.map_cons, replay_cons, ih, mem_apply, List.mem_cons]
      by_cases h : key = first
      · simp [h]
      · simp [h]

/-- The last turn of a key decides, and without one it stays where it was. -/
theorem mem_replay_iff [DecidableEq κ] : key ∈ replay s turns ↔
    last turns key = some true ∨ last turns key = none ∧ key ∈ s := by
  induction turns using List.reverseRecOn with
  | nil => simp [last]
  | append_singleton turns turn ih =>
      have hlast : last (turns ++ [turn]) key =
          if turn.key = key then some turn.on else last turns key := by
        unfold last
        rw [List.reverse_append, List.reverse_singleton, List.singleton_append, List.find?_cons]
        split
        · next heq => rw [if_pos (of_decide_eq_true heq)]; rfl
        · next heq => rw [if_neg (of_decide_eq_false heq)]
      rw [replay_append, replay_cons, replay_nil, mem_apply, ih, hlast]
      by_cases h : turn.key = key
      · simp [h]
      · simp [h, Ne.symm h]

theorem mem_replay_empty [DecidableEq κ] :
    key ∈ replay ∅ turns ↔ last turns key = some true := by
  rw [mem_replay_iff]
  simp

end Turn

end ImmichDoctor.Library
