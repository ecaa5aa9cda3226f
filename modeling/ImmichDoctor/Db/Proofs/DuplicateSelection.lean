import ImmichDoctor.Db.CorruptionRepair
/-!
# Deleting selected duplicates

Whether the deletion is planned is decided by one flag that every group with a selected
row sets, so only the last such group counts. The ids that are deleted are those that
were selected, whether a group has them or not.
-/

namespace ImmichDoctor.Db

open ImmichDoctor.Library

/-! ## Groups -/

/-- Some row of the group is selected. -/
def Touched (selected : List PyStr) (group : DuplicateGroup) : Prop :=
  ∃ id ∈ group.candidateIds, id ∈ selected

/-- Some row of the group is not selected. -/
def KeepsRow (selected : List PyStr) (group : DuplicateGroup) : Prop :=
  ∃ id ∈ group.candidateIds, id ∉ selected

/-- Every id is a row of a group, and every group that has rows keeps one. -/
def SafeDeletion (groups : List DuplicateGroup) (ids : List PyStr) : Prop :=
  (∀ id ∈ ids, ∃ group ∈ groups, id ∈ group.candidateIds) ∧
    ∀ group ∈ groups, group.candidateIds ≠ [] → KeepsRow ids group

/-- The last group with a selected row keeps a row. -/
def LastTouchedKeepsRow (groups : List DuplicateGroup) (selected : List PyStr) : Prop :=
  ∃ before group after, groups = before ++ group :: after ∧ Touched selected group ∧
    KeepsRow selected group ∧ ∀ other ∈ after, ¬ Touched selected other

section Selection

variable {selected : List PyStr} {groups : List DuplicateGroup} {group : DuplicateGroup}

theorem chosenIds_ne_nil : chosenIds selected group ≠ [] ↔ Touched selected group := by
  simp [chosenIds, Touched, List.filter_eq_nil_iff]

theorem one_le_remaining :
    1 ≤ group.candidateIds.length - (chosenIds selected group).length ↔
      KeepsRow selected group := by
  have hle : (chosenIds selected group).length ≤ group.candidateIds.length :=
    List.length_filter_le _ _
  have hall : (chosenIds selected group).length = group.candidateIds.length ↔
      ∀ id ∈ group.candidateIds, id ∈ selected := by
    simp [chosenIds, List.length_filter_eq_length_iff]
  constructor
  · intro hremaining
    by_contra hnone
    simp only [KeepsRow, not_exists, not_and, not_not] at hnone
    have heq := hall.mpr hnone
    omega
  · rintro ⟨id, hid, hnot⟩
    have hne : (chosenIds selected group).length ≠ group.candidateIds.length :=
      fun heq => hnot (hall.mp heq id hid)
    omega

/-- A group with a selected row sets the flag, another one leaves it. -/
theorem allowDelete_eq_true {flag : Bool} :
    allowDelete selected flag group = true ↔
      Touched selected group ∧ KeepsRow selected group ∨
        ¬ Touched selected group ∧ flag = true := by
  rw [← chosenIds_ne_nil, ← one_le_remaining]
  by_cases htouched : chosenIds selected group = []
  · simp [allowDelete, htouched]
  · by_cases hkeeps : 1 ≤ group.candidateIds.length - (chosenIds selected group).length
    · have hnot : ¬ group.candidateIds.length - (chosenIds selected group).length < 1 := by omega
      simp only [allowDelete, htouched, hkeeps, hnot, ne_eq, not_false_eq_true, true_and, if_true,
        if_false, and_false, not_true_eq_false, false_and, or_false]
    · have hlt : group.candidateIds.length - (chosenIds selected group).length < 1 := by omega
      simp only [allowDelete, htouched, hkeeps, hlt, ne_eq, not_false_eq_true, true_and, if_true,
        not_true_eq_false, false_and, or_false, Bool.false_eq_true]

theorem lastTouchedKeepsRow_cons :
    LastTouchedKeepsRow (group :: groups) selected ↔
      LastTouchedKeepsRow groups selected ∨
        Touched selected group ∧ KeepsRow selected group ∧
          ∀ other ∈ groups, ¬ Touched selected other := by
  constructor
  · rintro ⟨before, last, after, hsplit, htouched, hkeeps, hafter⟩
    cases before with
    | nil =>
        cases hsplit
        exact Or.inr ⟨htouched, hkeeps, hafter⟩
    | cons first before =>
        cases hsplit
        exact Or.inl ⟨before, last, after, rfl, htouched, hkeeps, hafter⟩
  · rintro (⟨before, last, after, rfl, hlast⟩ | hfirst)
    · exact ⟨group :: before, last, after, rfl, hlast⟩
    · exact ⟨[], group, groups, rfl, hfirst⟩

/-- The flag is what the last group with a selected row made it. -/
theorem foldl_allowDelete_eq_true {flag : Bool} :
    groups.foldl (allowDelete selected) flag = true ↔
      LastTouchedKeepsRow groups selected ∨
        flag = true ∧ ∀ group ∈ groups, ¬ Touched selected group := by
  induction groups generalizing flag with
  | nil => simp [LastTouchedKeepsRow]
  | cons group groups ih =>
      rw [List.foldl_cons, ih, allowDelete_eq_true, lastTouchedKeepsRow_cons, List.forall_mem_cons]
      tauto

/-- A last group with a selected row means that something is selected. -/
theorem LastTouchedKeepsRow.ne_nil (h : LastTouchedKeepsRow groups selected) :
    selected ≠ [] ∧ groups ≠ [] := by
  obtain ⟨before, group, after, rfl, ⟨id, -, hid⟩, -⟩ := h
  exact ⟨List.ne_nil_of_mem hid, by simp⟩

/-- The deletion is planned when the last group with a selected row keeps one. -/
theorem deleteStepAllowed_iff :
    (selectionState groups selected).deleteStepAllowed = true ↔
      LastTouchedKeepsRow groups selected := by
  simp only [selectionState, Bool.and_eq_true, Bool.not_eq_true', List.isEmpty_eq_false_iff]
  constructor
  · rintro ⟨hselected, hallowed⟩
    split at hallowed
    · cases hallowed
    · rcases foldl_allowDelete_eq_true.mp hallowed with hlast | ⟨hempty, -⟩
      · exact hlast
      · exact absurd (List.isEmpty_iff.mp hempty) hselected
  · intro hlast
    obtain ⟨hselected, hgroups⟩ := hlast.ne_nil
    refine ⟨hselected, ?_⟩
    rw [if_neg (fun h => hgroups h.2)]
    exact foldl_allowDelete_eq_true.mpr (Or.inl hlast)

end Selection

/-! ## What the plan deletes -/

section Plan

variable {σ : Type} {run : σ → Statement → Option σ} {database : σ}
  {snapshot : CorruptionSnapshot} {selected ids : List PyStr} {options : RepairOptions}
  {applied : AppliedPlan σ} {steps : List PlanStep} {statement : Statement}

/-- A statement that was run is that of a step to execute. -/
theorem mem_statements_applySteps
    (h : statement ∈ (applySteps run selected applied steps).statements) :
    statement ∈ applied.statements ∨ ∃ step ∈ steps, step.executionState = .execute ∧
      executeStep step selected = some statement := by
  induction steps generalizing applied with
  | nil => exact Or.inl h
  | cons step rest ih =>
      rw [applySteps] at h
      have hrest : ∀ next : AppliedPlan σ,
          statement ∈ (applySteps run selected next rest).statements →
          statement ∈ next.statements ∨ ∃ other ∈ step :: rest, other.executionState = .execute ∧
            executeStep other selected = some statement := by
        intro next hnext
        refine (ih hnext).imp_right ?_
        rintro ⟨other, hother, hfrom⟩
        exact ⟨other, List.mem_cons_of_mem step hother, hfrom⟩
      split at h
      · exact hrest applied h
      next hexecute =>
      split at h
      · exact hrest applied h
      next current hcurrent =>
      split at h
      · exact Or.inl h
      · rcases hrest _ h with hold | hlater
        · rcases List.mem_append.mp hold with hbefore | hnew
          · exact Or.inl hbefore
          · rw [List.mem_singleton.mp hnew]
            exact Or.inr ⟨step, List.mem_cons_self, not_not.mp hexecute, hcurrent⟩
        · exact Or.inr hlater

/-- Without failures the statement of every step to execute is run. -/
theorem mem_statements_of_succeeds (hrun : ∀ s statement, (run s statement).isSome = true)
    {step : PlanStep} (hstep : step ∈ steps) (hexecute : step.executionState = .execute)
    (hstatement : executeStep step selected = some statement) :
    statement ∈ (applySteps run selected applied steps).statements := by
  have hkeep : ∀ (rest : List PlanStep) (next : AppliedPlan σ), statement ∈ next.statements →
      statement ∈ (applySteps run selected next rest).statements := by
    intro rest
    induction rest with
    | nil => exact fun _ h => h
    | cons first rest ih =>
        intro next hnext
        rw [applySteps]
        split
        · exact ih next hnext
        split
        · exact ih next hnext
        split
        · exact hnext
        · exact ih _ (List.mem_append_left _ hnext)
  induction steps generalizing applied with
  | nil => cases hstep
  | cons first rest ih =>
      rw [applySteps]
      rcases List.mem_cons.mp hstep with rfl | hrest
      · rw [if_neg (not_not_intro hexecute), hstatement]
        obtain ⟨next, hnext⟩ := Option.isSome_iff_exists.mp (hrun applied.database statement)
        simp only [hnext]
        exact hkeep rest _ (List.mem_append_right _ (List.mem_singleton_self statement))
      · split
        · exact ih hrest
        split
        · exact ih hrest
        next current hcurrent =>
        obtain ⟨next, hnext⟩ := Option.isSome_iff_exists.mp (hrun applied.database current)
        simp only [hnext]
        exact ih hrest

/-- Rows are deleted by the step for the duplicates alone, and they are the selected ones. -/
theorem executeStep_eq_deleteAssets {step : PlanStep}
    (h : executeStep step selected = some (.deleteAssets ids)) :
    step.stepKey = .deleteDuplicateAssets ∧ ids = selected := by
  unfold executeStep at h
  split at h
  case h_6 hkey =>
    split at h
    · cases h
    · cases h
      exact ⟨hkey, rfl⟩
  all_goals cases h

/-- The steps outside the group of the duplicates have other keys. -/
theorem stepKey_ne_of_mem {step : PlanStep}
    (h : step ∈ systemSteps snapshot options ∨
      step ∈ snapshot.invalidUserIndexes.map userIndexStep ∨
      step ∈ databaseSteps snapshot options) :
    step.stepKey ≠ .deleteDuplicateAssets := by
  rcases h with hsystem | huser | hdatabase
  · unfold systemSteps at hsystem
    split at hsystem
    · rcases List.mem_append.mp hsystem with hclear | hrest
      · split at hclear
        · cases List.mem_singleton.mp hclear
          nofun
        · cases hclear
      · rcases List.mem_cons.mp hrest with rfl | hanalyze
        · nofun
        · cases List.mem_singleton.mp hanalyze
          nofun
    · cases hsystem
  · obtain ⟨index, -, rfl⟩ := List.mem_map.mp huser
    nofun
  · unfold databaseSteps at hdatabase
    split at hdatabase
    · cases List.mem_singleton.mp hdatabase
      nofun
    · cases hdatabase

/-- The deletion is in the plan only when the selection allows it. -/
theorem allowed_of_mem_planRows {selection : SelectionState} {step : PlanStep}
    (hstep : step ∈ planRows snapshot selection options)
    (hkey : step.stepKey = .deleteDuplicateAssets) : selection.deleteStepAllowed = true := by
  have hother : ¬ (step ∈ systemSteps snapshot options ∨
      step ∈ snapshot.invalidUserIndexes.map userIndexStep ∨
      step ∈ databaseSteps snapshot options) := fun h => stepKey_ne_of_mem h hkey
  simp only [planRows, List.mem_append, List.mem_singleton] at hstep
  rcases hstep with (((hsystem | huser) | hduplicate) | hdatabase) | rfl
  · exact absurd (Or.inl hsystem) hother
  · exact absurd (Or.inr (Or.inl huser)) hother
  · unfold duplicateSteps at hduplicate
    split at hduplicate
    · rcases List.mem_cons.mp hduplicate with rfl | hdelete
      · cases hkey
      · split at hdelete
        · assumption
        · cases hdelete
    · cases hduplicate
  · exact absurd (Or.inr (Or.inr hdatabase)) hother
  · cases hkey

/-- The deletion is in the plan when the selection allows it and there are groups. -/
theorem mem_planRows_of_allowed {selection : SelectionState}
    (hgroups : snapshot.duplicateAssetGroups ≠ []) (hallowed : selection.deleteStepAllowed = true) :
    ⟨.deleteDuplicateAssets, some (deleteSqlPreview selection.selectedDeleteIds), .execute⟩ ∈
      planRows snapshot selection options := by
  simp [planRows, duplicateSteps, hgroups, hallowed]

/-- The ids a run of the plan deletes are the selected ones, and it deletes them only when
the last group with a selected row keeps a row. -/
theorem deleted_of_applyPlan
    (h : .deleteAssets ids ∈ (applyPlan run database snapshot selected options).statements) :
    ids = selected ∧ LastTouchedKeepsRow snapshot.duplicateAssetGroups selected := by
  rcases mem_statements_applySteps h with hnone | ⟨step, hstep, hexecute, hstatement⟩
  · cases hnone
  · obtain ⟨hkey, rfl⟩ := executeStep_eq_deleteAssets hstatement
    exact ⟨rfl, deleteStepAllowed_iff.mp (allowed_of_mem_planRows hstep hkey)⟩

/-- A database that accepts every statement has the selected ids deleted when the last group
with a selected row keeps a row. -/
theorem deleteAssets_of_applyPlan (hrun : ∀ s statement, (run s statement).isSome = true)
    (hlast : LastTouchedKeepsRow snapshot.duplicateAssetGroups selected) :
    .deleteAssets selected ∈ (applyPlan run database snapshot selected options).statements := by
  obtain ⟨hselected, hgroups⟩ := hlast.ne_nil
  refine mem_statements_of_succeeds hrun
    (mem_planRows_of_allowed hgroups (deleteStepAllowed_iff.mpr hlast)) rfl ?_
  exact if_neg hselected

end Plan

/-! ## When it is safe -/

/-- Whatever the database accepts, what is deleted is safe to delete, exactly when the last
group with a selected row loses all of its rows (so that nothing is deleted), or every
selected id is a row of a group and no group has all of its rows selected. -/
theorem duplicate_deletion_safe_iff {σ : Type} (database : σ) (snapshot : CorruptionSnapshot)
    (selected : List PyStr) (options : RepairOptions) :
    (∀ (run : σ → Statement → Option σ) (ids : List PyStr),
      .deleteAssets ids ∈ (applyPlan run database snapshot selected options).statements →
        SafeDeletion snapshot.duplicateAssetGroups ids) ↔
      ¬ LastTouchedKeepsRow snapshot.duplicateAssetGroups selected ∨
        (∀ id ∈ selected, ∃ group ∈ snapshot.duplicateAssetGroups, id ∈ group.candidateIds) ∧
          ∀ group ∈ snapshot.duplicateAssetGroups, group.candidateIds ≠ [] →
            KeepsRow selected group := by
  constructor
  · intro hsafe
    by_cases hlast : LastTouchedKeepsRow snapshot.duplicateAssetGroups selected
    · right
      have hdeleted : .deleteAssets selected ∈
          (applyPlan (fun s _ => some s) database snapshot selected options).statements :=
        deleteAssets_of_applyPlan (fun _ _ => rfl) hlast
      exact hsafe _ selected hdeleted
    · exact Or.inl hlast
  · intro hcondition run ids hdeleted
    obtain ⟨rfl, hlast⟩ := deleted_of_applyPlan hdeleted
    exact hcondition.resolve_left (not_not_intro hlast)

/-! ## A group that loses every row -/

def firstGroup : DuplicateGroup := ⟨py "owner", py "aa", [py "a1", py "a2"]⟩

def secondGroup : DuplicateGroup := ⟨py "owner", py "bb", [py "b1", py "b2"]⟩

def duplicateSnapshot : CorruptionSnapshot :=
  ⟨py "immich", false, [], [], [firstGroup, secondGroup]⟩

/-- Both rows of the first group, one of the second and an id of no group are deleted. -/
theorem whole_group_deleted :
    .deleteAssets [py "a1", py "a2", py "b1", py "x"] ∈
        (applyPlan (fun (s : Unit) _ => some s) () duplicateSnapshot
          [py "a1", py "a2", py "b1", py "x"] ⟨none, false, false⟩).statements ∧
      ¬ SafeDeletion duplicateSnapshot.duplicateAssetGroups
        [py "a1", py "a2", py "b1", py "x"] := by
  refine ⟨by decide, fun hsafe => ?_⟩
  obtain ⟨id, hid, hnot⟩ := hsafe.2 firstGroup List.mem_cons_self (by decide)
  revert id
  decide

end ImmichDoctor.Db
