import ImmichDoctor.Runtime.MetadataFailures
/-!
# Plans that do not depend on each other

Without flags the actions of a repair are those that its diagnostics suggest, all of them
for each. A diagnostic gets its own suggestion exactly when none of the others suggests an
action that it has available before that.
-/

namespace ImmichDoctor.Runtime

open ImmichDoctor.Library
open ImmichDoctor.Storage

/-! ## The action of one diagnostic -/

/-- The first available action that is selected. -/
def plannedAction (selectedActions : List SuggestedAction)
    (diagnostic : MetadataFailureDiagnostic) : SuggestedAction :=
  (diagnostic.availableActions.find? (selectedActions.contains ·)).getD diagnostic.suggestedAction

theorem action_applyPermissionFix (step : RepairStep) (files : FileModes) :
    (step.applyPermissionFix files).2.action = .fixPermissions := by
  unfold RepairStep.applyPermissionFix
  split
  · rfl
  · split
    · rfl
    · rfl
    · split
      · rfl
      · split <;> rfl

/-- Neither the files nor whether the action is applied make a difference to which it is. -/
theorem action_planOrApplyAction (step : RepairStep) (selectedActions : List SuggestedAction)
    (apply : Bool) (files : FileModes) :
    (step.planOrApplyAction selectedActions apply files).2.action =
      plannedAction selectedActions step.diagnostic := by
  unfold RepairStep.planOrApplyAction plannedAction
  rw [← List.head?_filter]
  cases step.diagnostic.availableActions.filter (selectedActions.contains ·) with
  | nil => rfl
  | cons action actions =>
      cases apply with
      | false => rfl
      | true =>
          by_cases hfix : action = .fixPermissions
          · rw [hfix]
            exact action_applyPermissionFix step files
          · simp [hfix]

theorem actions_repairLoop (options : RepairOptions) (files : FileModes)
    (steps : List RepairStep) :
    (repairLoop options files steps).2.map (·.1.action) =
      steps.map fun step => plannedAction options.selectedActions step.diagnostic := by
  induction steps generalizing files with
  | nil => rfl
  | cons step steps ih =>
      rw [repairLoop, List.map_cons, List.map_cons, ih, action_planOrApplyAction]

theorem planned_eq (request : MetadataRepairRequest) (flags : ActionFlags) :
    request.planned flags = request.diagnostics.map fun diagnostic =>
      (diagnostic, plannedAction (actionsFor flags request.diagnostics) diagnostic) := by
  have hactions : (request.repairActions flags).map (·.action) =
      request.diagnostics.map (plannedAction (actionsFor flags request.diagnostics)) := by
    have hloop := actions_repairLoop (request.options flags) request.files request.steps
    rw [MetadataRepairRequest.repairActions, List.map_map, MetadataRepairRequest.diagnostics,
      List.map_map]
    exact hloop
  rw [MetadataRepairRequest.planned, hactions, ← List.map_prod_left_eq_zip]

theorem mem_planned {request : MetadataRepairRequest} {flags : ActionFlags}
    {diagnostic : MetadataFailureDiagnostic} {action : SuggestedAction} :
    (diagnostic, action) ∈ request.planned flags ↔ diagnostic ∈ request.diagnostics ∧
      plannedAction (actionsFor flags request.diagnostics) diagnostic = action := by
  rw [planned_eq, List.mem_map]
  constructor
  · rintro ⟨other, hmem, heq⟩
    obtain ⟨rfl, haction⟩ := Prod.mk.inj heq
    exact ⟨hmem, haction⟩
  · rintro ⟨hmem, haction⟩
    exact ⟨diagnostic, hmem, by rw [haction]⟩

/-! ## Other diagnostics -/

/-- None of the diagnostics suggests an action that this one has available before its own
suggestion. -/
def Undisturbed (diagnostics : List MetadataFailureDiagnostic)
    (diagnostic : MetadataFailureDiagnostic) : Prop :=
  ∀ other ∈ diagnostics, other.suggestedAction ∉
    diagnostic.availableActions.takeWhile (· ≠ diagnostic.suggestedAction)

theorem find?_getD_eq_iff {α : Type*} [DecidableEq α] {p : α → Bool} {a : α} (ha : p a = true)
    (l : List α) : (l.find? p).getD a = a ↔ ∀ b ∈ l.takeWhile (· ≠ a), p b = false := by
  induction l with
  | nil => simp
  | cons b l ih =>
      by_cases hb : b = a
      · rw [hb, List.find?_cons_of_pos ha]
        simp
      · rw [List.takeWhile_cons_of_pos (by simpa using hb), List.forall_mem_cons]
        cases hp : p b with
        | false =>
            rw [List.find?_cons_of_neg (by simp [hp]), ih]
            simp
        | true =>
            rw [List.find?_cons_of_pos hp]
            simp [hb]

/-- Without flags, a diagnostic gets its own suggestion exactly when it is undisturbed. -/
theorem plannedAction_eq_suggested_iff {flags : ActionFlags}
    {diagnostics : List MetadataFailureDiagnostic} {diagnostic : MetadataFailureDiagnostic}
    (hflags : flags.selectedActions = []) (hmem : diagnostic ∈ diagnostics) :
    plannedAction (actionsFor flags diagnostics) diagnostic = diagnostic.suggestedAction ↔
      Undisturbed diagnostics diagnostic := by
  have hactions : actionsFor flags diagnostics = diagnostics.map (·.suggestedAction) := by
    rw [actionsFor, hflags]
    rfl
  have hown : (actionsFor flags diagnostics).contains diagnostic.suggestedAction = true := by
    rw [hactions, List.contains_iff_mem]
    exact List.mem_map_of_mem hmem
  rw [plannedAction, find?_getD_eq_iff hown, hactions]
  constructor
  · intro h other hother hbefore
    have hfalse := h _ hbefore
    rw [List.contains_eq_mem, decide_eq_false_iff_not] at hfalse
    exact hfalse (List.mem_map_of_mem hother)
  · intro h action hbefore
    rw [List.contains_eq_mem, decide_eq_false_iff_not]
    intro hsuggested
    obtain ⟨other, hother, rfl⟩ := List.mem_map.mp hsuggested
    exact h other hother hbefore

/-- With flags, only they and the diagnostic count. -/
theorem actionsFor_of_flags {flags : ActionFlags} (hflags : flags.selectedActions ≠ [])
    (diagnostics : List MetadataFailureDiagnostic) :
    actionsFor flags diagnostics = flags.selectedActions := by
  rw [actionsFor, if_neg]
  simpa using hflags

/-- A cause makes its suggestion available first, or reporting only and then the suggestion. -/
theorem before_suggestion (resolvePath : PurePath → PurePath) (libraryRoot : Option PurePath)
    (finding : SourceFinding) {cause : MetadataFailureCause} {level : MetadataFailureLevel}
    {action : SuggestedAction} {confidence : ConfidenceLevel}
    (h : classifyRootCause resolvePath libraryRoot finding = (cause, level, action, confidence)) :
    (availableActions cause).takeWhile (· ≠ action) = [] ∨
      (availableActions cause).takeWhile (· ≠ action) = [.reportOnly] ∧
        action ∈ [SuggestedAction.markUnrecoverable, .quarantineCorrupt] := by
  obtain ⟨status, path, error⟩ := finding
  cases status with
  | fileMissing =>
      simp only [classifyRootCause] at h
      split at h <;> cases h <;> exact .inl rfl
  | fileEmpty | fileTypeMismatch | fileTruncated | fileContainerBroken | fileCorrupted =>
      cases h
      exact .inr ⟨rfl, by decide⟩
  | filePermissionDenied =>
      cases h
      exact .inl rfl
  | fileOk | fileUnknownProblem =>
      simp only [classifyRootCause] at h
      split at h
      · cases h
        exact .inl rfl
      · split at h <;> cases h <;> exact .inl rfl

/-- Only a diagnostic of an empty, corrupted or unsupported file can be disturbed, by one
that suggests to report only. -/
theorem undisturbed_of_built {resolvePath : PurePath → PurePath} {libraryRoot : Option PurePath}
    {candidate : MetadataFailureCandidate} {diagnostics : List MetadataFailureDiagnostic}
    (h : (∀ other ∈ diagnostics, other.suggestedAction ≠ .reportOnly) ∨
      (buildDiagnostic resolvePath libraryRoot candidate).suggestedAction ∉
        [SuggestedAction.markUnrecoverable, .quarantineCorrupt]) :
    Undisturbed diagnostics (buildDiagnostic resolvePath libraryRoot candidate) := by
  intro other hother hbefore
  cases hsource : candidate.source with
  | none =>
      simp only [buildDiagnostic, hsource] at hbefore
      cases hbefore
  | some finding =>
      rcases hclass : classifyRootCause resolvePath libraryRoot finding with
        ⟨cause, level, action, confidence⟩
      simp only [buildDiagnostic, hsource, hclass] at h hbefore
      rcases before_suggestion resolvePath libraryRoot finding hclass with
        hnone | ⟨hreport, haction⟩
      · rw [hnone] at hbefore
        cases hbefore
      · rw [hreport] at hbefore
        rcases h with hothers | hself
        · exact hothers other hother (List.mem_singleton.mp hbefore)
        · exact hself haction

/-! ## Two repairs -/

/-- Two repairs with the same flags plan the same for a diagnostic they share; without flags,
what it suggests. -/
def PlannedAlone (flags : ActionFlags) (request other : MetadataRepairRequest) : Prop :=
  ∀ diagnostic action otherAction, (diagnostic, action) ∈ request.planned flags →
    (diagnostic, otherAction) ∈ other.planned flags →
      action = otherAction ∧ (flags.selectedActions = [] → action = diagnostic.suggestedAction)

/-- The actions of shared diagnostics are theirs alone exactly when there are flags, or none
of them is disturbed on either side. -/
theorem plannedAlone_iff (flags : ActionFlags) (request other : MetadataRepairRequest) :
    PlannedAlone flags request other ↔ flags.selectedActions ≠ [] ∨
      ∀ diagnostic ∈ request.diagnostics, diagnostic ∈ other.diagnostics →
        Undisturbed request.diagnostics diagnostic ∧ Undisturbed other.diagnostics diagnostic := by
  by_cases hflags : flags.selectedActions = []
  · rw [or_iff_right (not_not_intro hflags)]
    constructor
    · intro h diagnostic hmem hother
      obtain ⟨hsame, hown⟩ := h diagnostic _ _ (mem_planned.mpr ⟨hmem, rfl⟩)
        (mem_planned.mpr ⟨hother, rfl⟩)
      have hsuggested := hown hflags
      exact ⟨(plannedAction_eq_suggested_iff hflags hmem).mp hsuggested,
        (plannedAction_eq_suggested_iff hflags hother).mp (hsame ▸ hsuggested)⟩
    · intro h diagnostic action otherAction hplanned hplannedOther
      obtain ⟨hmem, haction⟩ := mem_planned.mp hplanned
      obtain ⟨hother, hotherAction⟩ := mem_planned.mp hplannedOther
      obtain ⟨hundisturbed, hundisturbedOther⟩ := h diagnostic hmem hother
      rw [(plannedAction_eq_suggested_iff hflags hmem).mpr hundisturbed] at haction
      rw [(plannedAction_eq_suggested_iff hflags hother).mpr hundisturbedOther] at hotherAction
      exact ⟨haction.symm.trans hotherAction, fun _ => haction.symm⟩
  · rw [iff_true_right (.inl hflags)]
    intro diagnostic action otherAction hplanned hplannedOther
    have haction := (mem_planned.mp hplanned).2
    have hotherAction := (mem_planned.mp hplannedOther).2
    rw [actionsFor_of_flags hflags] at haction hotherAction
    exact ⟨haction.symm.trans hotherAction, fun hnone => absurd hnone hflags⟩

/-! ## An empty file and a missing one -/

def noFlags : ActionFlags :=
  ⟨false, false, false, false, false⟩

def emptyFileStep : RepairStep :=
  ⟨buildDiagnostic id none ⟨py "a", py "/photos/a.jpg",
    some ⟨.fileEmpty, py "/photos/a.jpg", none⟩⟩, py "entry-a", none⟩

def missingFileStep : RepairStep :=
  ⟨buildDiagnostic id none ⟨py "b", py "/photos/b.jpg",
    some ⟨.fileMissing, py "/photos/b.jpg", none⟩⟩, py "entry-b", none⟩

def planRequest (inspected : List RepairStep) : MetadataRepairRequest :=
  ⟨py "run", false, [], inspected, ⟨fun _ => none, fun _ => 0⟩⟩

/-- Beside a missing file, an empty one is only reported. -/
theorem missing_file_changes_plan :
    ¬ ∀ (flags : ActionFlags) (request other : MetadataRepairRequest),
      PlannedAlone flags request other := by
  intro h
  have hboth : (emptyFileStep.diagnostic, SuggestedAction.reportOnly) ∈
      (planRequest [emptyFileStep, missingFileStep]).planned noFlags := by decide
  have halone : (emptyFileStep.diagnostic, SuggestedAction.markUnrecoverable) ∈
      (planRequest [emptyFileStep]).planned noFlags := by decide
  have hsame := (h noFlags _ _ _ _ _ hboth halone).1
  cases hsame

end ImmichDoctor.Runtime
