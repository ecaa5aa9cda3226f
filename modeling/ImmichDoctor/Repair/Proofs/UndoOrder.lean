import ImmichDoctor.Repair.UndoService
import ImmichDoctor.Runtime.MetadataRepair
import Mathlib.Data.List.TakeWhile
/-!
# The order of an undo

An undo restores the old modes in the order of the journal, so of several entries on one
file the last one decides. It brings back the modes from before the run exactly when no
file that lacked a read bit was fixed twice.
-/

namespace ImmichDoctor.Runtime

open ImmichDoctor.Library
open ImmichDoctor.Storage
open ImmichDoctor.Repair

/-! ## One step of a repair -/

/-- The step's action is a permission fix that is applied. -/
def RepairStep.fixes (options : RepairOptions) (step : RepairStep) : Bool :=
  options.apply &&
    (step.diagnostic.availableActions.filter (options.selectedActions.contains ·)).head?
      = some .fixPermissions

/-- The step fixes the permissions of this file. -/
def RepairStep.fixesFile (options : RepairOptions) (files : FileModes) (file : Inode)
    (step : RepairStep) : Bool :=
  step.fixes options && files.fileAt step.path = some file

theorem RepairStep.of_not_fixes {options : RepairOptions} {step : RepairStep} (files : FileModes)
    (repairRunId : PyStr) (h : step.fixes options = false) :
    (step.planOrApplyAction options.selectedActions options.apply files).1 = files ∧
      (step.recordAction repairRunId
        (step.planOrApplyAction options.selectedActions options.apply files).2).undoType = .none ∧
      (step.recordAction repairRunId
        (step.planOrApplyAction options.selectedActions options.apply files).2).undoPayload.path
          = none := by
  unfold RepairStep.fixes at h
  simp only [planOrApplyAction]
  cases hactions :
      step.diagnostic.availableActions.filter (options.selectedActions.contains ·) with
  | nil => simp [recordAction]
  | cons action actions =>
      cases happly : options.apply with
      | false => simp [recordAction]
      | true =>
          have hother : action ≠ .fixPermissions := by
            intro heq
            rw [happly, hactions, heq] at h
            simp at h
          simp [recordAction, hother]

theorem RepairStep.of_fixes {options : RepairOptions} {step : RepairStep} {files : FileModes}
    (repairRunId : PyStr) (h : step.fixes options = true)
    (hok : (step.planOrApplyAction options.selectedActions options.apply files).2.status
      ≠ .failed) :
    ∃ file newMode, files.fileAt step.path = some file ∧
      (step.planOrApplyAction options.selectedActions options.apply files).1
        = files.setMode file (files.mode file ||| FileModes.readBits) ∧
      (step.recordAction repairRunId
        (step.planOrApplyAction options.selectedActions options.apply files).2).undoType
          = .restorePermissions ∧
      (step.recordAction repairRunId
        (step.planOrApplyAction options.selectedActions options.apply files).2).undoPayload
          = ⟨some step.diagnostic.sourcePath, some (files.mode file), some newMode⟩ := by
  have hfix : step.planOrApplyAction options.selectedActions options.apply files
      = step.applyPermissionFix files := by
    unfold RepairStep.fixes at h
    simp only [planOrApplyAction]
    cases hactions :
        step.diagnostic.availableActions.filter (options.selectedActions.contains ·) with
    | nil => rw [hactions] at h; simp at h
    | cons action actions =>
        have hboth : options.apply = true ∧ action = .fixPermissions := by
          rw [hactions] at h
          simpa using h
        simp [hboth.1, hboth.2]
  rw [hfix] at hok ⊢
  cases hfile : files.fileAt step.path with
  | none => simp [applyPermissionFix, FileModes.statMode, hfile, permissionFix] at hok
  | some file =>
      cases hfault : step.fault with
      | none =>
          refine ⟨file, files.mode file ||| FileModes.readBits, rfl, ?_, ?_, ?_⟩ <;>
            simp [applyPermissionFix, FileModes.statMode, FileModes.addReadPermissions, hfile,
              hfault, permissionFix, recordAction, FileModes.setMode]
      | some fault =>
          cases fault <;>
            simp [applyPermissionFix, FileModes.statMode, FileModes.addReadPermissions, hfile,
              hfault, permissionFix] at hok

/-! ## The whole repair -/

theorem setMode_mode_self {files : FileModes} {file : Inode} {mode : FileMode} :
    (files.setMode file mode).mode file = mode :=
  Function.update_self ..

theorem setMode_mode_of_ne {files : FileModes} {file other : Inode} {mode : FileMode}
    (h : other ≠ file) : (files.setMode file mode).mode other = files.mode other :=
  Function.update_of_ne h ..

@[simp] theorem or_readBits_or_readBits (mode : FileMode) :
    mode ||| FileModes.readBits ||| FileModes.readBits = mode ||| FileModes.readBits := by
  rw [BitVec.or_assoc, BitVec.or_self]

/-- No action of a completed run failed. -/
theorem repairRun_completed {options : RepairOptions} {files : FileModes} {steps : List RepairStep}
    (h : (repairRun options files steps).status = .completed) :
    ∀ result ∈ (repairLoop options files steps).2, result.1.status ≠ .failed := by
  intro result hresult hfailed
  have hany : ((repairLoop options files steps).2.map (·.1)).any (·.status = .failed) = true := by
    simp only [List.any_eq_true, List.mem_map, decide_eq_true_eq]
    exact ⟨result.1, ⟨result, hresult, rfl⟩, hfailed⟩
  simp only [repairRun, finalRunStatus, if_pos hany] at h
  split at h <;> cases h

/-- The number of times a run fixes the file. -/
def fixCount (options : RepairOptions) (files : FileModes) (file : Inode)
    (steps : List RepairStep) : Nat :=
  steps.countP (·.fixesFile options files file)

theorem fixCount_of_not_fixes {options : RepairOptions} {files : FileModes} {file : Inode}
    {step : RepairStep} {steps : List RepairStep} (h : step.fixes options = false) :
    fixCount options files file (step :: steps) = fixCount options files file steps := by
  have hhead : ¬ step.fixesFile options files file = true := by
    simp [RepairStep.fixesFile, h]
  exact List.countP_cons_of_neg hhead

theorem fixCount_of_fixes {options : RepairOptions} {files : FileModes} {file : Inode}
    {step : RepairStep} {steps : List RepairStep} (h : step.fixes options = true)
    (hat : files.fileAt step.path = some file) :
    fixCount options files file (step :: steps) = fixCount options files file steps + 1 := by
  have hhead : step.fixesFile options files file = true := by
    simp [RepairStep.fixesFile, h, hat]
  exact List.countP_cons_of_pos hhead

theorem fixCount_of_ne {options : RepairOptions} {files : FileModes} {file fixed : Inode}
    {step : RepairStep} {steps : List RepairStep} (hat : files.fileAt step.path = some fixed)
    (hne : file ≠ fixed) :
    fixCount options files file (step :: steps) = fixCount options files file steps := by
  have hhead : ¬ step.fixesFile options files file = true := by
    simp [RepairStep.fixesFile, hat, hne.symm]
  exact List.countP_cons_of_neg hhead

/-- What a repair of nothing but successes does to one file. -/
theorem repairLoop_files {options : RepairOptions} (file : Inode) {steps : List RepairStep} :
    ∀ {files : FileModes},
      (∀ result ∈ (repairLoop options files steps).2, result.1.status ≠ .failed) →
      (repairLoop options files steps).1.fileAt = files.fileAt ∧
        (repairLoop options files steps).1.mode file =
          if fixCount options files file steps = 0 then files.mode file
          else files.mode file ||| FileModes.readBits := by
  induction steps with
  | nil => exact fun _ => ⟨rfl, by simp [repairLoop, fixCount]⟩
  | cons step steps ih =>
      intro files hok
      simp only [repairLoop, List.mem_cons, forall_eq_or_imp] at hok ⊢
      cases hfix : step.fixes options with
      | false =>
          have hkept := (RepairStep.of_not_fixes files [] hfix).1
          rw [hkept] at hok ⊢
          rw [fixCount_of_not_fixes hfix]
          exact ih hok.2
      | true =>
          obtain ⟨fixed, newMode, hat, hchanged, -, -⟩ :=
            RepairStep.of_fixes [] hfix hok.1
          rw [hchanged] at hok ⊢
          obtain ⟨hfileAt, hmode⟩ := ih hok.2
          refine ⟨hfileAt, hmode.trans ?_⟩
          have hrest : fixCount options
              (files.setMode fixed (files.mode fixed ||| FileModes.readBits)) file steps
                = fixCount options files file steps := rfl
          rw [hrest]
          by_cases hfixed : file = fixed
          · rw [hfixed, fixCount_of_fixes hfix hat, setMode_mode_self, or_readBits_or_readBits,
              ite_self, if_neg (Nat.succ_ne_zero _)]
          · rw [fixCount_of_ne hat hfixed, setMode_mode_of_ne hfixed]

/-! ## The undo -/

/-- The journal entries that have an undo. -/
def undoable (entry : RepairJournalEntry) : Bool :=
  entry.undoType ≠ .none

/-- An entry that is undone has what an undo needs. -/
theorem executeEntry_applied {denied : RepairJournalEntry → Bool} {files : FileModes}
    {entry : RepairJournalEntry} (h : (executeEntry denied files entry).2.status ≠ .failed) :
    ∃ text oldMode file, entry.undoPayload.path = some text ∧
      entry.undoPayload.oldMode = some oldMode ∧ files.fileAt (.parse text) = some file ∧
      (executeEntry denied files entry).1 = files.setMode file oldMode := by
  cases hpath : entry.undoPayload.path with
  | none => simp [executeEntry, hpath] at h
  | some text =>
      cases hold : entry.undoPayload.oldMode with
      | none => simp [executeEntry, hpath, hold] at h
      | some oldMode =>
          cases hdenied : denied entry with
          | true => simp [executeEntry, hpath, hold, hdenied] at h
          | false =>
              cases hfile : files.fileAt (.parse text) with
              | none =>
                  simp [executeEntry, hpath, hold, hdenied, FileModes.setPermissions, hfile] at h
              | some file =>
                  refine ⟨text, oldMode, file, rfl, rfl, hfile, ?_⟩
                  simp [executeEntry, hpath, hold, hdenied, FileModes.setPermissions, hfile]

/-- The mode an undo in the order of the journal leaves: the old mode of the last entry. -/
theorem executeEntries_mode {options : RepairOptions} {denied : RepairJournalEntry → Bool}
    (file : Inode) {steps : List RepairStep} :
    ∀ {files current : FileModes},
      (∀ result ∈ (repairLoop options files steps).2, result.1.status ≠ .failed) →
      current.fileAt = files.fileAt →
      (∀ item ∈ (executeEntries denied current
        (((repairLoop options files steps).2.map (·.2)).filter undoable)).2,
          item.status ≠ .failed) →
      (executeEntries denied current
        (((repairLoop options files steps).2.map (·.2)).filter undoable)).1.fileAt
          = files.fileAt ∧
      (executeEntries denied current
        (((repairLoop options files steps).2.map (·.2)).filter undoable)).1.mode file =
          if fixCount options files file steps = 0 then current.mode file
          else if fixCount options files file steps = 1 then files.mode file
          else files.mode file ||| FileModes.readBits := by
  induction steps with
  | nil => exact fun _ hfileAt _ => ⟨hfileAt, by simp [repairLoop, executeEntries, fixCount]⟩
  | cons step steps ih =>
      intro files current hok hfileAt hdone
      simp only [repairLoop, List.mem_cons, forall_eq_or_imp, List.map_cons] at hok hdone ⊢
      cases hfix : step.fixes options with
      | false =>
          obtain ⟨hkept, htype, -⟩ :=
            RepairStep.of_not_fixes files options.repairRunId hfix
          rw [List.filter_cons_of_neg (by simp [undoable, htype]), hkept] at hdone
          rw [List.filter_cons_of_neg (by simp [undoable, htype]), hkept,
            fixCount_of_not_fixes hfix]
          rw [hkept] at hok
          exact ih hok.2 hfileAt hdone
      | true =>
          obtain ⟨fixed, newMode, hat, hchanged, htype, hpayload⟩ :=
            RepairStep.of_fixes options.repairRunId hfix hok.1
          rw [List.filter_cons_of_pos (by simp [undoable, htype]), hchanged] at hdone
          rw [List.filter_cons_of_pos (by simp [undoable, htype]), hchanged]
          rw [hchanged] at hok
          simp only [executeEntries, List.mem_cons, forall_eq_or_imp] at hdone ⊢
          obtain ⟨text, oldMode, undone, htext, hold, hundone, hresult⟩ :=
            executeEntry_applied hdone.1
          rw [hpayload] at htext hold
          cases htext
          cases hold
          have hsame : undone = fixed := by
            rw [hfileAt] at hundone
            exact Option.some.inj (hundone.symm.trans hat)
          rw [hresult, hsame] at hdone ⊢
          have hcurrent : (current.setMode fixed (files.mode fixed)).fileAt
              = (files.setMode fixed (files.mode fixed ||| FileModes.readBits)).fileAt := hfileAt
          obtain ⟨hfinal, hmode⟩ := ih hok.2 hcurrent hdone.2
          refine ⟨hfinal, hmode.trans ?_⟩
          have hrest : fixCount options
              (files.setMode fixed (files.mode fixed ||| FileModes.readBits)) file steps
                = fixCount options files file steps := rfl
          rw [hrest]
          by_cases hfixed : file = fixed
          · rw [hfixed, fixCount_of_fixes hfix hat, setMode_mode_self, setMode_mode_self,
              or_readBits_or_readBits, if_neg (Nat.succ_ne_zero _)]
            by_cases hnone : fixCount options files fixed steps = 0
            · rw [if_pos hnone, if_pos (by omega)]
            · rw [if_neg hnone, ite_self, if_neg (by omega)]
          · rw [fixCount_of_ne hat hfixed, setMode_mode_of_ne hfixed, setMode_mode_of_ne hfixed]

/-- What an undo that completes has executed. -/
theorem executeUndo_completed {context : UndoContext} {files : FileModes} {run : StoredRun}
    {entryIds : List PyStr}
    (h : (executeUndo context files run entryIds).status = some .completed) :
    ∃ selected : RepairJournalEntry → Bool,
      (executeUndo context files run entryIds).files
        = (executeEntries context.denied files (run.journal.filter selected)).1 ∧
      (∀ item ∈ (executeEntries context.denied files (run.journal.filter selected)).2,
        item.status ≠ .failed) ∧
      ∀ entry ∈ selectEntries run.journal entryIds, selected entry = true := by
  have hreversible : (undoPlan files run entryIds).eligibility = .reversibleNow := by
    by_contra hne
    simp [executeUndo, hne] at h
  have hsome : (undoPlan files run entryIds).selectedEntryIds ≠ [] := by
    intro hnil
    have hnone : selectEntries run.journal entryIds = [] := List.map_eq_nil_iff.mp hnil
    simp [undoPlan, eligibility, globalBlockers, hnone] at hreversible
  have hagain : selectEntries run.journal (undoPlan files run entryIds).selectedEntryIds
      = run.journal.filter fun entry =>
          (undoPlan files run entryIds).selectedEntryIds.contains entry.entryId := by
    rw [selectEntries, if_neg (by simpa using hsome)]
  simp only [executeUndo, hreversible, ne_eq, not_true_eq_false, if_false] at h ⊢
  split at h
  case isFalse => cases h
  case isTrue hvalid =>
    rw [if_pos hvalid, hagain]
    rw [hagain] at h
    refine ⟨_, rfl, ?_, ?_⟩
    · intro item hitem hfailed
      simp only [Option.some.injEq, finalStatus] at h
      rw [if_pos (List.any_eq_true.mpr ⟨item, hitem, decide_eq_true hfailed⟩)] at h
      split at h <;> cases h
    · intro entry hentry
      exact List.contains_iff_mem.mpr (List.mem_map_of_mem hentry)

/-- An undo without failures has only undone entries with a path. -/
theorem executeEntries_path {denied : RepairJournalEntry → Bool}
    {entries : List RepairJournalEntry} :
    ∀ {files : FileModes},
      (∀ item ∈ (executeEntries denied files entries).2, item.status ≠ .failed) →
      ∀ entry ∈ entries, entry.undoPayload.path ≠ none := by
  induction entries with
  | nil => exact fun _ _ hentry => absurd hentry List.not_mem_nil
  | cons head entries ih =>
      intro files hdone
      simp only [executeEntries, List.mem_cons, forall_eq_or_imp] at hdone ⊢
      obtain ⟨text, -, -, htext, -, -, -⟩ := executeEntry_applied hdone.1
      exact ⟨by rw [htext]; exact Option.some_ne_none text, ih hdone.2⟩

/-- An entry of a run that has no undo has no path to undo either. -/
theorem journal_path {options : RepairOptions} {steps : List RepairStep} :
    ∀ {files : FileModes}, ∀ entry ∈ (repairLoop options files steps).2.map (·.2),
      undoable entry = false → entry.undoPayload.path = none := by
  induction steps with
  | nil => exact fun _ hentry => absurd hentry List.not_mem_nil
  | cons step steps ih =>
      intro files
      simp only [repairLoop, List.map_cons, List.mem_cons, forall_eq_or_imp]
      refine ⟨fun hnone => ?_, ih⟩
      simp only [undoable, RepairStep.recordAction] at hnone ⊢
      split at hnone
      · simp at hnone
      · rename_i hundoable
        rw [if_neg hundoable]

/-! ## The modes after an undo -/

/-- Every path of an applied fix has the mode it had before the first entry on it. -/
def Restored (options : RepairOptions) (files : FileModes) (steps : List RepairStep)
    (final : FileModes) : Prop :=
  ∀ step ∈ steps, step.fixes options = true →
    final.statMode step.path =
      (repairLoop options files (steps.takeWhile (·.path ≠ step.path))).1.statMode step.path

/-- No file that lacks one of the read bits is fixed twice. -/
def FixedOnce (options : RepairOptions) (files : FileModes) (steps : List RepairStep) : Prop :=
  ∀ file, fixCount options files file steps ≤ 1 ∨
    files.mode file ||| FileModes.readBits = files.mode file

/-- The first of the steps that fix a file comes before the others, on any path. -/
theorem exists_first {options : RepairOptions} {files : FileModes} {file : Inode} :
    ∀ {steps : List RepairStep}, fixCount options files file steps ≠ 0 →
      ∃ step ∈ steps, step.fixesFile options files file = true ∧
        fixCount options files file (steps.takeWhile (·.path ≠ step.path)) = 0 := by
  intro steps
  induction steps with
  | nil => exact fun h => absurd rfl h
  | cons head steps ih =>
      intro hcount
      cases hhead : head.fixesFile options files file with
      | true => exact ⟨head, List.mem_cons_self, hhead, by simp [fixCount]⟩
      | false =>
          have hneg : ¬ head.fixesFile options files file = true := by simp [hhead]
          rw [fixCount, List.countP_cons_of_neg hneg] at hcount
          obtain ⟨step, hstep, hfixes, hfirst⟩ := ih hcount
          refine ⟨step, List.mem_cons_of_mem head hstep, hfixes, ?_⟩
          by_cases hpath : head.path ≠ step.path
          · rw [List.takeWhile_cons_of_pos (by simpa using hpath), fixCount,
              List.countP_cons_of_neg hneg]
            exact hfirst
          · rw [List.takeWhile_cons_of_neg (by simpa using hpath)]
            rfl

/-- A step that fixes a file is not among those before the first entry on its path. -/
theorem fixCount_before_lt {options : RepairOptions} {files : FileModes} {file : Inode}
    {steps : List RepairStep} {step : RepairStep} (hstep : step ∈ steps)
    (hfixes : step.fixesFile options files file = true) :
    fixCount options files file (steps.takeWhile (·.path ≠ step.path))
      < fixCount options files file steps := by
  have hsplit : steps.takeWhile (·.path ≠ step.path) ++ steps.dropWhile (·.path ≠ step.path)
      = steps := List.takeWhile_append_dropWhile
  have hafter : step ∈ steps.dropWhile (·.path ≠ step.path) := by
    rw [← hsplit, List.mem_append] at hstep
    refine hstep.resolve_left fun hbefore => ?_
    simpa using List.mem_takeWhile_imp hbefore
  have hpos : 0 < fixCount options files file (steps.dropWhile (·.path ≠ step.path)) :=
    List.countP_pos_iff.mpr ⟨step, hafter, hfixes⟩
  calc fixCount options files file (steps.takeWhile (·.path ≠ step.path))
      < fixCount options files file (steps.takeWhile (·.path ≠ step.path))
          + fixCount options files file (steps.dropWhile (·.path ≠ step.path)) := by omega
    _ = fixCount options files file steps := by
        rw [fixCount, fixCount, ← List.countP_append, hsplit, fixCount]

/-- The results of the steps before another are among those of all. -/
theorem repairLoop_append {options : RepairOptions} {before : List RepairStep}
    (after : List RepairStep) :
    ∀ {files : FileModes}, ∀ result ∈ (repairLoop options files before).2,
      result ∈ (repairLoop options files (before ++ after)).2 := by
  induction before with
  | nil => exact fun _ hresult => absurd hresult List.not_mem_nil
  | cons step before ih =>
      intro files result hresult
      simp only [repairLoop, List.cons_append, List.mem_cons] at hresult ⊢
      exact hresult.imp_right (ih result)

/-- The undo of a run, with the files as the run left them. -/
def undoAfter (context : UndoContext) (options : RepairOptions) (files : FileModes)
    (steps : List RepairStep) (entryIds : List PyStr) : UndoExecutionResult :=
  let run := repairRun options files steps
  executeUndo context run.files ⟨options.repairRunId, run.status, run.journal⟩ entryIds

/-- An undo of these entries is one of every entry that has an undo. -/
def SelectsAll (options : RepairOptions) (files : FileModes) (steps : List RepairStep)
    (entryIds : List PyStr) : Prop :=
  ∀ entry ∈ (repairRun options files steps).journal, undoable entry = true →
    entry ∈ selectEntries (repairRun options files steps).journal entryIds

/-- Without ids a plan is over every entry that has an undo. -/
theorem selectsAll_nil {options : RepairOptions} {files : FileModes} {steps : List RepairStep} :
    SelectsAll options files steps [] :=
  fun _ hentry hundoable => List.mem_filter.mpr ⟨hentry, hundoable⟩

/-- The mode of a file after an undo of every entry. -/
theorem undoAfter_mode {options : RepairOptions} {files : FileModes} {steps : List RepairStep}
    {context : UndoContext} {entryIds : List PyStr}
    (hrun : (repairRun options files steps).status = .completed)
    (hall : SelectsAll options files steps entryIds)
    (hundo : (undoAfter context options files steps entryIds).status = some .completed)
    (file : Inode) :
    (undoAfter context options files steps entryIds).files.fileAt = files.fileAt ∧
      (undoAfter context options files steps entryIds).files.mode file =
        if fixCount options files file steps ≤ 1 then files.mode file
        else files.mode file ||| FileModes.readBits := by
  have hok := repairRun_completed hrun
  obtain ⟨hfileAt, hmode⟩ := repairLoop_files file hok
  obtain ⟨selected, hfiles, hdone, hselected⟩ := executeUndo_completed hundo
  have hfilter : (repairRun options files steps).journal.filter selected
      = ((repairLoop options files steps).2.map (·.2)).filter undoable := by
    refine List.filter_congr fun entry hentry => ?_
    cases hundoable : undoable entry with
    | true => exact hselected entry (hall entry hentry hundoable)
    | false =>
        have hnone := journal_path entry hentry hundoable
        refine Bool.eq_false_iff.mpr fun hsel => ?_
        exact executeEntries_path hdone entry (List.mem_filter.mpr ⟨hentry, hsel⟩) hnone
  rw [hfilter] at hdone hfiles
  obtain ⟨hfinal, hresult⟩ := executeEntries_mode file hok hfileAt hdone
  rw [undoAfter, hfiles]
  refine ⟨hfinal, hresult.trans ?_⟩
  by_cases hnone : fixCount options files file steps = 0
  · rw [if_pos hnone] at hmode ⊢
    rw [if_pos (by omega)]
    exact hmode
  · rw [if_neg hnone]
    by_cases hone : fixCount options files file steps = 1
    · rw [if_pos hone, if_pos (by omega)]
    · rw [if_neg hone, if_neg (by omega)]

/-- What a completed run had done to a file before the first entry on a path. -/
theorem before_mode {options : RepairOptions} {files : FileModes} {steps : List RepairStep}
    (hrun : (repairRun options files steps).status = .completed) (path : PurePath)
    (file : Inode) :
    (repairLoop options files (steps.takeWhile (·.path ≠ path))).1.fileAt = files.fileAt ∧
      (repairLoop options files (steps.takeWhile (·.path ≠ path))).1.mode file =
        if fixCount options files file (steps.takeWhile (·.path ≠ path)) = 0 then files.mode file
        else files.mode file ||| FileModes.readBits := by
  refine repairLoop_files file fun result hresult => repairRun_completed hrun result ?_
  have hmem := repairLoop_append (steps.dropWhile (·.path ≠ path)) result hresult
  rwa [List.takeWhile_append_dropWhile] at hmem

/-- An undo of every entry restores the modes exactly when no file is fixed twice that lacked
a read bit. -/
theorem undo_restores_iff {options : RepairOptions} {files : FileModes} {steps : List RepairStep}
    {context : UndoContext} {entryIds : List PyStr}
    (hrun : (repairRun options files steps).status = .completed)
    (hall : SelectsAll options files steps entryIds)
    (hundo : (undoAfter context options files steps entryIds).status = some .completed) :
    Restored options files steps (undoAfter context options files steps entryIds).files ↔
      FixedOnce options files steps := by
  have hafter := undoAfter_mode hrun hall hundo
  have hbefore := before_mode hrun
  generalize (undoAfter context options files steps entryIds).files = final at hafter ⊢
  constructor
  · intro hrestored file
    by_cases hcount : fixCount options files file steps ≤ 1
    · exact Or.inl hcount
    · have hsome : fixCount options files file steps ≠ 0 := by omega
      obtain ⟨step, hstep, hfixes, hfirst⟩ := exists_first hsome
      simp only [RepairStep.fixesFile, Bool.and_eq_true, decide_eq_true_eq] at hfixes
      have hstat := hrestored step hstep hfixes.1
      rw [FileModes.statMode, FileModes.statMode, (hafter file).1, (hbefore step.path file).1,
        hfixes.2] at hstat
      have hmode := Option.some.inj hstat
      rw [(hafter file).2, if_neg hcount, (hbefore step.path file).2, if_pos hfirst] at hmode
      exact Or.inr hmode
  · intro honce step hstep hfix
    cases hat : files.fileAt step.path with
    | none =>
        rw [FileModes.statMode, FileModes.statMode, (hafter 0).1, (hbefore step.path 0).1, hat]
        rfl
    | some file =>
        rw [FileModes.statMode, FileModes.statMode, (hafter file).1, (hbefore step.path file).1,
          hat, Option.map_some, Option.map_some, (hafter file).2, (hbefore step.path file).2]
        rcases honce file with hcount | hreadable
        · have hfixes : step.fixesFile options files file = true := by
            simp [RepairStep.fixesFile, hfix, hat]
          have hlt := fixCount_before_lt hstep hfixes
          rw [if_pos hcount, if_pos (by omega)]
        · rw [hreadable, ite_self, ite_self]

/-- Two diagnostics of one unreadable file. -/
def sampleOptions : RepairOptions :=
  ⟨py "run", [.fixPermissions], true⟩

def sampleStep (entryId : PyStr) : RepairStep :=
  ⟨⟨py "diagnostic", py "asset", .fixPermissions, py "/a", [.fixPermissions]⟩, entryId, none⟩

def sampleFiles : FileModes :=
  ⟨fun _ => some 0, fun _ => 0o200⟩

def sampleUndo : UndoContext :=
  ⟨fun _ => [], py "token", 0, 0, fun _ => false⟩

theorem undo_restores_iff_sample :
    Restored sampleOptions sampleFiles [sampleStep (py "e1")]
        (undoAfter sampleUndo sampleOptions sampleFiles [sampleStep (py "e1")] []).files ↔
      FixedOnce sampleOptions sampleFiles [sampleStep (py "e1")] :=
  undo_restores_iff (by decide) selectsAll_nil (by decide)

/-- With two entries on one file the undo ends with the mode between them. -/
theorem undo_keeps_repaired_mode :
    (repairRun sampleOptions sampleFiles [sampleStep (py "e1"), sampleStep (py "e2")]).status
        = .completed ∧
      SelectsAll sampleOptions sampleFiles [sampleStep (py "e1"), sampleStep (py "e2")] [] ∧
      (undoAfter sampleUndo sampleOptions sampleFiles
        [sampleStep (py "e1"), sampleStep (py "e2")] []).status = some .completed ∧
      ¬ Restored sampleOptions sampleFiles [sampleStep (py "e1"), sampleStep (py "e2")]
        (undoAfter sampleUndo sampleOptions sampleFiles
          [sampleStep (py "e1"), sampleStep (py "e2")] []).files := by
  refine ⟨by decide, selectsAll_nil, by decide, fun hrestored => ?_⟩
  have hmode := hrestored (sampleStep (py "e1")) List.mem_cons_self (by decide)
  exact absurd hmode (by decide)

end ImmichDoctor.Runtime
