import ImmichDoctor.Library.OptionLists
import ImmichDoctor.Repair.UndoExecution
import ImmichDoctor.Repair.RepairRuns
/-!
# Undo plans that can be executed

A plan asks less of an entry than its execution: it takes the path of the entry where the
payload has none, looks at the old mode only to see that there is one, and catches no more
than a missing file. An execution goes through exactly when the payloads have what it reads
and no call raises an error that is neither a missing file nor a lack of permission.
-/

namespace ImmichDoctor.Repair

open ImmichDoctor.Library
open ImmichDoctor.Storage

/-! ## One entry -/

/-- No exception leaves the execution of the entry. -/
def ExecutionContained (intOfText : PyStr → Option Int) (files : FileModes)
    (faults : ExecutionFaults) (record : JournalRecord) : Prop :=
  ∃ pathValue oldValue oldMode, record.undoPayload.lookup (py "path") = some pathValue ∧
    record.undoPayload.lookup (py "old_mode") = some (some oldValue) ∧
    oldValue.toInt intOfText = some oldMode ∧
    faults.statBefore ≠ some .other ∧
    (faults.statBefore = none →
      (files.fileAt (.parse ((pathValue.map PayloadValue.str).getD (py "None")))).isSome = true →
        isModeArgument oldMode = true ∧ faults.chmod ≠ some .other ∧
          (faults.chmod = none → faults.statAfter ≠ some .other))

theorem fileAt_setMode (files : FileModes) (file : Inode) (mode : FileMode) :
    (files.setMode file mode).fileAt = files.fileAt :=
  rfl

/-- What is executed has the item of its entry, and leaves each path at its file. -/
theorem of_executeRecord {intOfText : PyStr → Option Int} {faults : ExecutionFaults}
    {files changed : FileModes} {record : JournalRecord} {item : UndoExecutionItem}
    (h : executeRecord intOfText faults files record = some (changed, item)) :
    item.entryId = record.entryId ∧ changed.fileAt = files.fileAt := by
  simp only [executeRecord, Option.bind_eq_bind, Option.bind_eq_some_iff] at h
  obtain ⟨pathValue, -, oldValue, -, oldMode, -, hrun⟩ := h
  split at hrun
  · cases hrun
  · cases hrun
    exact ⟨rfl, rfl⟩
  · split at hrun
    · cases hrun
    · split at hrun
      · cases hrun
      · cases hrun
        exact ⟨rfl, rfl⟩
      · rename_i restored hchmod
        have hfiles : restored.fileAt = files.fileAt := by
          unfold call at hchmod
          split at hchmod
          · cases hchmod
          · cases hchmod
          · rename_i hset
            cases hchmod
            obtain ⟨file, -, rfl⟩ := Option.map_eq_some_iff.mp hset
            rfl
        split at hrun
        · cases hrun
        · cases hrun
          exact ⟨rfl, hfiles⟩
        · cases hrun
          exact ⟨rfl, hfiles⟩

/-- The calls for an entry on a file that is there. -/
theorem isSome_calls_iff {faults : ExecutionFaults} {files : FileModes} {path : PurePath}
    {file : Inode} (hfile : files.fileAt path = some file) (mode : FileMode)
    (failed : UndoExecutionItem) (applied : FileMode → UndoExecutionItem) :
    (match call faults.chmod (files.setPermissions path mode) with
      | .error .other => none
      | .error _ => some (files, failed)
      | .ok changed =>
          match call faults.statAfter (changed.statMode path) with
          | .error .other => none
          | .error _ => some (changed, failed)
          | .ok restored => some (changed, applied restored)).isSome = true ↔
      faults.chmod ≠ some .other ∧ (faults.chmod = none → faults.statAfter ≠ some .other) := by
  have hset : files.setPermissions path mode = some (files.setMode file mode) := by
    rw [FileModes.setPermissions, hfile, Option.map_some]
  have hstat : (files.setMode file mode).statMode path =
      some ((files.setMode file mode).mode file) := by
    rw [FileModes.statMode, fileAt_setMode, hfile, Option.map_some]
  rw [hset]
  cases hchmod : faults.chmod with
  | some error => cases error <;> simp [call]
  | none =>
      simp only [call, hstat]
      cases faults.statAfter with
      | some error => cases error <;> simp
      | none => simp

theorem isSome_executeRecord_iff (intOfText : PyStr → Option Int) (faults : ExecutionFaults)
    (files : FileModes) (record : JournalRecord) :
    (executeRecord intOfText faults files record).isSome = true ↔
      ExecutionContained intOfText files faults record := by
  unfold executeRecord ExecutionContained
  cases hpath : record.undoPayload.lookup (py "path") with
  | none => exact iff_of_false Bool.false_ne_true nofun
  | some pathValue =>
      cases hold : record.undoPayload.lookup (py "old_mode") with
      | none => exact iff_of_false Bool.false_ne_true nofun
      | some oldValue =>
          cases hmode : oldValue.bind (·.toInt intOfText) with
          | none =>
              refine iff_of_false ?_ ?_
              · simp only [Option.bind_eq_bind, Option.bind_some, hmode, Option.bind_none,
                  Option.isSome_none]
                exact Bool.false_ne_true
              · rintro ⟨_, value, mode, -, hvalue, hint, -⟩
                cases hvalue
                rw [Option.bind_some, hint] at hmode
                cases hmode
          | some oldMode =>
              obtain ⟨value, rfl, hint⟩ := Option.bind_eq_some_iff.mp hmode
              have hexists : ∀ p : Option PayloadValue → PayloadValue → Int → Prop,
                  (∃ pathValue' oldValue oldMode', some pathValue = some pathValue' ∧
                    some (some value) = some (some oldValue) ∧
                    oldValue.toInt intOfText = some oldMode' ∧ p pathValue' oldValue oldMode') ↔
                  p pathValue value oldMode := by
                intro p
                constructor
                · rintro ⟨_, _, _, hpath', hvalue, hint', hp⟩
                  cases hpath'
                  cases hvalue
                  rw [hint] at hint'
                  cases hint'
                  exact hp
                · intro hp
                  exact ⟨_, _, _, rfl, rfl, hint, hp⟩
              rw [hexists fun pathValue _ oldMode => faults.statBefore ≠ some .other ∧
                (faults.statBefore = none → (files.fileAt (.parse
                  ((pathValue.map PayloadValue.str).getD (py "None")))).isSome = true →
                    isModeArgument oldMode = true ∧ faults.chmod ≠ some .other ∧
                      (faults.chmod = none → faults.statAfter ≠ some .other))]
              simp only [Option.bind_eq_bind, Option.bind_some, hint]
              cases hbefore : faults.statBefore with
              | some error => cases error <;> simp [call]
              | none =>
                  cases hfile : files.fileAt
                      (.parse ((pathValue.map PayloadValue.str).getD (py "None"))) with
                  | none => simp [call, FileModes.statMode, hfile]
                  | some file =>
                      have hstat : call none (files.statMode
                          (.parse ((pathValue.map PayloadValue.str).getD (py "None")))) =
                            .ok (files.mode file) := by
                        rw [FileModes.statMode, hfile]
                        rfl
                      have hcalls := @isSome_calls_iff faults files _ file hfile
                        (BitVec.ofInt 12 oldMode) ⟨record.entryId, .failed, none⟩
                        fun restored => ⟨record.entryId, .applied, some restored⟩
                      simp only [hstat]
                      cases hargument : isModeArgument oldMode with
                      | false => simp
                      | true =>
                          rw [Bool.not_true, if_neg Bool.false_ne_true]
                          refine Iff.trans hcalls ?_
                          simp

/-! ## All entries -/

theorem executionContained_congr {intOfText : PyStr → Option Int} {files changed : FileModes}
    (h : changed.fileAt = files.fileAt) (faults : ExecutionFaults) (record : JournalRecord) :
    ExecutionContained intOfText changed faults record ↔
      ExecutionContained intOfText files faults record := by
  unfold ExecutionContained
  rw [h]

theorem ids_executeRecords {intOfText : PyStr → Option Int} {faults : Nat → ExecutionFaults}
    {first : Nat} {files final : FileModes} {records : List JournalRecord}
    {items : List UndoExecutionItem}
    (h : executeRecords intOfText faults first files records = some (final, items)) :
    items.map (·.entryId) = records.map (·.entryId) := by
  induction records generalizing first files final items with
  | nil =>
      cases h
      rfl
  | cons record records ih =>
      simp only [executeRecords, Option.bind_eq_bind, Option.bind_eq_some_iff] at h
      obtain ⟨⟨changed, item⟩, hone, ⟨last, rest⟩, hrest, heq⟩ := h
      cases heq
      rw [List.map_cons, List.map_cons, (of_executeRecord hone).1, ih hrest]

/-- The execution goes through all entries exactly when no exception leaves any of them. -/
theorem executeRecords_iff (intOfText : PyStr → Option Int) (faults : Nat → ExecutionFaults)
    (first : Nat) (files : FileModes) (records : List JournalRecord) :
    (∃ final items, executeRecords intOfText faults first files records = some (final, items) ∧
        items.map (·.entryId) = records.map (·.entryId)) ↔
      ∀ index record, records[index]? = some record →
        ExecutionContained intOfText files (faults (first + index)) record := by
  induction records generalizing first files with
  | nil => exact iff_of_true ⟨files, [], rfl, rfl⟩ nofun
  | cons record records ih =>
      rw [executeRecords]
      constructor
      · rintro ⟨final, items, hrun, hids⟩ index other hother
        simp only [Option.bind_eq_bind, Option.bind_eq_some_iff] at hrun
        obtain ⟨⟨changed, item⟩, hone, ⟨last, rest⟩, hrest, heq⟩ := hrun
        cases heq
        obtain ⟨-, hfiles⟩ := of_executeRecord hone
        cases index with
        | zero =>
            cases hother
            exact (isSome_executeRecord_iff _ _ _ _).mp (hone ▸ rfl)
        | succ index =>
            have hall := (ih (first + 1) changed).mp ⟨last, rest, hrest, (List.cons.inj hids).2⟩
            rw [show first + (index + 1) = first + 1 + index by omega]
            exact (executionContained_congr hfiles _ _).mp (hall index other hother)
      · intro h
        obtain ⟨⟨changed, item⟩, hone⟩ := Option.isSome_iff_exists.mp
          ((isSome_executeRecord_iff _ _ _ _).mpr (h 0 record rfl))
        obtain ⟨hid, hfiles⟩ := of_executeRecord hone
        obtain ⟨final, items, hrun, hids⟩ := (ih (first + 1) changed).mpr
          fun index other hother => by
            rw [show first + 1 + index = first + (index + 1) by omega]
            exact (executionContained_congr hfiles _ _).mpr (h (index + 1) other hother)
        rw [Nat.add_zero] at hone
        refine ⟨final, item :: items, ?_, ?_⟩
        · simp only [hone, hrun, Option.bind_eq_bind, Option.bind_some]
        · rw [List.map_cons, List.map_cons, hid, hids]

/-! ## The plan that is made again -/

theorem assessRecord_fault {intOfText : PyStr → Option Int} {files : FileModes}
    {fault : Option OSErrorKind} {record : JournalRecord} {assessment : UndoEntryAssessment}
    (h : assessRecord intOfText files fault record = some assessment)
    (hreversible : assessment.eligibility = .reversibleNow) : fault = none := by
  unfold assessRecord at h
  simp only at h
  split at h
  · cases fault with
    | none => rfl
    | some error =>
        cases error with
        | fileNotFound =>
            cases h
            cases hreversible
        | permission => cases h
        | other => cases h
  · cases h
    cases hreversible

theorem eq_of_eligibility {assessments : List UndoEntryAssessment} {blockers : List PyStr}
    (h : eligibility assessments blockers = .reversibleNow) :
    ∀ assessment ∈ assessments, assessment.eligibility = .reversibleNow := by
  unfold eligibility at h
  split at h
  · cases h
  · split at h
    · cases h
    · split at h
      · rename_i hall
        exact fun assessment hmem => of_decide_eq_true (List.all_eq_true.mp hall _ hmem)
      · split at h
        · cases h
        · split at h <;> cases h

theorem assessRecords_congr {intOfText : PyStr → Option Int} {files : FileModes}
    {faults others : Nat → Option OSErrorKind} {records : List JournalRecord}
    (h : ∀ index < records.length, faults index = others index) :
    assessRecords intOfText files faults records =
      assessRecords intOfText files others records := by
  unfold assessRecords
  congr 1
  apply List.ext_getElem?
  intro index
  rw [List.getElem?_mapIdx, List.getElem?_mapIdx]
  cases hrecord : records[index]? with
  | none => rfl
  | some record =>
      obtain ⟨hindex, -⟩ := List.getElem?_eq_some_iff.mp hrecord
      rw [Option.map_some, Option.map_some, h index hindex]

theorem exists_assessment {intOfText : PyStr → Option Int} {files : FileModes}
    {faults : Nat → Option OSErrorKind} {records : List JournalRecord}
    {assessments : List UndoEntryAssessment}
    (h : assessRecords intOfText files faults records = some assessments) {index : Nat}
    {record : JournalRecord} (hrecord : records[index]? = some record) :
    ∃ assessment ∈ assessments,
      assessRecord intOfText files (faults index) record = some assessment := by
  have hmem : assessRecord intOfText files (faults index) record ∈
      records.mapIdx fun index record => assessRecord intOfText files (faults index) record := by
    apply List.mem_of_getElem? (i := index)
    rw [List.getElem?_mapIdx, hrecord, Option.map_some]
  exact exists_mem_of_mapM h hmem

/-- The parts of a plan. -/
theorem of_planRecords {intOfText : PyStr → Option Int} {files : FileModes}
    {faults : Nat → Option OSErrorKind} {run : StoredJournal} {entryIds : List PyStr}
    {plan : UndoPlanResult} (h : planRecords intOfText files faults run entryIds = some plan) :
    plan.selectedEntryIds = (selectRecords run.records entryIds).map (·.entryId) ∧
      ∃ assessments, assessRecords intOfText files faults (selectRecords run.records entryIds) =
          some assessments ∧
        plan.eligibility = eligibility assessments
          (recordBlockers run.status run.records assessments) := by
  obtain ⟨assessments, hassess, rfl⟩ := Option.map_eq_some_iff.mp h
  exact ⟨rfl, assessments, hassess, rfl⟩

theorem selectRecords_ne_nil {intOfText : PyStr → Option Int} {files : FileModes}
    {faults : Nat → Option OSErrorKind} {run : StoredJournal} {entryIds : List PyStr}
    {plan : UndoPlanResult} (h : planRecords intOfText files faults run entryIds = some plan)
    (hreversible : plan.eligibility = .reversibleNow) :
    selectRecords run.records entryIds ≠ [] := by
  intro hnil
  obtain ⟨-, assessments, hassess, helig⟩ := of_planRecords h
  rw [hnil] at hassess
  cases hassess
  rw [hreversible] at helig
  simp [eligibility, recordBlockers] at helig

/-! ## Journals whose payloads have the fields of their entry -/

def storedField (key : PyStr) (value : Option PayloadValue) : List (PyStr × Option PayloadValue) :=
  match value with
  | none => []
  | some value => [(key, some value)]

def storedMode (mode : FileMode) : PayloadValue :=
  .int mode.toNat

/-- The entry with the payload that is written for it. -/
def RepairJournalEntry.stored (entry : RepairJournalEntry) : JournalRecord where
  entryId := entry.entryId
  status := entry.status
  originalPath := entry.originalPath
  undoType := entry.undoType
  undoPayload := storedField (py "path") (entry.undoPayload.path.map .text) ++
    storedField (py "old_mode") (entry.undoPayload.oldMode.map storedMode) ++
    storedField (py "new_mode") (entry.undoPayload.newMode.map storedMode)

theorem get_stored (entry : RepairJournalEntry) :
    entry.stored.get (py "path") = entry.undoPayload.path.map .text ∧
      entry.stored.get (py "old_mode") = entry.undoPayload.oldMode.map storedMode ∧
      entry.stored.get (py "new_mode") = entry.undoPayload.newMode.map storedMode := by
  unfold JournalRecord.get RepairJournalEntry.stored
  rcases entry.undoPayload with ⟨path, oldMode, newMode⟩
  cases path <;> cases oldMode <;> cases newMode <;> exact ⟨rfl, rfl, rfl⟩

theorem pathValue_stored (entry : RepairJournalEntry) :
    entry.stored.pathValue =
      (orElseText entry.undoPayload.path entry.originalPath).filter (!·.isEmpty) := by
  have horiginal : entry.stored.originalPath = entry.originalPath := rfl
  rw [JournalRecord.pathValue, (get_stored entry).1, horiginal]
  rcases entry.undoPayload.path with _ | _ | ⟨c, text⟩ <;> rfl

theorem assessRecord_stored (intOfText : PyStr → Option Int) (files : FileModes)
    (entry : RepairJournalEntry) :
    assessRecord intOfText files none entry.stored = some (assessEntry files entry) := by
  obtain ⟨-, hold, hnew⟩ := get_stored entry
  unfold assessRecord assessEntry
  rw [pathValue_stored, hold, hnew]
  rcases orElseText entry.undoPayload.path entry.originalPath with _ | _ | ⟨c, text⟩
  · rfl
  · rfl
  · cases entry.undoPayload.oldMode with
    | none => rfl
    | some oldMode =>
        cases entry.undoPayload.newMode with
        | none => rfl
        | some newMode =>
            have hpath : Option.filter (fun text : PyStr => !text.isEmpty) (some (c :: text)) =
                some (c :: text) := rfl
            simp only [hpath, Option.map_some, storedMode]
            cases files.statMode (.parse (c :: text)) with
            | none => rfl
            | some currentMode =>
                have hsame : (currentMode.toNat : Int) = newMode.toNat ↔ currentMode = newMode :=
                  Int.natCast_inj.trans BitVec.toNat_inj
                simp only [call, PayloadValue.toInt, Option.map_some, ne_eq, hsame]
                rfl

/-- A plan for such a journal is the plan of the typed model. -/
theorem planRecords_stored (intOfText : PyStr → Option Int) (files : FileModes) (run : StoredRun)
    (entryIds : List PyStr) :
    planRecords intOfText files (fun _ => none)
        ⟨run.repairRunId, run.status, run.journal.map (·.stored)⟩ entryIds =
      some (undoPlan files run entryIds) := by
  have hselect : selectRecords (run.journal.map (·.stored)) entryIds =
      (selectEntries run.journal entryIds).map (·.stored) := by
    unfold selectRecords selectEntries
    by_cases hempty : entryIds.isEmpty = true
    · rw [if_pos hempty, if_pos hempty, List.filter_map]
      rfl
    · rw [if_neg hempty, if_neg hempty, List.filter_map]
      rfl
  have hassess : ∀ entries : List RepairJournalEntry,
      assessRecords intOfText files (fun _ => none) (entries.map (·.stored)) =
        some (entries.map (assessEntry files)) := by
    intro entries
    unfold assessRecords
    induction entries with
    | nil => rfl
    | cons entry entries ih =>
        simp only [List.map_cons, List.mapIdx_cons, List.mapM_cons, assessRecord_stored, id,
          Option.bind_eq_bind, Option.bind_some] at ih ⊢
        rw [ih]
        rfl
  have hfailed : (run.journal.map (·.stored)).any (·.status = .failed) =
      run.journal.any (·.status = .failed) := by
    rw [List.any_map]
    rfl
  unfold planRecords undoPlan
  simp only [hselect, hassess, Option.map_some, recordBlockers, globalBlockers, hfailed,
    List.map_map]
  rfl

/-! ## Execution -/

/-- The undo returns, its run has a terminal status, and each selected entry has a result. -/
def Executes (selected : List JournalRecord) (result : Option UndoExecutionResult) : Prop :=
  ∃ executed status, result = some executed ∧ executed.status = some status ∧
    status.terminal = true ∧
    ∀ record ∈ selected, ∃ item ∈ executed.items, item.entryId = record.entryId

/-- What is executed for a plan: the entries of its ids. -/
def executedRecords (run : StoredJournal) (entryIds : List PyStr) : List JournalRecord :=
  selectRecords run.records ((selectRecords run.records entryIds).map (·.entryId))

theorem mem_executedRecords {run : StoredJournal} {entryIds : List PyStr}
    {record : JournalRecord} (h : record ∈ selectRecords run.records entryIds) :
    record ∈ executedRecords run entryIds := by
  have hmem : record ∈ run.records := by
    unfold selectRecords at h
    split at h <;> exact (List.mem_filter.mp h).1
  have hids : ((selectRecords run.records entryIds).map (·.entryId)).isEmpty = false :=
    List.isEmpty_eq_false_iff.mpr (List.ne_nil_of_mem (List.mem_map_of_mem h))
  rw [executedRecords, selectRecords, hids, if_neg Bool.false_ne_true]
  exact List.mem_filter.mpr ⟨hmem, List.contains_iff_mem.mpr (List.mem_map_of_mem h)⟩

/-- A token is valid for what it was created for until it expires. -/
theorem valid_createPlanToken_iff {digest : PyStr → PyStr} {tokenId : PyStr}
    {createdAt validatedAt : Int} {scope : JsonValue} {db file : PyStr} :
    (validatePlanToken digest validatedAt (createPlanToken tokenId createdAt scope db file) scope
      db file).valid = true ↔ validatedAt ≤ createdAt + planTokenTtl := by
  rw [valid_iff]
  constructor
  · intro h
    exact h.1 _ rfl
  · intro htime
    refine ⟨fun expires hexpires => ?_, rfl, rfl, rfl⟩
    cases hexpires
    exact htime

theorem terminal_finalStatus (items : List UndoExecutionItem) :
    (finalStatus items).terminal = true := by
  unfold finalStatus
  split
  · split <;> rfl
  · rfl

/-- A plan that is reversible now can be executed exactly when no call of the plan that is made
again raises, the token has not expired, and no exception leaves an entry. -/
theorem executes_iff (conditions : UndoConditions) (files : FileModes) (run : StoredJournal)
    (entryIds : List PyStr) (plan : UndoPlanResult)
    (hplan : planRecords conditions.intOfText files (fun _ => none) run entryIds = some plan)
    (hreversible : plan.eligibility = .reversibleNow) :
    Executes (selectRecords run.records entryIds) (executeJournal conditions files run entryIds) ↔
      (∀ index < (selectRecords run.records entryIds).length,
        conditions.planFaults index = none) ∧
      conditions.validatedAt ≤ conditions.createdAt + planTokenTtl ∧
      ∀ index record, (executedRecords run entryIds)[index]? = some record →
        ExecutionContained conditions.intOfText files
          (conditions.executionFaults index) record := by
  obtain ⟨hids, -⟩ := of_planRecords hplan
  constructor
  · rintro ⟨executed, status, hrun, hstatus, -, hitems⟩
    simp only [executeJournal, Option.bind_eq_bind, Option.bind_eq_some_iff] at hrun
    obtain ⟨again, hagain, hrest⟩ := hrun
    by_cases hblocked : again.eligibility ≠ .reversibleNow
    · rw [if_pos hblocked] at hrest
      cases hrest
      cases hstatus
    rw [if_neg hblocked] at hrest
    obtain ⟨hidsAgain, assessments, hassess, helig⟩ := of_planRecords hagain
    refine ⟨fun index hindex => ?_, ?_⟩
    · obtain ⟨assessment, hassessment, hrecord⟩ := exists_assessment hassess
        (List.getElem?_eq_getElem hindex)
      exact assessRecord_fault hrecord
        (eq_of_eligibility (helig.symm.trans (not_not.mp hblocked)) assessment hassessment)
    · split at hrest
      · rename_i hvalid
        refine ⟨valid_createPlanToken_iff.mp hvalid, ?_⟩
        rw [Option.bind_eq_some_iff] at hrest
        obtain ⟨⟨final, items⟩, hexecuted, -⟩ := hrest
        rw [hidsAgain] at hexecuted
        have hall := (executeRecords_iff _ _ 0 files _).mp
          ⟨final, items, hexecuted, ids_executeRecords hexecuted⟩
        simp only [Nat.zero_add] at hall
        exact hall
      · cases hrest
        obtain ⟨record, hrecord⟩ := List.exists_mem_of_ne_nil _
          (selectRecords_ne_nil hplan hreversible)
        obtain ⟨item, hitem, -⟩ := hitems record hrecord
        cases hitem
  · rintro ⟨hfaults, htime, hall⟩
    have hagain : planRecords conditions.intOfText files conditions.planFaults run entryIds =
        some plan := by
      rw [← hplan, planRecords, planRecords, assessRecords_congr hfaults]
    obtain ⟨final, items, hexecuted, hitemIds⟩ := (executeRecords_iff _ _ 0 files
      (executedRecords run entryIds)).mpr (by simpa only [Nat.zero_add] using hall)
    refine ⟨⟨final, .reversibleNow, some (finalStatus items), items⟩, finalStatus items, ?_, rfl,
      terminal_finalStatus items, ?_⟩
    · simp only [executeJournal, hagain, Option.bind_eq_bind, Option.bind_some, hreversible,
        ne_eq, not_true_eq_false, if_false, hids]
      rw [if_pos (valid_createPlanToken_iff.mpr htime),
        show selectRecords run.records ((selectRecords run.records entryIds).map (·.entryId)) =
          executedRecords run entryIds from rfl, hexecuted, Option.bind_some]
    · intro record hrecord
      have hmem : record.entryId ∈ items.map (·.entryId) := by
        rw [hitemIds]
        exact List.mem_map_of_mem (mem_executedRecords hrecord)
      exact List.mem_map.mp hmem

/-! ## A payload without its path -/

def onePhoto : FileModes where
  fileAt path := if path = .parse (py "/photos/a.jpg") then some 1 else none
  mode _ := 0o640

/-- The journal of a permission fix, with these further fields in the payload. -/
def fixedPhoto (fields : List (PyStr × Option PayloadValue)) : StoredJournal where
  repairRunId := py "r1"
  status := .completed
  records :=
    [{ entryId := py "e1"
       status := .applied
       originalPath := some (py "/photos/a.jpg")
       undoType := .restorePermissions
       undoPayload := fields ++
         [(py "old_mode", some (.int 0o600)), (py "new_mode", some (.int 0o640))] }]

def withPath : List (PyStr × Option PayloadValue) :=
  [(py "path", some (.text (py "/photos/a.jpg")))]

def calmConditions : UndoConditions where
  digest := id
  intOfText _ := none
  tokenId := py "t1"
  createdAt := 0
  validatedAt := 1
  fileFingerprint := []
  planFaults _ := none
  executionFaults _ := ⟨none, none, none⟩

def photoPlan (fields : List (PyStr × Option PayloadValue)) : Option UndoPlanResult :=
  planRecords calmConditions.intOfText onePhoto (fun _ => none) (fixedPhoto fields) []

theorem executes_fixedPhoto :
    Executes (selectRecords (fixedPhoto withPath).records [])
      (executeJournal calmConditions onePhoto (fixedPhoto withPath) []) := by
  have hplan : photoPlan withPath = some ((photoPlan withPath).get (by decide)) :=
    (Option.some_get _).symm
  refine (executes_iff calmConditions onePhoto (fixedPhoto withPath) [] _ hplan
    (by decide)).mpr ⟨fun _ _ => rfl, by decide, ?_⟩
  intro index record hrecord
  have hrecords : executedRecords (fixedPhoto withPath) [] = (fixedPhoto withPath).records := by
    decide
  rw [hrecords] at hrecord
  obtain rfl := List.mem_singleton.mp (List.mem_of_getElem? hrecord)
  exact ⟨_, _, _, rfl, rfl, rfl, nofun, fun _ _ => ⟨by decide, nofun, fun _ => nofun⟩⟩

/-- The plan takes the original path, and the execution finds no path. -/
theorem path_taken_from_entry_not_executed :
    ¬ ∀ (conditions : UndoConditions) (files : FileModes) (run : StoredJournal)
        (entryIds : List PyStr) (plan : UndoPlanResult),
      planRecords conditions.intOfText files (fun _ => none) run entryIds = some plan →
        plan.eligibility = .reversibleNow →
          Executes (selectRecords run.records entryIds)
            (executeJournal conditions files run entryIds) := by
  intro h
  have hplan : photoPlan [] = some ((photoPlan []).get (by decide)) := (Option.some_get _).symm
  obtain ⟨executed, -, hexecuted, -⟩ :=
    h calmConditions onePhoto (fixedPhoto []) [] _ hplan (by decide)
  have hraises : (executeJournal calmConditions onePhoto (fixedPhoto []) []).isSome = false := by
    decide
  rw [hexecuted] at hraises
  cases hraises

end ImmichDoctor.Repair
