import ImmichDoctor.Library.Pruning
import ImmichDoctor.Remote.SyncValidation
import ImmichDoctor.Remote.Proofs.DryRunAgreement
/-!
# A repair heals what the validation finds

The validation fails exactly where a dry run plans deletions, and after an apply to rows that
nothing references it reports what it reported before with each failed check passed. The deletes
of an apply prune the link table only, so no check but those of its rows can change.
-/

namespace ImmichDoctor.Remote

open ImmichDoctor.Library
open ImmichDoctor.Core
open ImmichDoctor.Db

/-! ## Validation and dry run -/

theorem findMissingForeignKeyRows_eq (mapping : ForeignKeyMapping) (db : Postgres) :
    findMissingForeignKeyRows defaultSampleLimit mapping db = (missing db mapping).length :=
  brokenReferenceCount_eq _

theorem status_missingRowsCheck (name messagePrefix targetLabel : PyStr)
    (resolution : MappingResolution) (db : Postgres) :
    (missingRowsCheck defaultSampleLimit name messagePrefix targetLabel resolution db).status =
        .fail ↔ ∃ mapping, resolution = .ok mapping ∧ missing db mapping ≠ [] := by
  cases resolution with
  | error issue =>
      refine iff_of_false (by simp [missingRowsCheck]) ?_
      rintro ⟨mapping, hok, -⟩
      cases hok
  | ok mapping =>
      rw [missingRowsCheck, orphanCheck, findMissingForeignKeyRows_eq]
      by_cases hzero : (missing db mapping).length = 0
      · rw [if_pos hzero]
        refine iff_of_false (by simp) ?_
        rintro ⟨other, hok, hmissing⟩
        cases hok
        exact hmissing (List.length_eq_zero_iff.mp hzero)
      · rw [if_neg hzero]
        exact iff_of_true rfl ⟨mapping, rfl, mt List.length_eq_zero_iff.mpr hzero⟩

theorem status_serverTableCheck (availableTables : List TableName) (tableName : PyStr) :
    (serverTableCheck availableTables tableName).status ≠ .fail := by
  unfold serverTableCheck
  split
  · simp
  · simp

theorem status_resolutionCheck (name targetLabel : PyStr) (resolution : MappingResolution) :
    (resolutionCheck name targetLabel resolution).status ≠ .fail := by
  unfold resolutionCheck
  cases resolution with
  | error issue => simp
  | ok mapping => simp

/-- Only the checks of the rows can fail. -/
theorem validate_fails_iff (access : Access) (db : Postgres) :
    (validate access db).overallStatus = .fail ↔
      ∃ mapping ∈ resolvedMappings (inspect access db), missing db mapping ≠ [] := by
  rw [ValidationReport.overallStatus_eq_fail]
  have hfails : (∃ check ∈ (validate access db).checks, check.status = .fail) ↔
      ∃ check ∈ serverConsistencyChecks defaultSampleLimit (inspect access db) db,
        check.status = .fail := by
    constructor
    · rintro ⟨check, hcheck, hfail⟩
      rcases List.mem_append.mp hcheck with hfirst | hconsistency
      · rcases List.mem_append.mp hfirst with hfirst | htable
        · rcases List.mem_pair.mp hfirst with rfl | rfl
          · cases hfail
          · cases hfail
        · obtain ⟨tableName, -, rfl⟩ := List.mem_map.mp htable
          exact absurd hfail (status_serverTableCheck _ _)
      · exact ⟨check, hconsistency, hfail⟩
    · rintro ⟨check, hcheck, hfail⟩
      exact ⟨check, List.mem_append_right _ hcheck, hfail⟩
  rw [hfails]
  generalize inspect access db = inspection
  unfold serverConsistencyChecks resolvedMappings
  cases inspection.albumAssetTable with
  | none => simp
  | some table =>
      simp only [List.mem_filterMap]
      constructor
      · rintro ⟨check, hcheck, hfail⟩
        simp only [List.mem_cons, List.not_mem_nil, or_false] at hcheck
        rcases hcheck with rfl | rfl | rfl | rfl | rfl
        · simp only at hfail
          split at hfail <;> cases hfail
        · exact absurd hfail (status_resolutionCheck _ _ _)
        · exact absurd hfail (status_resolutionCheck _ _ _)
        · obtain ⟨mapping, hok, hmissing⟩ := (status_missingRowsCheck _ _ _ _ _).mp hfail
          exact ⟨mapping, ⟨inspection.albumResolution, by simp, by rw [hok]⟩, hmissing⟩
        · obtain ⟨mapping, hok, hmissing⟩ := (status_missingRowsCheck _ _ _ _ _).mp hfail
          exact ⟨mapping, ⟨inspection.assetResolution, by simp, by rw [hok]⟩, hmissing⟩
      · rintro ⟨mapping, ⟨resolution, hresolution, hok⟩, hmissing⟩
        have hresolved : resolution = .ok mapping := by
          cases resolution with
          | error issue => cases hok
          | ok found =>
              cases hok
              rfl
        -- the checks of the rows are the last two of five
        rcases List.mem_pair.mp hresolution with rfl | rfl
        · exact ⟨_, List.mem_append_right [_, _, _, _] (List.mem_singleton_self _),
            (status_missingRowsCheck _ _ _ _ _).mpr ⟨mapping, hresolved, hmissing⟩⟩
        · exact ⟨_, List.mem_append_right [_, _, _] List.mem_cons_self,
            (status_missingRowsCheck _ _ _ _ _).mpr ⟨mapping, hresolved, hmissing⟩⟩

/-- The validation fails exactly where a dry run plans deletions. -/
theorem validate_fails_iff_planned (access : Access) (db : Postgres) :
    (validate access db).overallStatus = .fail ↔
      ∃ report, (run access false db).1 = some report ∧ 0 < totalRows report.plans := by
  obtain ⟨report, hreport, hrows⟩ := run_dryRun access db
  rw [validate_fails_iff, hreport]
  have hpositive : 0 < totalRows report.plans ↔
      ∃ mapping ∈ resolvedMappings (inspect access db), missing db mapping ≠ [] := by
    rw [hrows, Nat.pos_iff_ne_zero, Ne, List.sum_eq_zero_iff, not_forall]
    constructor
    · rintro ⟨count, hcount⟩
      rw [Classical.not_imp, List.mem_map] at hcount
      obtain ⟨⟨mapping, hmapping, rfl⟩, hne⟩ := hcount
      exact ⟨mapping, hmapping, fun hnil => hne (List.length_eq_zero_iff.mpr hnil)⟩
    · rintro ⟨mapping, hmapping, hmissing⟩
      refine ⟨(missing db mapping).length, fun hzero => hmissing ?_⟩
      exact List.length_eq_zero_iff.mp (hzero (List.mem_map_of_mem hmapping))
  rw [← hpositive]
  constructor
  · intro hplanned
    exact ⟨report, rfl, hplanned⟩
  · rintro ⟨other, hother, hplanned⟩
    cases hother
    exact hplanned

/-! ## What an apply removes -/

/-- Whether an entry lacks what a resolution, if it has a mapping, asks for. -/
def lacks (db : Postgres) (resolution : MappingResolution) (entry : Entry SqlValue) : Bool :=
  match resolution with
  | .error _ => false
  | .ok mapping => isMissing db mapping entry

/-- A database that has only lost links misses the same targets. -/
theorem isMissing_pruned {before after : Postgres} {gone : Entry SqlValue → Bool}
    (h : before.Pruned after gone) {mapping : ForeignKeyMapping}
    (htarget : ∀ entry, gone entry = true → entry.table ≠ mapping.targetTable) :
    isMissing after mapping = isMissing before mapping := by
  funext entry
  rw [isMissing, isMissing, refers, refers, h.select htarget]

theorem planForResolution_pruned (resolution paired : MappingResolution) (reason : PyStr)
    (db : Postgres) (hfree : ∀ mapping, resolution = .ok mapping →
      db.Unreferenced (missing db mapping)) :
    ∃ item after, planForResolution defaultSampleLimit resolution paired true reason db =
      (some item, after) ∧ db.Pruned after (lacks db resolution) := by
  cases resolution with
  | error issue => exact ⟨_, db, rfl, Database.Pruned.none db⟩
  | ok mapping =>
      obtain ⟨rows, after, hdelete, hpruned⟩ := Database.deleteWhere_pruned (hfree mapping rfl)
      have hstatement : deleteMissingForeignKeyRows defaultSampleLimit mapping db =
          some (brokenReferenceCount defaultSampleLimit rows, after) := by
        rw [deleteMissingForeignKeyRows, hdelete, Option.map_some]
      simp only [planForResolution, hstatement, Bool.not_true, Bool.false_eq_true, if_false]
      exact ⟨_, after, rfl, hpruned⟩

/-- An apply to rows that nothing references returns, and removes these rows. -/
theorem run_pruned {access : Access} {db : Postgres}
    (hfree : ∀ mapping ∈ resolvedMappings (inspect access db),
      db.Unreferenced (missing db mapping)) :
    (run access true db).1.isSome = true ∧ db.Pruned (run access true db).2 fun entry =>
      (resolvedMappings (inspect access db)).any fun mapping => isMissing db mapping entry := by
  have htables : ∀ a ∈ resolvedMappings (inspect access db), ∀ b ∈ resolvedMappings
      (inspect access db), a.targetTable ≠ b.sourceTable :=
    fun _ ha _ hb => (resolvedMappings_tables ha hb).2
  revert hfree htables
  unfold run
  generalize inspect access db = inspection
  obtain ⟨table, album, asset⟩ := inspection
  unfold buildPlans
  cases table with
  | none =>
      intro _ _
      exact ⟨rfl, Database.Pruned.none db⟩
  | some table =>
      have hmem : ∀ mapping, mapping ∈ resolvedMappings ⟨some table, album, asset⟩ ↔
          asset = .ok mapping ∨ album = .ok mapping := by
        intro mapping
        cases asset <;> cases album <;> simp [resolvedMappings, eq_comm]
      intro hfree htables
      obtain ⟨assetItem, middle, hasset, hfirst⟩ := planForResolution_pruned asset album
        (py "orphan album_asset rows with missing asset references") db fun mapping hok =>
          hfree mapping ((hmem mapping).mpr (.inl hok))
      have hsame : lacks middle album = lacks db album := by
        cases halbum : album with
        | error issue => rfl
        | ok mapping =>
            apply isMissing_pruned hfirst
            intro entry hlacks
            cases hassetOk : asset with
            | error issue =>
                rw [hassetOk] at hlacks
                cases hlacks
            | ok first =>
                rw [hassetOk, lacks, isMissing, Bool.and_eq_true, decide_eq_true_eq] at hlacks
                rw [hlacks.1]
                exact (htables mapping ((hmem mapping).mpr (.inr halbum)) first
                  ((hmem first).mpr (.inl hassetOk))).symm
      obtain ⟨albumItem, last, halbum, hsecond⟩ := planForResolution_pruned album asset
        (py "orphan album_asset rows with missing album references") middle
          fun mapping hok => by
            have hmissing : missing middle mapping ⊆ missing db mapping := by
              intro entry hentry
              rw [missing_eq_filter, List.mem_filter] at hentry ⊢
              refine ⟨hfirst.subset hentry.1, ?_⟩
              have hlacks := congrFun hsame entry
              rw [hok] at hlacks
              exact hlacks.symm.trans hentry.2
            exact (hfirst.unreferenced
              (hfree mapping ((hmem mapping).mpr (.inr hok)))).mono hmissing
      rw [hsame] at hsecond
      simp only [hasset, halbum]
      refine ⟨rfl, (hfirst.trans hsecond).congr ?_⟩
      intro entry _
      cases asset <;> cases album <;> simp [resolvedMappings, lacks]

/-! ## What is found afterwards -/

theorem inspect_pruned (access : Access) {before after : Postgres} {gone : Entry SqlValue → Bool}
    (h : before.Pruned after gone) : inspect access after = inspect access before ∧
      listTables access after = listTables access before ∧
        listForeignKeys after = listForeignKeys before := by
  have htables : listTables access after = listTables access before := by
    rw [listTables, listTables, h.tables]
  have hkeys : listForeignKeys after = listForeignKeys before := by
    funext table
    rw [listForeignKeys, listForeignKeys, h.foreignKeys]
  refine ⟨?_, htables, hkeys⟩
  rw [inspect, inspect, htables, hkeys]

/-- A check once what it has found is gone: it passes if it had failed, and is as it was if not. -/
def Healed (before after : CheckResult) : Prop :=
  if before.status = .fail then after.name = before.name ∧ after.status = .pass
  else after = before

theorem healed_self {check : CheckResult} (h : check.status ≠ .fail) : Healed check check := by
  rw [Healed, if_neg h]

theorem healed_missingRowsCheck (name messagePrefix targetLabel : PyStr)
    {resolution : MappingResolution} (before : Postgres) {after : Postgres}
    (hnone : ∀ mapping, resolution = .ok mapping → missing after mapping = []) :
    Healed (missingRowsCheck defaultSampleLimit name messagePrefix targetLabel resolution before)
      (missingRowsCheck defaultSampleLimit name messagePrefix targetLabel resolution after) := by
  cases resolution with
  | error issue => exact healed_self (by simp [missingRowsCheck])
  | ok mapping =>
      simp only [missingRowsCheck, orphanCheck, findMissingForeignKeyRows_eq, hnone mapping rfl,
        List.length_nil, if_true]
      split
      · exact healed_self (by simp)
      · rw [Healed, if_pos rfl]
        exact ⟨rfl, rfl⟩

/-- What an apply does to the database and to the validation of it. -/
structure Heals (access : Access) (db : Postgres) : Prop where
  returns : (run access true db).1.isSome = true
  removes : (run access true db).2.entries = db.entries.filter fun entry =>
    !(resolvedMappings (inspect access db)).any fun mapping => isMissing db mapping entry
  /-- Every check that has failed passes, and every other one is as it was. -/
  validates : List.Forall₂ Healed (validate access db).checks
    (validate access (run access true db).2).checks
  settles : ∃ report, (run access false (run access true db).2).1 = some report ∧
    totalRows report.plans = 0

section

variable {access : Access} {db after : Postgres}

/-- No mapping misses anything once all that is missing is gone. -/
theorem missing_pruned (hpruned : db.Pruned after fun entry =>
      (resolvedMappings (inspect access db)).any fun mapping => isMissing db mapping entry)
    {mapping : ForeignKeyMapping} (hmapping : mapping ∈ resolvedMappings (inspect access db)) :
    missing after mapping = [] := by
  have hsame : isMissing after mapping = isMissing db mapping := by
    apply isMissing_pruned hpruned
    intro entry hgone
    obtain ⟨other, hother, hmissing⟩ := List.any_eq_true.mp hgone
    rw [isMissing, Bool.and_eq_true, decide_eq_true_eq] at hmissing
    rw [hmissing.1]
    exact (resolvedMappings_tables hmapping hother).2.symm
  rw [missing_eq_filter, hsame, hpruned.entries, List.filter_filter, List.filter_eq_nil_iff]
  intro entry _ hboth
  obtain ⟨hmissing, hkept⟩ := Bool.and_eq_true_iff.mp hboth
  have hany : ((resolvedMappings (inspect access db)).any fun mapping =>
      isMissing db mapping entry) = true := List.any_eq_true.mpr ⟨mapping, hmapping, hmissing⟩
  rw [hany] at hkept
  cases hkept

/-- The checks of the server, once nothing is missing any more. -/
theorem healed_serverConsistencyChecks {inspection : RemoteSyncInspection}
    (hkeys : listForeignKeys after = listForeignKeys db)
    (hnone : ∀ mapping ∈ resolvedMappings inspection, missing after mapping = []) :
    List.Forall₂ Healed (serverConsistencyChecks defaultSampleLimit inspection db)
      (serverConsistencyChecks defaultSampleLimit inspection after) := by
  unfold serverConsistencyChecks
  cases htable : inspection.albumAssetTable with
  | none => exact .cons (healed_self (by simp)) .nil
  | some table =>
      have hresolved : ∀ resolution ∈ [inspection.assetResolution, inspection.albumResolution],
          ∀ mapping, resolution = .ok mapping → missing after mapping = [] := by
        intro resolution hresolution mapping hok
        apply hnone
        rw [resolvedMappings, htable]
        exact List.mem_filterMap.mpr ⟨resolution, hresolution, by rw [hok]⟩
      rw [hkeys]
      refine .cons (healed_self ?_) (.cons (healed_self (status_resolutionCheck _ _ _))
        (.cons (healed_self (status_resolutionCheck _ _ _))
          (.cons (healed_missingRowsCheck _ _ _ _ (hresolved inspection.albumResolution (by simp)))
            (.cons (healed_missingRowsCheck _ _ _ _
              (hresolved inspection.assetResolution (by simp))) .nil))))
      simp only
      split
      · simp
      · simp

end

/-- The validation fails exactly where a dry run plans deletions, and an apply to rows that
nothing references heals it. -/
theorem repair_heals_validation (access : Access) (db : Postgres) :
    ((validate access db).overallStatus = .fail ↔
        ∃ report, (run access false db).1 = some report ∧ 0 < totalRows report.plans) ∧
      ((∀ mapping ∈ resolvedMappings (inspect access db), db.Unreferenced (missing db mapping)) →
        Heals access db) := by
  refine ⟨validate_fails_iff_planned access db, fun hfree => ?_⟩
  obtain ⟨hreturns, hpruned⟩ := run_pruned hfree
  have hnone : ∀ mapping ∈ resolvedMappings (inspect access db),
      missing (run access true db).2 mapping = [] := fun _ => missing_pruned hpruned
  obtain ⟨hinspect, htables, hkeys⟩ := inspect_pruned access hpruned
  refine ⟨hreturns, hpruned.entries, ?_, ?_⟩
  · rw [validate, validate, hinspect, htables]
    refine List.rel_append (List.forall₂_same.mpr fun check hcheck => healed_self ?_)
      (healed_serverConsistencyChecks hkeys hnone)
    rcases List.mem_append.mp hcheck with hfirst | htable
    · rcases List.mem_pair.mp hfirst with rfl | rfl
      · exact fun hfail => by cases hfail
      · exact fun hfail => by cases hfail
    · obtain ⟨tableName, -, rfl⟩ := List.mem_map.mp htable
      exact status_serverTableCheck _ _
  · obtain ⟨report, hreport, hrows⟩ := run_dryRun access (run access true db).2
    refine ⟨report, by rw [hreport], ?_⟩
    rw [hrows, hinspect, List.sum_eq_zero_iff]
    intro count hcount
    obtain ⟨mapping, hmapping, rfl⟩ := List.mem_map.mp hcount
    rw [hnone mapping hmapping, List.length_nil]

/-- The link whose album and asset are both gone fails the validation, and goes once. -/
theorem repair_heals_validation_strayLink :
    (validate fullAccess strayLink).overallStatus = .fail ∧ Heals fullAccess strayLink := by
  have hplanned : ∃ report, (run fullAccess false strayLink).1 = some report ∧
      0 < totalRows report.plans := by
    have hrows : ((run fullAccess false strayLink).1.map fun report =>
        totalRows report.plans) = some 2 := by
      decide +kernel
    obtain ⟨report, hreport, htotal⟩ := Option.map_eq_some_iff.mp hrows
    exact ⟨report, hreport, by omega⟩
  obtain ⟨hfails, hheals⟩ := repair_heals_validation fullAccess strayLink
  refine ⟨hfails.mpr hplanned, hheals ?_⟩
  unfold Database.Unreferenced
  decide +kernel

end ImmichDoctor.Remote
