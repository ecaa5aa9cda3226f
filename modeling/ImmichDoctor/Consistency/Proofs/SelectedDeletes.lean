import ImmichDoctor.Library.OptionLists
import ImmichDoctor.Consistency.RepairService
/-!
# A repair deletes what it selected

Each statement of a repair finds the database as other writers have left it and removes the
links with the key of its finding that still lack their target, as long as the key has no
null and nothing references these links.
-/

namespace ImmichDoctor.Consistency

open ImmichDoctor.Library
open ImmichDoctor.Db

/-! ## One statement -/

/-- Whether the entry is a link with the key of the finding that lacks the target the finding
lacks. -/
def targeted (column : PyStr) (finding : ConsistencyFinding) (db : Postgres)
    (entry : Entry SqlValue) : Bool :=
  decide (entry.table = albumAssetTable) &&
    ((entry.row.value (py "albumId")).map SqlValue.str ==
        (finding.sampleMetadata.value (py "albumId")).map SqlValue.str &&
      (entry.row.value column).map SqlValue.str ==
        (finding.sampleMetadata.value (py "assetId")).map SqlValue.str &&
      lacksTarget db (missingTargetTable finding.category)
        (entry.row.value (targetColumn (missingTargetTable finding.category) column)))

/-- The statement removes the targeted entries, and leaves all others as they are. -/
def Exact (column : PyStr) (step : DeleteStep) : Prop :=
  ∃ after, step.after = some after ∧
    after.entries = step.before.entries.filter fun entry =>
      !targeted column step.finding step.before entry

/-- The key of the finding has no null, and no other row references a targeted one. -/
structure Quiet (noneIsText : Bool) (column : PyStr) (step : DeleteStep) : Prop where
  named : ∀ field ∈ [py "albumId", py "assetId"],
    ∃ value, step.finding.sampleMetadata.value field = some value ∧
      (value.str = py "None" → noneIsText = true)
  detached : step.before.Detached
    (step.before.entries.filter (targeted column step.finding step.before))

/-- The finding is one of an orphaned link, and has the column of the schema. -/
structure OrphanKey (column : PyStr) (finding : ConsistencyFinding) : Prop where
  safe : finding.category.repairMode = .safeDelete
  albumId : finding.keyFields.lookup (py "albumId") =
    some (loadedStr (finding.sampleMetadata.value (py "albumId")))
  assetId : finding.keyFields.lookup (py "assetId") =
    some (loadedStr (finding.sampleMetadata.value (py "assetId")))
  column : finding.sampleMetadata.value (py "assetReferenceColumn") = some (.text column)

theorem orphanKey_orphanFinding {category : ConsistencyCategory} (label column : PyStr)
    (found : (Option SqlValue × Option SqlValue) × Nat)
    (hsafe : category.repairMode = .safeDelete) :
    OrphanKey column (orphanFinding category label column found) where
  safe := hsafe
  albumId := rfl
  assetId := rfl
  column := rfl

theorem columnIs_eq (column : PyStr) (value : SqlValue) (row : Row SqlValue) :
    columnIs column value.str row = ((row.value column).map SqlValue.str == some value.str) := by
  unfold columnIs
  cases row.value column with
  | none => rfl
  | some found =>
      show decide (found.str = value.str) = _
      rw [Option.map_some, Bool.eq_iff_iff, decide_eq_true_iff, beq_iff_eq, Option.some.injEq]

theorem deleteFinding_of_quiet {noneIsText : Bool} {column : PyStr} {step : DeleteStep}
    (hkey : OrphanKey column step.finding) (hquiet : Quiet noneIsText column step) :
    ∃ count after, deleteFinding noneIsText (some column) step.finding step.before =
        some (count, after) ∧
      after.entries = step.before.entries.filter fun entry =>
        !targeted column step.finding step.before entry := by
  obtain ⟨album, halbum, halbumText⟩ := hquiet.named _ List.mem_cons_self
  obtain ⟨asset, hasset, hassetText⟩ :=
    hquiet.named _ (List.mem_cons_of_mem _ (List.mem_singleton_self _))
  let selects : Row SqlValue → Bool := fun row =>
    columnIs (py "albumId") album.str row && columnIs column asset.str row &&
      lacksTarget step.before (missingTargetTable step.finding.category)
        (row.value (targetColumn (missingTargetTable step.finding.category) column))
  have hselect : step.before.entries.filter (targeted column step.finding step.before) =
      step.before.select albumAssetTable selects := by
    apply List.filter_congr
    intro entry _
    show targeted column step.finding step.before entry = (_ && (columnIs _ _ _ &&
      columnIs _ _ _ && _))
    rw [targeted, halbum, hasset, columnIs_eq, columnIs_eq]
    rfl
  have hdetached := hquiet.detached
  rw [hselect] at hdetached
  have htext : (!noneIsText && (decide (album.str = py "None") ||
      decide (asset.str = py "None"))) = false := by
    by_cases htext : noneIsText = true
    · rw [htext]
      rfl
    · rw [decide_eq_false (mt halbumText htext), decide_eq_false (mt hassetText htext)]
      exact Bool.and_false _
  have hrun : deleteFinding noneIsText (some column) step.finding step.before =
      (step.before.deleteWhere albumAssetTable selects).map fun deleted =>
        (deleted.1.length, deleted.2) := by
    simp only [deleteFinding, hkey.albumId, hkey.assetId, halbum, hasset, loadedStr,
      Option.bind_eq_bind, Option.bind_some, deleteAlbumAssetRowsByKeys, htext,
      Bool.false_eq_true, if_false]
    rfl
  rw [Database.deleteWhere_of_detached hdetached, Option.map_some] at hrun
  refine ⟨_, _, hrun, ?_⟩
  rw [Database.entries_without_of_detached hdetached, ← hselect]
  apply List.filter_congr
  intro entry hentry
  cases htarget : targeted column step.finding step.before entry with
  | true => exact decide_eq_false (not_not_intro (List.mem_filter.mpr ⟨hentry, htarget⟩))
  | false =>
      refine decide_eq_true fun hmem => Bool.false_ne_true ?_
      exact htarget.symm.trans (List.mem_filter.mp hmem).2

/-! ## A run of statements -/

/-- Each statement finds what the other writers make of the database the one before it has
left, and the last database is what the last statement leaves. -/
def Chained (others : Nat → Postgres → Postgres) :
    Nat → Postgres → List DeleteStep → Postgres → Prop
  | _, db, [], final => final = db
  | index, db, step :: steps, final =>
      step.before = others index db ∧
        ∃ after, step.after = some after ∧ Chained others (index + 1) after steps final

theorem chained_append {others : Nat → Postgres → Postgres} {index : Nat}
    {db middle final : Postgres} {steps more : List DeleteStep}
    (h : Chained others index db steps middle)
    (hmore : Chained others (index + steps.length) middle more final) :
    Chained others index db (steps ++ more) final := by
  induction steps generalizing index db with
  | nil =>
      cases h
      exact hmore
  | cons step steps ih =>
      obtain ⟨hbefore, after, hafter, hchained⟩ := h
      refine ⟨hbefore, after, hafter, ih hchained ?_⟩
      rw [List.length_cons] at hmore
      rwa [show index + 1 + steps.length = index + (steps.length + 1) by omega]

/-- From one point of a run to another there is an exact statement for each of the findings. -/
def Adds (others : Nat → Postgres → Postgres) (column : PyStr)
    (progress next : RepairProgress) (findings : List ConsistencyFinding) : Prop :=
  ∃ added, next.steps = progress.steps ++ added ∧ added.map (·.finding) = findings ∧
    (∀ step ∈ added, Exact column step) ∧
    Chained others progress.steps.length progress.database added next.database

theorem adds_nil (others : Nat → Postgres → Postgres) (column : PyStr)
    (progress : RepairProgress) : Adds others column progress progress [] :=
  ⟨[], (List.append_nil _).symm, rfl, List.forall_mem_nil _, rfl⟩

theorem Adds.append {others : Nat → Postgres → Postgres} {column : PyStr}
    {progress next last : RepairProgress} {findings more : List ConsistencyFinding}
    (h : Adds others column progress next findings) (hmore : Adds others column next last more) :
    Adds others column progress last (findings ++ more) := by
  obtain ⟨added, hsteps, hfindings, hexact, hchained⟩ := h
  obtain ⟨addedMore, hstepsMore, hfindingsMore, hexactMore, hchainedMore⟩ := hmore
  refine ⟨added ++ addedMore, ?_, ?_, ?_, ?_⟩
  · rw [hstepsMore, hsteps, List.append_assoc]
  · rw [List.map_append, hfindings, hfindingsMore]
  · intro step hstep
    exact (List.mem_append.mp hstep).elim (hexact step) (hexactMore step)
  · rw [hsteps, List.length_append] at hchainedMore
    exact chained_append hchained hchainedMore

section

variable (noneIsText : Bool) (others : Nat → Postgres → Postgres) {column : PyStr}

theorem deleteFindings_shortened (column : Option PyStr) (findings : List ConsistencyFinding)
    (progress : RepairProgress) :
    progress.steps <+: (deleteFindings noneIsText others column findings progress).2.steps := by
  induction findings generalizing progress with
  | nil => exact List.prefix_refl _
  | cons finding findings ih =>
      rw [deleteFindings]
      cases deleteFinding noneIsText column finding
          (others progress.steps.length progress.database) with
      | none => exact List.prefix_append _ _
      | some deleted =>
          obtain ⟨count, after⟩ := deleted
          exact (List.prefix_append _ _).trans (ih ⟨_, after⟩)

/-- A quiet run over the findings of a category is exact. -/
theorem deleteFindings_of_quiet (findings : List ConsistencyFinding) (progress : RepairProgress)
    (hkeys : ∀ finding ∈ findings, OrphanKey column finding)
    (hquiet : ∀ step ∈ (deleteFindings noneIsText others (some column) findings progress).2.steps,
      Quiet noneIsText column step) :
    (deleteFindings noneIsText others (some column) findings progress).1.isSome = true ∧
      Adds others column progress
        (deleteFindings noneIsText others (some column) findings progress).2 findings := by
  induction findings generalizing progress with
  | nil => exact ⟨rfl, adds_nil others column progress⟩
  | cons finding findings ih =>
      obtain ⟨hkey, hrest⟩ := List.forall_mem_cons.mp hkeys
      rw [deleteFindings] at hquiet ⊢
      cases hdelete : deleteFinding noneIsText (some column) finding
          (others progress.steps.length progress.database) with
      | none =>
          rw [hdelete] at hquiet
          have hlast := hquiet ⟨finding, others progress.steps.length progress.database, none⟩
            (List.mem_append_right _ (List.mem_singleton_self _))
          obtain ⟨count, after, hsome, -⟩ := deleteFinding_of_quiet hkey hlast
          rw [hdelete] at hsome
          cases hsome
      | some deleted =>
          obtain ⟨count, after⟩ := deleted
          rw [hdelete] at hquiet
          simp only at hquiet ⊢
          have hstep := hquiet
            ⟨finding, others progress.steps.length progress.database, some after⟩
            ((deleteFindings_shortened _ _ _ _ _).subset
              (List.mem_append_right _ (List.mem_singleton_self _)))
          obtain ⟨count', after', hsome, hentries⟩ := deleteFinding_of_quiet hkey hstep
          rw [hdelete] at hsome
          cases hsome
          obtain ⟨hreturned, hadds⟩ := ih _ hrest hquiet
          refine ⟨?_, ?_⟩
          · rw [Option.isSome_map]
            exact hreturned
          · have hone : Adds others column progress
                ⟨progress.steps ++ [⟨finding, others progress.steps.length progress.database,
                  some after⟩], after⟩ [finding] := by
              refine ⟨_, rfl, rfl, ?_, rfl, after, rfl, rfl⟩
              intro step hmem
              cases List.mem_singleton.mp hmem
              exact ⟨after, rfl, hentries⟩
            exact hone.append hadds

/-! ## The categories of a selection -/

/-- The findings a category's statements are for. -/
def statementsOf (apply : Bool) (group : ConsistencyCategory × List ConsistencyFinding) :
    List ConsistencyFinding :=
  match group.1.repairMode, apply with
  | .safeDelete, true => group.2
  | _, _ => []

/-- The findings of a group are of its category, and those that are safe to delete have the
column of the schema. -/
structure WellGrouped (column : PyStr) (group : ConsistencyCategory × List ConsistencyFinding) :
    Prop where
  nonempty : group.2 ≠ []
  category : ∀ finding ∈ group.2, finding.category = group.1
  keys : group.1.repairMode = .safeDelete → ∀ finding ∈ group.2, OrphanKey column finding

theorem assetReferenceColumn_eq {findings : List ConsistencyFinding} (hcolumn : column ≠ [])
    (hne : findings ≠ []) (hkeys : ∀ finding ∈ findings, OrphanKey column finding) :
    assetReferenceColumn findings = some column := by
  cases findings with
  | nil => exact absurd rfl hne
  | cons finding findings =>
      have hempty : column.isEmpty = false := by
        cases column with
        | nil => exact absurd rfl hcolumn
        | cons c column => rfl
      rw [assetReferenceColumn, List.findSome?_cons,
        (hkeys finding List.mem_cons_self).column]
      simp only [Option.bind_some, SqlValue.str, hempty, Bool.false_eq_true, if_false]

theorem categoryAction_shortened (apply : Bool) (category : ConsistencyCategory)
    (findings : List ConsistencyFinding) (progress : RepairProgress) :
    progress.steps <+:
      (categoryAction noneIsText others apply category findings progress).2.steps := by
  unfold categoryAction
  cases category.repairMode with
  | inspectOnly => exact List.prefix_refl _
  | safeDelete =>
      cases apply with
      | false => exact List.prefix_refl _
      | true => exact deleteFindings_shortened _ _ _ _ _

theorem categoryAction_of_quiet (apply : Bool)
    (group : ConsistencyCategory × List ConsistencyFinding) (progress : RepairProgress)
    (hcolumn : column ≠ []) (hgroup : WellGrouped column group)
    (hquiet : ∀ step ∈
      (categoryAction noneIsText others apply group.1 group.2 progress).2.steps,
      Quiet noneIsText column step) :
    (categoryAction noneIsText others apply group.1 group.2 progress).1.isSome = true ∧
      Adds others column progress
        (categoryAction noneIsText others apply group.1 group.2 progress).2
        (statementsOf apply group) := by
  unfold categoryAction statementsOf at *
  cases hmode : group.1.repairMode with
  | inspectOnly => exact ⟨rfl, adds_nil others column progress⟩
  | safeDelete =>
      cases apply with
      | false => exact ⟨rfl, adds_nil others column progress⟩
      | true =>
          have hkeys := hgroup.keys hmode
          simp only [hmode, assetReferenceColumn_eq hcolumn hgroup.nonempty hkeys] at hquiet ⊢
          obtain ⟨hreturned, hadds⟩ := deleteFindings_of_quiet _ _ group.2 progress hkeys hquiet
          exact ⟨by rw [Option.isSome_map]; exact hreturned, hadds⟩

theorem categoryActions_shortened (apply : Bool)
    (groups : List (ConsistencyCategory × List ConsistencyFinding)) (progress : RepairProgress) :
    progress.steps <+: (categoryActions noneIsText others apply groups progress).2.steps := by
  induction groups generalizing progress with
  | nil => exact List.prefix_refl _
  | cons group groups ih =>
      have hfirst := categoryAction_shortened noneIsText others apply group.1 group.2 progress
      unfold categoryActions
      rcases hresult : categoryAction noneIsText others apply group.1 group.2 progress with
        ⟨action, next⟩
      rw [hresult] at hfirst
      simp only
      cases action with
      | none => exact hfirst
      | some action => exact hfirst.trans (ih next)

/-- A quiet run over the categories is exact. -/
theorem categoryActions_of_quiet (apply : Bool)
    (groups : List (ConsistencyCategory × List ConsistencyFinding)) (progress : RepairProgress)
    (hcolumn : column ≠ []) (hgroups : ∀ group ∈ groups, WellGrouped column group)
    (hquiet : ∀ step ∈ (categoryActions noneIsText others apply groups progress).2.steps,
      Quiet noneIsText column step) :
    Adds others column progress (categoryActions noneIsText others apply groups progress).2
      (groups.flatMap (statementsOf apply)) := by
  induction groups generalizing progress with
  | nil => exact adds_nil others column progress
  | cons group groups ih =>
      obtain ⟨hgroup, hrest⟩ := List.forall_mem_cons.mp hgroups
      have hone := categoryAction_of_quiet noneIsText others apply group progress hcolumn hgroup
      rw [List.flatMap_cons]
      unfold categoryActions at hquiet ⊢
      rcases hresult : categoryAction noneIsText others apply group.1 group.2 progress with
        ⟨action, next⟩
      simp only [hresult] at hone hquiet ⊢
      cases action with
      | none => exact absurd (hone hquiet).1 Bool.false_ne_true
      | some action =>
          have hshort := categoryActions_shortened noneIsText others apply groups next
          obtain ⟨-, hadds⟩ := hone fun step hstep => hquiet step (hshort.subset hstep)
          exact hadds.append (ih next hrest hquiet)

end

/-! ## Findings -/

theorem mem_groupedFindings {findings : List ConsistencyFinding}
    {group : ConsistencyCategory × List ConsistencyFinding}
    (h : group ∈ groupedFindings findings) :
    group.2 = findings.filter (·.category = group.1) ∧
      ∃ finding ∈ findings, finding.category = group.1 := by
  obtain ⟨category, hcategory, rfl⟩ := List.mem_map.mp h
  exact ⟨rfl, List.mem_map.mp (List.mem_eraseDups.mp hcategory)⟩

/-- The statements for the groups are for the findings that are safe to delete. -/
theorem mem_statements_iff {apply : Bool} {findings : List ConsistencyFinding}
    {finding : ConsistencyFinding} :
    finding ∈ (groupedFindings findings).flatMap (statementsOf apply) ↔
      apply = true ∧ finding ∈ findings ∧ finding.category.repairMode = .safeDelete := by
  rw [List.mem_flatMap]
  constructor
  · rintro ⟨group, hgroup, hmem⟩
    obtain ⟨hfindings, -⟩ := mem_groupedFindings hgroup
    unfold statementsOf at hmem
    split at hmem
    · rename_i hsafe
      rw [hfindings, List.mem_filter, decide_eq_true_iff] at hmem
      exact ⟨rfl, hmem.1, hmem.2 ▸ hsafe⟩
    · cases hmem
  · rintro ⟨rfl, hfinding, hsafe⟩
    refine ⟨(finding.category, findings.filter (·.category = finding.category)), ?_, ?_⟩
    · exact List.mem_map.mpr ⟨finding.category,
        List.mem_eraseDups.mpr (List.mem_map_of_mem hfinding), rfl⟩
    · simp only [statementsOf, hsafe]
      exact List.mem_filter.mpr ⟨hfinding, decide_eq_true rfl⟩

theorem category_of_mem_assetFiles {pathExists : PyStr → Option Bool} {db : Postgres}
    {category : ConsistencyCategory} {fileType : PyStr} {findings : List ConsistencyFinding}
    (h : collectAssetFilePathFindings pathExists db category fileType = some findings)
    {finding : ConsistencyFinding} (hfinding : finding ∈ findings) :
    finding.category = category := by
  simp only [collectAssetFilePathFindings, Option.bind_eq_bind, Option.bind_eq_some_iff] at h
  obtain ⟨rows, -, found, hfound, hfindings⟩ := h
  cases hfindings
  obtain ⟨row, -, hrow⟩ := exists_of_mem_mapM hfound (List.reduceOption_mem_iff.mp hfinding)
  obtain ⟨present, -, hpresent⟩ := Option.map_eq_some_iff.mp hrow
  cases present with
  | true => cases hpresent
  | false =>
      cases hpresent
      rfl

/-- A finding of the grouped keys is one of theirs. -/
theorem exists_of_mem_orphans {found : Option (List ((Option SqlValue × Option SqlValue) × Nat))}
    {category : ConsistencyCategory} {label column : PyStr} {findings : List ConsistencyFinding}
    (h : found.map (List.map (orphanFinding category label column)) = some findings)
    {finding : ConsistencyFinding} (hfinding : finding ∈ findings) :
    ∃ key, orphanFinding category label column key = finding := by
  obtain ⟨keys, -, rfl⟩ := Option.map_eq_some_iff.mp h
  obtain ⟨key, -, hkey⟩ := List.mem_map.mp hfinding
  exact ⟨key, hkey⟩

theorem collected_keys {access : Access} {pathExists : PyStr → Option Bool}
    {views : CollectorViews} {collected : CollectedConsistencyState} {column : PyStr}
    (h : collect access pathExists views = some collected)
    (hcolumn : assetReferenceColumnOf access views.schema = some column) :
    ∀ finding ∈ collected.findings, finding.category.repairMode = .safeDelete →
      OrphanKey column finding := by
  intro finding hfinding hsafe
  simp only [collect, hcolumn] at h
  split at h
  · cases h
    cases hfinding
  · simp only [Option.bind_eq_bind, Option.bind_eq_some_iff] at h
    obtain ⟨missingAssets, hassets, missingAlbums, halbums, previews, hpreviews, thumbnails,
      hthumbnails, hcollected⟩ := h
    cases hcollected
    rcases List.mem_append.mp hfinding with hfinding | hthumbnail
    · rcases List.mem_append.mp hfinding with hfinding | hpreview
      · rcases List.mem_append.mp hfinding with hasset | halbum
        · obtain ⟨key, rfl⟩ := exists_of_mem_orphans hassets hasset
          exact orphanKey_orphanFinding _ _ _ rfl
        · obtain ⟨key, rfl⟩ := exists_of_mem_orphans halbums halbum
          exact orphanKey_orphanFinding _ _ _ rfl
      · rw [category_of_mem_assetFiles hpreviews hpreview] at hsafe
        cases hsafe
    · rw [category_of_mem_assetFiles hthumbnails hthumbnail] at hsafe
      cases hsafe

/-! ## Repair -/

/-- What a repair does: a statement for each selected finding that is safe to delete, none
when it is a dry run, and each statement exact. -/
structure DeletesSelected (environment : RepairEnvironment) (request : RepairRequest) : Prop where
  statements : ∀ finding,
    finding ∈ (repair environment request).2.steps.map (·.finding) ↔
      request.apply = true ∧ finding ∈ selectedOf environment request ∧
        finding.category.repairMode = .safeDelete
  exact : ∀ column, assetReferenceColumnOf environment.access environment.views.schema =
      some column → ∀ step ∈ (repair environment request).2.steps, Exact column step
  chained : Chained environment.others 0 environment.database
    (repair environment request).2.steps (repair environment request).2.database

/-- A repair without a statement. -/
theorem deletesSelected_of_steps_nil {environment : RepairEnvironment} {request : RepairRequest}
    (h : (repair environment request).2 = ⟨[], environment.database⟩)
    (hselected : selectedOf environment request = []) : DeletesSelected environment request where
  statements := by
    intro finding
    rw [h, hselected]
    exact iff_of_false List.not_mem_nil fun hmem => List.not_mem_nil hmem.2.1
  exact := by
    intro column _ step hstep
    rw [h] at hstep
    cases hstep
  chained := by
    rw [h]
    exact rfl

/-- A schema that is not supported has no findings. -/
theorem findings_of_unsupported {access : Access} {pathExists : PyStr → Option Bool}
    {views : CollectorViews} {collected : CollectedConsistencyState}
    (h : collect access pathExists views = some collected)
    (hunsupported : collected.profileSupported = false) : collected.findings = [] := by
  unfold collect at h
  split at h
  · cases h
    rfl
  · split at h
    · cases h
      rfl
    · simp only [Option.bind_eq_bind, Option.bind_eq_some_iff] at h
      obtain ⟨missingAssets, -, missingAlbums, -, previews, -, thumbnails, -, hcollected⟩ := h
      cases hcollected
      cases hunsupported

theorem assetReferenceColumnOf_ne_nil {access : Access} {db : Postgres} {column : PyStr}
    (h : assetReferenceColumnOf access db = some column) : column ≠ [] := by
  have hpick : ∀ columns : List PyStr,
      (if py "assetId" ∈ columns ∧ py "assetsId" ∉ columns then some (py "assetId")
        else if py "assetsId" ∈ columns ∧ py "assetId" ∉ columns then some (py "assetsId")
        else none) = some column → column ≠ [] := by
    intro columns hcolumns
    split_ifs at hcolumns <;> cases hcolumns <;> decide
  exact hpick _ h

theorem supported_column {access : Access} {pathExists : PyStr → Option Bool}
    {views : CollectorViews} {collected : CollectedConsistencyState}
    (h : collect access pathExists views = some collected)
    (hsupported : collected.profileSupported = true) :
    ∃ column, assetReferenceColumnOf access views.schema = some column := by
  unfold collect at h
  split at h
  · cases h
    cases hsupported
  · rename_i column hcolumn
    exact ⟨column, hcolumn⟩

theorem mem_selectFindings {findings : List ConsistencyFinding} {categories ids : List PyStr}
    {finding : ConsistencyFinding} (h : finding ∈ selectFindings findings categories ids) :
    finding ∈ findings := by
  unfold selectFindings at h
  split at h
  · cases h
  · exact List.mem_of_mem_filter h

/-- In every run of a repair whose statements all have a key without nulls and select links
nothing references, the repair deletes what it selected. -/
theorem deletesSelected_of_quiet (environment : RepairEnvironment) (request : RepairRequest)
    (hquiet : ∀ column, assetReferenceColumnOf environment.access environment.views.schema =
      some column → ∀ step ∈ (repair environment request).2.steps,
        Quiet environment.noneIsText column step) : DeletesSelected environment request := by
  cases hcollect : collect environment.access environment.pathExists environment.views with
  | none =>
      apply deletesSelected_of_steps_nil
      · simp only [repair, hcollect]
      · simp only [selectedOf, hcollect]
  | some collected =>
      have hselected : selectedOf environment request = selectFindings collected.findings
          (resolveSelectedCategories request.categories request.allSafe) request.findingIds := by
        simp only [selectedOf, hcollect]
      by_cases hsupported : collected.profileSupported = true
      · by_cases hnone : selectedOf environment request = []
        · apply deletesSelected_of_steps_nil _ hnone
          simp only [repair, hcollect, buildActions, ← hselected, hnone, hsupported]
          split
          · rfl
          · split
            · rfl
            · rfl
        · obtain ⟨column, hcolumn⟩ := supported_column hcollect hsupported
          have hrepair : repair environment request = categoryActions environment.noneIsText
              environment.others request.apply (groupedFindings (selectedOf environment request))
              ⟨[], environment.database⟩ := by
            have hselectors : ((resolveSelectedCategories request.categories
                request.allSafe).isEmpty && request.findingIds.isEmpty) = false := by
              by_contra hempty
              rw [Bool.not_eq_false] at hempty
              rw [hselected, selectFindings, if_pos hempty] at hnone
              exact hnone rfl
            have hne : (selectedOf environment request).isEmpty = false :=
              List.isEmpty_eq_false_iff.mpr hnone
            simp only [repair, hcollect, buildActions, ← hselected, hsupported, hselectors, hne,
              Bool.not_true, Bool.false_eq_true, if_false]
          have hgroups : ∀ group ∈ groupedFindings (selectedOf environment request),
              WellGrouped column group := by
            intro group hgroup
            obtain ⟨hfindings, finding, hfinding, hcategory⟩ := mem_groupedFindings hgroup
            constructor
            · rw [hfindings]
              exact List.ne_nil_of_mem (List.mem_filter.mpr ⟨hfinding, decide_eq_true hcategory⟩)
            · intro other hother
              rw [hfindings, List.mem_filter] at hother
              exact of_decide_eq_true hother.2
            · intro hsafe other hother
              rw [hfindings, List.mem_filter, hselected] at hother
              refine collected_keys hcollect hcolumn other (mem_selectFindings hother.1) ?_
              rw [of_decide_eq_true hother.2]
              exact hsafe
          have hquiet' := hquiet column hcolumn
          rw [hrepair] at hquiet'
          obtain ⟨added, hsteps, hfindings, hexact, hchained⟩ := categoryActions_of_quiet _ _ _ _ _
            (assetReferenceColumnOf_ne_nil hcolumn) hgroups hquiet'
          rw [List.nil_append] at hsteps
          constructor
          · intro finding
            rw [hrepair, hsteps, hfindings, mem_statements_iff]
          · intro other hother step hstep
            rw [hcolumn] at hother
            cases hother
            rw [hrepair, hsteps] at hstep
            exact hexact step hstep
          · rw [hrepair, hsteps]
            exact hchained
      · have hfindings := findings_of_unsupported hcollect (Bool.eq_false_iff.mpr hsupported)
        apply deletesSelected_of_steps_nil
        · simp only [repair, hcollect, buildActions, hsupported, Bool.not_false, if_true]
        · rw [hselected, hfindings, selectFindings, List.filter_nil, ite_self]

/-! ## A link without its asset -/

def linkColumns : List PyStr := [py "albumId", py "assetId"]

def uuid (shown : String) : Option SqlValue := some (.object (py "UUID") (py shown))

/-- An album with a link to an asset that is gone. -/
def strayAlbumLink : Postgres where
  tables := [(assetTable, [py "id"]), (albumTable, [py "id"]), (albumAssetTable, linkColumns),
    (assetFileTable, [py "id", py "assetId", py "type", py "path"])]
  uniqueKeys := [(albumAssetTable, linkColumns)]
  foreignKeys :=
    [⟨py "album_asset_albumId_fkey", albumAssetTable, [py "albumId"], albumTable, [py "id"],
        .cascade⟩,
      ⟨py "album_asset_assetId_fkey", albumAssetTable, [py "assetId"], assetTable, [py "id"],
        .cascade⟩]
  entries :=
    [⟨1, albumTable, [(py "id", uuid "a")]⟩,
      ⟨2, albumAssetTable, [(py "albumId", uuid "a"), (py "assetId", uuid "b")]⟩]
  identified := by decide

/-- A repair that nobody disturbs. -/
def undisturbedRepair (db : Postgres) : RepairEnvironment where
  access := ⟨fun _ => true, fun _ _ => true⟩
  pathExists := fun _ => some true
  views := ⟨db, db, db, db, db⟩
  noneIsText := false
  others := fun _ db => db
  database := db

def applyAllSafe : RepairRequest := ⟨[], [], true, true⟩

theorem deletesSelected_strayAlbumLink :
    DeletesSelected (undisturbedRepair strayAlbumLink) applyAllSafe := by
  apply deletesSelected_of_quiet
  intro column hcolumn step hstep
  have hassetId : assetReferenceColumnOf (undisturbedRepair strayAlbumLink).access
      (undisturbedRepair strayAlbumLink).views.schema = some (py "assetId") := by decide +kernel
  rw [hassetId] at hcolumn
  cases hcolumn
  constructor
  · intro field hfield
    have hnamed : ∀ step ∈ (repair (undisturbedRepair strayAlbumLink) applyAllSafe).2.steps,
        ∀ field ∈ [py "albumId", py "assetId"],
          (step.finding.sampleMetadata.value field).any (·.str ≠ py "None") = true := by
      decide +kernel
    obtain ⟨value, hvalue, htext⟩ := (Option.any_eq_true _ _).mp (hnamed step hstep field hfield)
    exact ⟨value, hvalue, fun hnone => absurd hnone (of_decide_eq_true htext)⟩
  · have hdetached : ∀ step ∈ (repair (undisturbedRepair strayAlbumLink) applyAllSafe).2.steps,
        ∀ key ∈ step.before.foreignKeys, ∀ entry ∈ step.before.entries,
          entry ∉ step.before.entries.filter (targeted (py "assetId") step.finding step.before) →
            key.pointsInto (step.before.entries.filter
              (targeted (py "assetId") step.finding step.before)) entry = false := by
      decide +kernel
    exact hdetached step hstep

/-- The link has a comment, which references it. -/
def commentedLink : Postgres :=
  let activityTable : TableName := ⟨py "public", py "activity"⟩
  { tables := strayAlbumLink.tables ++
      [(activityTable, [py "id", py "albumId", py "assetId", py "comment"])]
    uniqueKeys := strayAlbumLink.uniqueKeys
    foreignKeys := strayAlbumLink.foreignKeys ++
      [⟨py "activity_albumId_assetId_fkey", activityTable, linkColumns, albumAssetTable,
        linkColumns, .cascade⟩]
    entries := strayAlbumLink.entries ++
      [⟨3, activityTable, [(py "id", uuid "c"), (py "albumId", uuid "a"),
        (py "assetId", uuid "b"), (py "comment", some (.text (py "Nice")))]⟩]
    identified := by decide }

/-- The comment goes with the link. -/
theorem comment_deleted_with_link :
    ¬ ∀ (environment : RepairEnvironment) (request : RepairRequest),
      DeletesSelected environment request := by
  intro h
  have hcounts : (repair (undisturbedRepair commentedLink) applyAllSafe).2.steps.map (fun step =>
      (step.after.map (·.entries.length), (step.before.entries.filter fun entry =>
        !targeted (py "assetId") step.finding step.before entry).length)) = [(some 1, 2)] := by
    decide +kernel
  obtain ⟨step, hstep, hcount⟩ := List.mem_map.mp (hcounts ▸ List.mem_singleton_self _)
  obtain ⟨after, hafter, hentries⟩ :=
    (h (undisturbedRepair commentedLink) applyAllSafe).exact (py "assetId") (by decide +kernel)
      step hstep
  rw [hafter, Option.map_some, hentries, Prod.mk.injEq] at hcount
  have hleft := Option.some.inj hcount.1
  omega

end ImmichDoctor.Consistency
