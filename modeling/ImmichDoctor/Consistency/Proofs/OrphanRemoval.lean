import ImmichDoctor.Library.Pruning
import ImmichDoctor.Consistency.Proofs.SelectedDeletes
/-!
# A repair leaves no orphaned links

A repair of everything that is safe to delete, while nobody else writes, removes the links that
lack their asset or their album and keeps everything else; what a second look still finds are
links with a null key. The links of one finding do not depend on the deletes for the others,
since these remove links only, so the deletes may be put together in any order.
-/

namespace ImmichDoctor.Consistency

open ImmichDoctor.Library
open ImmichDoctor.Db

/-! ## Stray links -/

/-- Whether the entry is a link that names a row of the target which is not there. -/
def dangles (column : PyStr) (db : Postgres) (target : TableName) (entry : Entry SqlValue) : Bool :=
  decide (entry.table = albumAssetTable) &&
    ((entry.row.value (targetColumn target column)).isSome &&
      lacksTarget db target (entry.row.value (targetColumn target column)))

/-- Whether the entry is a link without its asset or without its album. -/
def strayLink (column : PyStr) (db : Postgres) (entry : Entry SqlValue) : Bool :=
  dangles column db assetTable entry || dangles column db albumTable entry

/-- Whether a link names both of its ends. -/
def keyed (column : PyStr) (entry : Entry SqlValue) : Bool :=
  (entry.row.value (py "albumId")).isSome && (entry.row.value column).isSome

/-- Whether the delete for the finding selects the entry. -/
def selectedBy (column : PyStr) (db : Postgres) (finding : ConsistencyFinding)
    (entry : Entry SqlValue) : Bool :=
  decide (entry.table = albumAssetTable) &&
    (columnIs (py "albumId") (loadedStr (finding.sampleMetadata.value (py "albumId"))) entry.row &&
      columnIs column (loadedStr (finding.sampleMetadata.value (py "assetId"))) entry.row &&
      lacksTarget db (missingTargetTable finding.category)
        (entry.row.value (targetColumn (missingTargetTable finding.category) column)))

/-- Whether the columns of a link can hold the ends as they are written in a finding. -/
def legible (noneIsText : Bool) (albumId assetId : Option SqlValue) : Bool :=
  noneIsText || (decide (loadedStr albumId ≠ py "None") && decide (loadedStr assetId ≠ py "None"))

def legibleFinding (noneIsText : Bool) (finding : ConsistencyFinding) : Bool :=
  legible noneIsText (finding.sampleMetadata.value (py "albumId"))
    (finding.sampleMetadata.value (py "assetId"))

theorem missingTargetTable_ne (category : ConsistencyCategory) :
    missingTargetTable category ≠ albumAssetTable := by
  unfold missingTargetTable
  split_ifs <;> decide

/-- A database that has only lost links lacks the same targets. -/
theorem lacksTarget_pruned {before after : Postgres} {gone : Entry SqlValue → Bool}
    (h : before.Pruned after gone) (hlinks : ∀ entry, gone entry = true →
      entry.table = albumAssetTable) {target : TableName} (htarget : target ≠ albumAssetTable)
    (value : Option SqlValue) :
    lacksTarget after target value = lacksTarget before target value := by
  have hselect : ∀ p, after.select target p = before.select target p := by
    apply h.select
    intro entry hgone htable
    exact htarget (htable.symm.trans (hlinks entry hgone))
  rw [lacksTarget, lacksTarget, hselect]

section

variable {column : PyStr} {before middle after : Postgres} {gone : Entry SqlValue → Bool}

theorem selectedBy_pruned (h : before.Pruned after gone)
    (hlinks : ∀ entry, gone entry = true → entry.table = albumAssetTable)
    (finding : ConsistencyFinding) : selectedBy column after finding =
      selectedBy column before finding := by
  funext entry
  rw [selectedBy, selectedBy, lacksTarget_pruned h hlinks (missingTargetTable_ne _)]

theorem table_of_selectedBy {findings : List ConsistencyFinding} {entry : Entry SqlValue}
    (h : (findings.any fun finding => selectedBy column before finding entry) = true) :
    entry.table = albumAssetTable := by
  obtain ⟨finding, -, hselected⟩ := List.any_eq_true.mp h
  exact of_decide_eq_true (Bool.and_eq_true_iff.mp hselected).1

/-- A delete for a finding whose links nothing references. -/
theorem deleteFinding_of_unreferenced (noneIsText : Bool) {finding : ConsistencyFinding}
    (hkey : OrphanKey column finding)
    (hfree : before.Unreferenced (before.entries.filter (selectedBy column before finding))) :
    if legibleFinding noneIsText finding then
      ∃ count after, deleteFinding noneIsText (some column) finding before = some (count, after) ∧
        before.Pruned after (selectedBy column before finding)
    else deleteFinding noneIsText (some column) finding before = none := by
  have hrun : deleteFinding noneIsText (some column) finding before =
      deleteAlbumAssetRowsByKeys noneIsText
        (loadedStr (finding.sampleMetadata.value (py "albumId")))
        (loadedStr (finding.sampleMetadata.value (py "assetId")))
        (missingTargetTable finding.category) column before := by
    simp only [deleteFinding, hkey.albumId, hkey.assetId, Option.bind_eq_bind, Option.bind_some]
  have hblocked : (!noneIsText &&
      (decide (loadedStr (finding.sampleMetadata.value (py "albumId")) = py "None") ||
        decide (loadedStr (finding.sampleMetadata.value (py "assetId")) = py "None"))) =
      !legibleFinding noneIsText finding := by
    rw [legibleFinding, legible, Bool.not_or, Bool.not_and, decide_not, decide_not, Bool.not_not,
      Bool.not_not]
  rw [hrun, deleteAlbumAssetRowsByKeys, hblocked]
  cases legibleFinding noneIsText finding with
  | false => rfl
  | true =>
      obtain ⟨rows, after, hdelete, hpruned⟩ := Database.deleteWhere_pruned (p := fun row =>
        columnIs (py "albumId") (loadedStr (finding.sampleMetadata.value (py "albumId"))) row &&
          columnIs column (loadedStr (finding.sampleMetadata.value (py "assetId"))) row &&
          lacksTarget before (missingTargetTable finding.category)
            (row.value (targetColumn (missingTargetTable finding.category) column))) hfree
      refine ⟨rows.length, after, ?_, hpruned⟩
      rw [Bool.not_true, if_neg Bool.false_ne_true, hdelete]
      rfl

/-! ## A run of deletes -/

/-- A run of deletes for the findings has removed the links of the first of them, and those of
all when it has not raised; it raises when a finding has an end that its column cannot hold. -/
structure Cleared (noneIsText : Bool) (column : PyStr) (before : Postgres)
    (findings : List ConsistencyFinding) (returned : Bool) (after : Postgres) : Prop where
  returns : returned = findings.all (legibleFinding noneIsText)
  removed : ∃ done, done <+: findings ∧ (returned = true → done = findings) ∧
    before.Pruned after fun entry => done.any fun finding => selectedBy column before finding entry

theorem Cleared.nil (noneIsText : Bool) (column : PyStr) (db : Postgres) :
    Cleared noneIsText column db [] true db where
  returns := rfl
  removed := ⟨[], List.prefix_refl _, fun _ => rfl, Database.Pruned.none db⟩

/-- What raises stops a run. -/
theorem Cleared.stopped {noneIsText : Bool} {findings : List ConsistencyFinding}
    (h : Cleared noneIsText column before findings false after) (more : List ConsistencyFinding) :
    Cleared noneIsText column before (findings ++ more) false after where
  returns := by
    rw [List.all_append, ← h.returns, Bool.false_and]
  removed := by
    obtain ⟨done, hprefix, -, hpruned⟩ := h.removed
    exact ⟨done, hprefix.trans (List.prefix_append _ _),
      fun htrue => absurd htrue Bool.false_ne_true, hpruned⟩

/-- A run goes on after deletes that have not raised. -/
theorem Cleared.append {noneIsText returned : Bool} {findings more : List ConsistencyFinding}
    (h : Cleared noneIsText column before findings true middle)
    (hmore : Cleared noneIsText column middle more returned after) :
    Cleared noneIsText column before (findings ++ more) returned after where
  returns := by
    rw [List.all_append, ← h.returns, Bool.true_and, ← hmore.returns]
  removed := by
    obtain ⟨done, -, hdone, hpruned⟩ := h.removed
    obtain ⟨doneMore, hprefix, hall, hprunedMore⟩ := hmore.removed
    cases hdone rfl
    refine ⟨findings ++ doneMore, ?_, ?_, ?_⟩
    · exact List.prefix_append_right_inj findings |>.mpr hprefix
    · intro htrue
      rw [hall htrue]
    · apply (hpruned.trans hprunedMore).congr
      intro entry _
      simp only [selectedBy_pruned hpruned fun _ => table_of_selectedBy, List.any_append]

/-- The links that the findings select, as far as the database has them, are among these. -/
def SelectsOf (column : PyStr) (db : Postgres) (findings : List ConsistencyFinding)
    (links : List (Entry SqlValue)) : Prop :=
  ∀ finding ∈ findings, ∀ entry ∈ db.entries, selectedBy column db finding entry = true →
    entry ∈ links

/-- What the findings select is there before the deletes for other findings. -/
theorem Cleared.selectsOf {noneIsText returned : Bool} {findings others : List ConsistencyFinding}
    (h : Cleared noneIsText column before findings returned after)
    {links : List (Entry SqlValue)} (hlinks : SelectsOf column before others links) :
    SelectsOf column after others links := by
  obtain ⟨done, -, -, hpruned⟩ := h.removed
  intro finding hfinding entry hentry hselected
  rw [selectedBy_pruned hpruned fun _ => table_of_selectedBy] at hselected
  exact hlinks finding hfinding entry (hpruned.subset hentry) hselected

theorem Cleared.unreferenced {noneIsText returned : Bool} {findings : List ConsistencyFinding}
    (h : Cleared noneIsText column before findings returned after)
    {links : List (Entry SqlValue)} (hfree : before.Unreferenced links) :
    after.Unreferenced links := by
  obtain ⟨done, -, -, hpruned⟩ := h.removed
  exact hpruned.unreferenced hfree

/-- One delete is a run for its finding. -/
theorem cleared_deleteFinding (noneIsText : Bool) {finding : ConsistencyFinding}
    (hkey : OrphanKey column finding) {links : List (Entry SqlValue)}
    (hlinks : SelectsOf column before [finding] links) (hfree : before.Unreferenced links) :
    match deleteFinding noneIsText (some column) finding before with
    | none => Cleared noneIsText column before [finding] false before
    | some (_, after) => Cleared noneIsText column before [finding] true after := by
  have hstep := deleteFinding_of_unreferenced noneIsText hkey (hfree.mono fun entry hentry =>
    hlinks finding (List.mem_singleton_self _) entry (List.mem_filter.mp hentry).1
      (List.mem_filter.mp hentry).2)
  cases hlegible : legibleFinding noneIsText finding with
  | false =>
      rw [hlegible, if_neg Bool.false_ne_true] at hstep
      rw [hstep]
      constructor
      · rw [List.all_cons, hlegible, Bool.false_and]
      · exact ⟨[], List.nil_prefix, fun htrue => absurd htrue Bool.false_ne_true,
          Database.Pruned.none before⟩
  | true =>
      rw [hlegible, if_pos rfl] at hstep
      obtain ⟨count, after, hdelete, hpruned⟩ := hstep
      rw [hdelete]
      constructor
      · rw [List.all_cons, hlegible, List.all_nil, Bool.and_true]
      · refine ⟨[finding], List.prefix_refl _, fun _ => rfl, hpruned.congr ?_⟩
        intro entry _
        rw [List.any_cons, List.any_nil, Bool.or_false]

/-- Nobody else writes. -/
def alone : Nat → Postgres → Postgres :=
  fun _ db => db

theorem deleteFindings_clears (noneIsText : Bool) (findings : List ConsistencyFinding)
    (progress : RepairProgress) (hkeys : ∀ finding ∈ findings, OrphanKey column finding)
    {links : List (Entry SqlValue)} (hlinks : SelectsOf column progress.database findings links)
    (hfree : progress.database.Unreferenced links) :
    Cleared noneIsText column progress.database findings
      (deleteFindings noneIsText alone (some column) findings progress).1.isSome
      (deleteFindings noneIsText alone (some column) findings progress).2.database := by
  induction findings generalizing progress with
  | nil => exact Cleared.nil noneIsText column progress.database
  | cons finding findings ih =>
      obtain ⟨hkey, hrest⟩ := List.forall_mem_cons.mp hkeys
      have hfirst : SelectsOf column progress.database [finding] links := fun other hother =>
        hlinks other (List.mem_cons.mpr (.inl (List.mem_singleton.mp hother)))
      have hone := cleared_deleteFinding noneIsText hkey hfirst hfree
      rw [deleteFindings]
      show Cleared _ _ _ ([finding] ++ findings) _ _
      simp only [alone]
      cases hdelete : deleteFinding noneIsText (some column) finding progress.database with
      | none =>
          rw [hdelete] at hone
          exact hone.stopped findings
      | some deleted =>
          obtain ⟨count, after⟩ := deleted
          rw [hdelete] at hone
          have hothers := hone.selectsOf fun other hother =>
            hlinks other (List.mem_cons_of_mem _ hother)
          simp only [Option.isSome_map]
          exact hone.append (ih ⟨_, after⟩ hrest hothers (hone.unreferenced hfree))

theorem categoryAction_clears (noneIsText apply : Bool) (hcolumn : column ≠ [])
    (group : ConsistencyCategory × List ConsistencyFinding) (progress : RepairProgress)
    (hgroup : WellGrouped column group) {links : List (Entry SqlValue)}
    (hlinks : SelectsOf column progress.database (statementsOf apply group) links)
    (hfree : progress.database.Unreferenced links) :
    Cleared noneIsText column progress.database (statementsOf apply group)
      (categoryAction noneIsText alone apply group.1 group.2 progress).1.isSome
      (categoryAction noneIsText alone apply group.1 group.2 progress).2.database := by
  unfold categoryAction statementsOf at *
  cases hmode : group.1.repairMode with
  | inspectOnly => exact Cleared.nil noneIsText column progress.database
  | safeDelete =>
      cases apply with
      | false => exact Cleared.nil noneIsText column progress.database
      | true =>
          have hkeys := hgroup.keys hmode
          simp only [hmode, assetReferenceColumn_eq hcolumn hgroup.nonempty hkeys,
            Option.isSome_map] at hlinks ⊢
          exact deleteFindings_clears noneIsText group.2 progress hkeys hlinks hfree

theorem categoryActions_clears (noneIsText apply : Bool) (hcolumn : column ≠ [])
    (groups : List (ConsistencyCategory × List ConsistencyFinding)) (progress : RepairProgress)
    (hgroups : ∀ group ∈ groups, WellGrouped column group) {links : List (Entry SqlValue)}
    (hlinks : SelectsOf column progress.database (groups.flatMap (statementsOf apply)) links)
    (hfree : progress.database.Unreferenced links) :
    Cleared noneIsText column progress.database (groups.flatMap (statementsOf apply))
      (categoryActions noneIsText alone apply groups progress).1.isSome
      (categoryActions noneIsText alone apply groups progress).2.database := by
  induction groups generalizing progress with
  | nil => exact Cleared.nil noneIsText column progress.database
  | cons group groups ih =>
      obtain ⟨hgroup, hrest⟩ := List.forall_mem_cons.mp hgroups
      rw [List.flatMap_cons] at hlinks ⊢
      have hfirst : SelectsOf column progress.database (statementsOf apply group) links :=
        fun finding hfinding => hlinks finding (List.mem_append_left _ hfinding)
      have hone := categoryAction_clears noneIsText apply hcolumn group progress hgroup hfirst hfree
      unfold categoryActions
      rcases hresult : categoryAction noneIsText alone apply group.1 group.2 progress with
        ⟨action, next⟩
      rw [hresult] at hone
      simp only
      cases action with
      | none => exact hone.stopped _
      | some action =>
          have hothers := hone.selectsOf fun finding hfinding =>
            hlinks finding (List.mem_append_right _ hfinding)
          simp only [Option.isSome_map]
          exact hone.append (ih next hrest hothers (hone.unreferenced hfree))

end

/-! ## Collected findings -/

/-- A grouped key is the key of a dangling link. -/
theorem exists_dangling {db : Postgres} {target : TableName} {column : PyStr}
    {found : (Option SqlValue × Option SqlValue) × Nat}
    (h : found ∈ groupedOrphans db target column) :
    ∃ entry ∈ db.entries, dangles column db target entry = true ∧
      found.1 = (entry.row.value (py "albumId"), entry.row.value column) := by
  obtain ⟨key, hkey, rfl⟩ := List.mem_map.mp h
  rw [(List.perm_insertionSort _ _).mem_iff, List.mem_eraseDups] at hkey
  obtain ⟨entry, hentry, hvalues⟩ := List.mem_map.mp hkey
  obtain ⟨hmem, hdangles⟩ := List.mem_filter.mp hentry
  exact ⟨entry, hmem, hdangles, hvalues.symm⟩

/-- The key of a dangling link is among the grouped keys. -/
theorem exists_grouped {db : Postgres} {target : TableName} {column : PyStr}
    {entry : Entry SqlValue} (hentry : entry ∈ db.entries)
    (hdangles : dangles column db target entry = true) :
    ∃ found ∈ groupedOrphans db target column,
      found.1 = (entry.row.value (py "albumId"), entry.row.value column) := by
  refine ⟨⟨_, _⟩, List.mem_map.mpr ⟨_, ?_, rfl⟩, rfl⟩
  rw [(List.perm_insertionSort _ _).mem_iff, List.mem_eraseDups]
  exact List.mem_map.mpr ⟨entry, List.mem_filter.mpr ⟨hentry, hdangles⟩, rfl⟩

/-- The findings for the keys of the dangling links. -/
def danglingFindings (column : PyStr) (db : Postgres) : List ConsistencyFinding :=
  (groupedOrphans db assetTable column).map
      (orphanFinding .missingAsset (py "missing_asset") column) ++
    (groupedOrphans db albumTable column).map
      (orphanFinding .missingAlbum (py "missing_album") column)

/-- What the query for the dangling links returns, where it does. -/
theorem listGrouped_eq_some {db : Postgres} {target : TableName} {column : PyStr}
    {category : ConsistencyCategory} {label : PyStr} {findings : List ConsistencyFinding}
    (h : (listGroupedAlbumAssetOrphans db target column).map
      (List.map (orphanFinding category label column)) = some findings) :
    findings = (groupedOrphans db target column).map (orphanFinding category label column) := by
  rw [listGroupedAlbumAssetOrphans] at h
  split at h
  · exact (Option.some.inj h).symm
  · cases h

/-- The findings that are safe to delete are those of the dangling links. -/
theorem mem_collected_safe {access : Access} {pathExists : PyStr → Option Bool} {db : Postgres}
    {collected : CollectedConsistencyState} {column : PyStr}
    (h : collect access pathExists ⟨db, db, db, db, db⟩ = some collected)
    (hcolumn : assetReferenceColumnOf access db = some column)
    (hsupported : collected.profileSupported = true) (finding : ConsistencyFinding) :
    finding ∈ collected.findings ∧ finding.category.repairMode = .safeDelete ↔
      finding ∈ danglingFindings column db := by
  simp only [collect, hcolumn] at h
  split at h
  · cases h
    cases hsupported
  · simp only [Option.bind_eq_bind, Option.bind_eq_some_iff] at h
    obtain ⟨missingAssets, hassets, missingAlbums, halbums, previews, hpreviews, thumbnails,
      hthumbnails, hcollected⟩ := h
    cases hcollected
    rw [listGrouped_eq_some hassets, listGrouped_eq_some halbums, ← danglingFindings]
    constructor
    · rintro ⟨hfinding, hsafe⟩
      rcases List.mem_append.mp hfinding with hfinding | hthumbnail
      · rcases List.mem_append.mp hfinding with hfinding | hpreview
        · exact hfinding
        · rw [category_of_mem_assetFiles hpreviews hpreview] at hsafe
          cases hsafe
      · rw [category_of_mem_assetFiles hthumbnails hthumbnail] at hsafe
        cases hsafe
    · intro hfinding
      refine ⟨List.mem_append_left _ (List.mem_append_left _ hfinding), ?_⟩
      rcases List.mem_append.mp hfinding with hasset | halbum
      · obtain ⟨found, -, rfl⟩ := List.mem_map.mp hasset
        rfl
      · obtain ⟨found, -, rfl⟩ := List.mem_map.mp halbum
        rfl

section

variable {column : PyStr} {db : Postgres}

/-- Whether the finding is of a link that dangles, with the key of that link. -/
structure FoundAt (column : PyStr) (db : Postgres) (finding : ConsistencyFinding)
    (entry : Entry SqlValue) : Prop where
  dangling : dangles column db (missingTargetTable finding.category) entry = true
  albumId : finding.sampleMetadata.value (py "albumId") = entry.row.value (py "albumId")
  assetId : finding.sampleMetadata.value (py "assetId") = entry.row.value column

theorem exists_foundAt {finding : ConsistencyFinding}
    (h : finding ∈ danglingFindings column db) :
    ∃ entry ∈ db.entries, FoundAt column db finding entry := by
  rcases List.mem_append.mp h with hasset | halbum
  · obtain ⟨found, hfound, rfl⟩ := List.mem_map.mp hasset
    obtain ⟨entry, hentry, hdangles, hkey⟩ := exists_dangling hfound
    exact ⟨entry, hentry, hdangles, congrArg Prod.fst hkey, congrArg Prod.snd hkey⟩
  · obtain ⟨found, hfound, rfl⟩ := List.mem_map.mp halbum
    obtain ⟨entry, hentry, hdangles, hkey⟩ := exists_dangling hfound
    exact ⟨entry, hentry, hdangles, congrArg Prod.fst hkey, congrArg Prod.snd hkey⟩

theorem exists_finding {entry : Entry SqlValue} (hentry : entry ∈ db.entries)
    (hstray : strayLink column db entry = true) :
    ∃ finding ∈ danglingFindings column db, FoundAt column db finding entry := by
  rcases Bool.or_eq_true_iff.mp hstray with hdangles | hdangles
  · obtain ⟨found, hfound, hkey⟩ := exists_grouped hentry hdangles
    exact ⟨_, List.mem_append_left _ (List.mem_map_of_mem hfound),
      hdangles, congrArg Prod.fst hkey, congrArg Prod.snd hkey⟩
  · obtain ⟨found, hfound, hkey⟩ := exists_grouped hentry hdangles
    exact ⟨_, List.mem_append_right _ (List.mem_map_of_mem hfound),
      hdangles, congrArg Prod.fst hkey, congrArg Prod.snd hkey⟩

theorem stray_of_dangles {category : ConsistencyCategory} {entry : Entry SqlValue}
    (h : dangles column db (missingTargetTable category) entry = true) :
    strayLink column db entry = true := by
  unfold missingTargetTable at h
  split_ifs at h
  · exact Bool.or_eq_true_iff.mpr (.inl h)
  · exact Bool.or_eq_true_iff.mpr (.inr h)

/-- What a finding selects are links that dangle as its own does, with both ends. -/
theorem stray_of_selectedBy {finding : ConsistencyFinding} {entry : Entry SqlValue}
    (h : selectedBy column db finding entry = true) :
    strayLink column db entry = true ∧ keyed column entry = true := by
  rw [selectedBy, Bool.and_eq_true, Bool.and_eq_true, Bool.and_eq_true] at h
  obtain ⟨hlink, ⟨halbum, hasset⟩, hlacks⟩ := h
  have hsome : ∀ {name text : PyStr}, columnIs name text entry.row = true →
      (entry.row.value name).isSome = true := by
    intro name text hname
    unfold columnIs at hname
    cases hvalue : entry.row.value name with
    | none =>
        rw [hvalue] at hname
        cases hname
    | some value => rfl
  have htarget : (entry.row.value
      (targetColumn (missingTargetTable finding.category) column)).isSome = true := by
    unfold targetColumn
    split_ifs
    · exact hsome hasset
    · exact hsome halbum
  have hdangles : dangles column db (missingTargetTable finding.category) entry = true := by
    rw [dangles, Bool.and_eq_true, Bool.and_eq_true]
    exact ⟨hlink, htarget, hlacks⟩
  exact ⟨stray_of_dangles hdangles, Bool.and_eq_true_iff.mpr ⟨hsome halbum, hsome hasset⟩⟩

/-- A finding selects the link it was found at when both ends have a value. -/
theorem FoundAt.selected {finding : ConsistencyFinding} {entry : Entry SqlValue}
    (h : FoundAt column db finding entry) (hkeyed : keyed column entry = true) :
    selectedBy column db finding entry = true := by
  obtain ⟨halbum, hasset⟩ := Bool.and_eq_true_iff.mp hkeyed
  have hdangling := h.dangling
  rw [dangles, Bool.and_eq_true, Bool.and_eq_true] at hdangling
  obtain ⟨hlink, -, hlacks⟩ := hdangling
  have hreads : ∀ {name : PyStr}, (entry.row.value name).isSome = true →
      columnIs name (loadedStr (entry.row.value name)) entry.row = true := by
    intro name hname
    obtain ⟨value, hvalue⟩ := Option.isSome_iff_exists.mp hname
    unfold columnIs
    rw [hvalue]
    exact decide_eq_true rfl
  rw [selectedBy, h.albumId, h.assetId, hreads halbum, hreads hasset, hlink, hlacks]
  rfl

end

theorem assetReferenceColumnOf_congr (access : Access) {before after : Postgres}
    (h : after.tables = before.tables) :
    assetReferenceColumnOf access after = assetReferenceColumnOf access before := by
  have htables : listTables access after = listTables access before := by
    rw [listTables, listTables, h]
  have hcolumns : listColumns access after = listColumns access before := by
    funext table
    rw [listColumns, listColumns, h]
  rw [assetReferenceColumnOf, assetReferenceColumnOf, htables, hcolumns]

/-- A collection that returns does so again when only links have gone. -/
theorem collect_pruned {access : Access} {pathExists : PyStr → Option Bool}
    {before after : Postgres} {gone : Entry SqlValue → Bool}
    {collected : CollectedConsistencyState} (h : before.Pruned after gone)
    (hlinks : ∀ entry, gone entry = true → entry.table = albumAssetTable)
    (hcollect : collect access pathExists ⟨before, before, before, before, before⟩ =
      some collected) :
    ∃ again, collect access pathExists ⟨after, after, after, after, after⟩ = some again := by
  have hcolumns : ∀ table columns, hasColumns after table columns =
      hasColumns before table columns := by
    intro table columns
    rw [hasColumns, hasColumns, h.tables]
  have hfiles : ∀ category fileType, collectAssetFilePathFindings pathExists after category
      fileType = collectAssetFilePathFindings pathExists before category fileType := by
    intro category fileType
    have hselect : ∀ p, after.select assetFileTable p = before.select assetFileTable p := by
      apply h.select
      intro entry hgone htable
      exact absurd (htable.symm.trans (hlinks entry hgone)) (by decide)
    simp only [collectAssetFilePathFindings, listAssetFilesByType, hcolumns, hselect]
  have horphans : ∀ {target : TableName} {column label : PyStr} {category : ConsistencyCategory}
      {findings : List ConsistencyFinding}, (listGroupedAlbumAssetOrphans before target column).map
        (List.map (orphanFinding category label column)) = some findings →
      ∃ again, (listGroupedAlbumAssetOrphans after target column).map
        (List.map (orphanFinding category label column)) = some again := by
    intro target column label category findings hfindings
    unfold listGroupedAlbumAssetOrphans at hfindings ⊢
    rw [hcolumns, hcolumns]
    split at hfindings
    · rename_i hnamed
      exact ⟨_, by rw [if_pos hnamed, Option.map_some]⟩
    · cases hfindings
  have hvalidate : canValidate access after = canValidate access before := by
    have htables : listTables access after = listTables access before := by
      rw [listTables, listTables, h.tables]
    rw [canValidate, canValidate, assetReferenceColumnOf_congr access h.tables, htables,
      listColumns, listColumns, h.tables]
  simp only [collect, assetReferenceColumnOf_congr access h.tables, hvalidate, hfiles]
    at hcollect ⊢
  split at hcollect
  · exact ⟨_, rfl⟩
  · split at hcollect
    · rename_i hunsupported
      exact ⟨_, by rw [if_pos hunsupported]⟩
    · rename_i hsupported
      simp only [Option.bind_eq_bind, Option.bind_eq_some_iff] at hcollect
      obtain ⟨missingAssets, hassets, missingAlbums, halbums, previews, hpreviews, thumbnails,
        hthumbnails, -⟩ := hcollect
      obtain ⟨assetsAgain, hassetsAgain⟩ := horphans hassets
      obtain ⟨albumsAgain, halbumsAgain⟩ := horphans halbums
      refine ⟨⟨assetsAgain ++ albumsAgain ++ previews ++ thumbnails, true⟩, ?_⟩
      rw [if_neg hsupported]
      simp only [Option.bind_eq_bind, Option.bind_eq_some_iff]
      exact ⟨_, hassetsAgain, _, halbumsAgain, _, hpreviews, _, hthumbnails, rfl⟩

/-! ## A repair of everything that is safe -/

/-- A repair of this database while nobody else writes. -/
def aloneWith (access : Access) (pathExists : PyStr → Option Bool) (noneIsText : Bool)
    (db : Postgres) : RepairEnvironment where
  access := access
  pathExists := pathExists
  views := ⟨db, db, db, db, db⟩
  noneIsText := noneIsText
  others := alone
  database := db

/-- What a repair has done to the stray links of a database. -/
structure RemovesStrays (access : Access) (pathExists : PyStr → Option Bool) (noneIsText : Bool)
    (column : PyStr) (db : Postgres)
    (run : Option (List ConsistencyRepairAction) × RepairProgress) : Prop where
  /-- It raises exactly when a stray link has an end that its column cannot hold as text. -/
  returns : run.1.isSome = true ↔ ∀ entry ∈ db.entries, strayLink column db entry = true →
    legible noneIsText (entry.row.value (py "albumId")) (entry.row.value column) = true
  /-- Nothing but stray links goes, and nothing comes. -/
  keeps : (db.entries.filter
    fun entry => !(strayLink column db entry && keyed column entry)).Sublist
      run.2.database.entries ∧ run.2.database.entries.Sublist db.entries
  /-- All stray links with both ends are gone. -/
  removes : run.1.isSome = true → run.2.database.entries =
    db.entries.filter fun entry => !(strayLink column db entry && keyed column entry)
  /-- A collection afterwards returns, and what it finds has a null key. -/
  settles : run.1.isSome = true → ∃ again, collect access pathExists
      ⟨run.2.database, run.2.database, run.2.database, run.2.database, run.2.database⟩ =
        some again ∧ ∀ finding ∈ again.findings, finding.category.repairMode = .safeDelete →
      finding.sampleMetadata.value (py "albumId") = none ∨
        finding.sampleMetadata.value (py "assetId") = none

section

variable {access : Access} {pathExists : PyStr → Option Bool} {noneIsText : Bool} {column : PyStr}
  {db : Postgres} {request : RepairRequest} {collected : CollectedConsistencyState}

theorem selectedOf_aloneWith (noneIsText : Bool) (request : RepairRequest)
    (hcollect : collect access pathExists ⟨db, db, db, db, db⟩ = some collected) :
    selectedOf (aloneWith access pathExists noneIsText db) request =
      selectFindings collected.findings
        (resolveSelectedCategories request.categories request.allSafe) request.findingIds := by
  simp only [selectedOf, aloneWith, hcollect]

/-- A repair is a run of the deletes for what is selected. -/
theorem repair_clears (noneIsText : Bool) (request : RepairRequest)
    (hcollect : collect access pathExists ⟨db, db, db, db, db⟩ = some collected)
    (hcolumn : assetReferenceColumnOf access db = some column)
    (hsupported : collected.profileSupported = true) {links : List (Entry SqlValue)}
    (hlinks : SelectsOf column db ((groupedFindings (selectedOf
      (aloneWith access pathExists noneIsText db) request)).flatMap (statementsOf request.apply))
      links) (hfree : db.Unreferenced links) :
    Cleared noneIsText column db ((groupedFindings (selectedOf
        (aloneWith access pathExists noneIsText db) request)).flatMap
          (statementsOf request.apply))
      (repair (aloneWith access pathExists noneIsText db) request).1.isSome
      (repair (aloneWith access pathExists noneIsText db) request).2.database := by
  have hselected := selectedOf_aloneWith noneIsText request hcollect
  have hrepair : repair (aloneWith access pathExists noneIsText db) request =
      buildActions noneIsText alone
        (selectedOf (aloneWith access pathExists noneIsText db) request)
        (resolveSelectedCategories request.categories request.allSafe) request.findingIds
        request.apply true ⟨[], db⟩ := by
    rw [hselected]
    simp only [repair, aloneWith, hcollect, hsupported]
  rw [hrepair]
  by_cases hnone : selectedOf (aloneWith access pathExists noneIsText db) request = []
  · rw [hnone]
    unfold buildActions
    split
    · exact Cleared.nil noneIsText column db
    · split
      · exact Cleared.nil noneIsText column db
      · exact Cleared.nil noneIsText column db
  · have hselectors : ((resolveSelectedCategories request.categories
        request.allSafe).isEmpty && request.findingIds.isEmpty) = false := by
      by_contra hempty
      rw [Bool.not_eq_false] at hempty
      rw [hselected, selectFindings, if_pos hempty] at hnone
      exact hnone rfl
    have hne : (selectedOf (aloneWith access pathExists noneIsText db) request).isEmpty = false :=
      List.isEmpty_eq_false_iff.mpr hnone
    rw [buildActions, hselectors, hne]
    refine categoryActions_clears noneIsText request.apply (assetReferenceColumnOf_ne_nil hcolumn)
      _ ⟨[], db⟩ ?_ hlinks hfree
    intro group hgroup
    obtain ⟨hfindings, finding, hfinding, hcategory⟩ := mem_groupedFindings hgroup
    constructor
    · rw [hfindings]
      exact List.ne_nil_of_mem (List.mem_filter.mpr ⟨hfinding, decide_eq_true hcategory⟩)
    · intro other hother
      rw [hfindings, List.mem_filter] at hother
      exact of_decide_eq_true hother.2
    · intro hsafe other hother
      rw [hfindings, List.mem_filter, hselected] at hother
      refine collected_keys hcollect hcolumn other (mem_selectFindings hother.1) ?_
      rw [of_decide_eq_true hother.2]
      exact hsafe

/-- With everything that is safe selected, there is a delete for each dangling link. -/
theorem mem_statements_allSafe (noneIsText : Bool)
    (hcollect : collect access pathExists ⟨db, db, db, db, db⟩ = some collected)
    (hcolumn : assetReferenceColumnOf access db = some column)
    (hsupported : collected.profileSupported = true) (hsafe : request.allSafe = true)
    (happly : request.apply = true) (finding : ConsistencyFinding) :
    finding ∈ (groupedFindings (selectedOf (aloneWith access pathExists noneIsText db)
        request)).flatMap (statementsOf request.apply) ↔
      finding ∈ danglingFindings column db := by
  rw [mem_statements_iff, selectedOf_aloneWith noneIsText request hcollect,
    ← mem_collected_safe hcollect hcolumn hsupported, and_iff_right happly]
  refine and_congr_left fun hmode => ⟨mem_selectFindings, fun hfinding => ?_⟩
  have hname : finding.category.name ∈
      resolveSelectedCategories request.categories request.allSafe := by
    rw [resolveSelectedCategories, if_pos hsafe, List.mem_eraseDups]
    apply List.mem_append_right
    cases hcategory : finding.category with
    | missingAsset => exact List.mem_cons_self
    | missingAlbum => exact List.mem_cons_of_mem _ List.mem_cons_self
    | missingPreviewPath =>
        rw [hcategory] at hmode
        cases hmode
    | missingThumbnailPath =>
        rw [hcategory] at hmode
        cases hmode
  have hselectors : ((resolveSelectedCategories request.categories
      request.allSafe).isEmpty && request.findingIds.isEmpty) = false := by
    rw [List.isEmpty_eq_false_iff.mpr (List.ne_nil_of_mem hname), Bool.false_and]
  rw [selectFindings, hselectors, if_neg Bool.false_ne_true, List.mem_filter, Bool.or_eq_true,
    List.contains_iff_mem]
  exact ⟨hfinding, .inl hname⟩

/-- A repair of everything that is safe, on links that nothing references while nobody else
writes, removes the stray links and settles the database. -/
theorem allSafe_removes_strays
    (hcollect : collect access pathExists ⟨db, db, db, db, db⟩ = some collected)
    (hcolumn : assetReferenceColumnOf access db = some column)
    (hsupported : collected.profileSupported = true) (hsafe : request.allSafe = true)
    (happly : request.apply = true)
    (hfree : db.Unreferenced (db.entries.filter (strayLink column db))) :
    RemovesStrays access pathExists noneIsText column db
      (repair (aloneWith access pathExists noneIsText db) request) := by
  have hstatements := mem_statements_allSafe noneIsText hcollect hcolumn hsupported
    hsafe happly
  have hcleared := repair_clears noneIsText request hcollect hcolumn
    hsupported (fun finding _ entry hentry hselected =>
      List.mem_filter.mpr ⟨hentry, (stray_of_selectedBy hselected).1⟩) hfree
  revert hstatements hcleared
  generalize (groupedFindings (selectedOf (aloneWith access pathExists noneIsText db)
    request)).flatMap (statementsOf request.apply) = findings
  generalize repair (aloneWith access pathExists noneIsText db) request = run
  intro hstatements hcleared
  obtain ⟨done, hprefix, hdone, hpruned⟩ := hcleared.removed
  have hgone : ∀ entry, (done.any fun finding => selectedBy column db finding entry) = true →
      (strayLink column db entry && keyed column entry) = true := by
    intro entry hany
    obtain ⟨finding, -, hselected⟩ := List.any_eq_true.mp hany
    exact Bool.and_eq_true_iff.mpr (stray_of_selectedBy hselected)
  have hremoves : run.1.isSome = true → run.2.database.entries =
      db.entries.filter fun entry => !(strayLink column db entry && keyed column entry) := by
    intro hreturned
    rw [hpruned.entries]
    apply List.filter_congr
    intro entry hentry
    rw [hdone hreturned] at hgone ⊢
    rw [Bool.not_inj_iff, Bool.eq_iff_iff]
    refine ⟨hgone entry, fun hstray => ?_⟩
    obtain ⟨hstray, hkeyed⟩ := Bool.and_eq_true_iff.mp hstray
    obtain ⟨finding, hfinding, hfound⟩ := exists_finding hentry hstray
    exact List.any_eq_true.mpr ⟨finding, (hstatements finding).mpr hfinding,
      hfound.selected hkeyed⟩
  refine ⟨?_, ⟨?_, ?_⟩, hremoves, ?_⟩
  · rw [hcleared.returns, List.all_eq_true]
    constructor
    · intro hall entry hentry hstray
      obtain ⟨finding, hfinding, hfound⟩ := exists_finding hentry hstray
      have hlegible := hall finding ((hstatements finding).mpr hfinding)
      rwa [legibleFinding, hfound.albumId, hfound.assetId] at hlegible
    · intro hall finding hfinding
      obtain ⟨entry, hentry, hfound⟩ := exists_foundAt ((hstatements finding).mp hfinding)
      rw [legibleFinding, hfound.albumId, hfound.assetId]
      exact hall entry hentry (stray_of_dangles hfound.dangling)
  · rw [hpruned.entries]
    apply List.monotone_filter_right
    intro entry hkept
    rw [Bool.not_eq_true', Bool.eq_false_iff] at hkept ⊢
    exact mt (hgone entry) hkept
  · rw [hpruned.entries]
    exact List.filter_sublist
  · intro hreturned
    have hlinks : ∀ entry, (done.any fun finding => selectedBy column db finding entry) = true →
        entry.table = albumAssetTable := fun _ => table_of_selectedBy
    obtain ⟨again, hagain⟩ := collect_pruned hpruned hlinks hcollect
    refine ⟨again, hagain, fun finding hfinding hmode => ?_⟩
    have hcolumnAgain : assetReferenceColumnOf access run.2.database = some column :=
      (assetReferenceColumnOf_congr access hpruned.tables).trans hcolumn
    have hsupportedAgain : again.profileSupported = true := by
      by_contra hunsupported
      rw [findings_of_unsupported hagain (Bool.eq_false_iff.mpr hunsupported)] at hfinding
      cases hfinding
    obtain ⟨entry, hentry, hfound⟩ := exists_foundAt
      ((mem_collected_safe hagain hcolumnAgain hsupportedAgain finding).mp ⟨hfinding, hmode⟩)
    have hdangling := hfound.dangling
    rw [dangles, lacksTarget_pruned hpruned hlinks (missingTargetTable_ne _)] at hdangling
    have hstray : strayLink column db entry = true := stray_of_dangles hdangling
    rw [hremoves hreturned, List.mem_filter, hstray, Bool.true_and] at hentry
    rw [hfound.albumId, hfound.assetId]
    rw [keyed, Bool.not_eq_true', Bool.and_eq_false_iff, Bool.eq_false_iff, Bool.eq_false_iff]
      at hentry
    exact hentry.2.imp Option.not_isSome_iff_eq_none.mp Option.not_isSome_iff_eq_none.mp

end

/-- The link to the asset that is gone, and nothing else. -/
theorem allSafe_removes_strays_strayAlbumLink :
    RemovesStrays ⟨fun _ => true, fun _ _ => true⟩ (fun _ => some true) false (py "assetId")
      strayAlbumLink (repair (aloneWith ⟨fun _ => true, fun _ _ => true⟩ (fun _ => some true) false
        strayAlbumLink) applyAllSafe) := by
  obtain ⟨collected, hcollect, hsupported⟩ : ∃ collected,
      collect ⟨fun _ => true, fun _ _ => true⟩ (fun _ => some true) ⟨strayAlbumLink,
        strayAlbumLink, strayAlbumLink, strayAlbumLink, strayAlbumLink⟩ = some collected ∧
      collected.profileSupported = true := by
    apply Option.map_eq_some_iff.mp
    decide +kernel
  exact allSafe_removes_strays hcollect (by decide +kernel) hsupported rfl rfl (by
    unfold Database.Unreferenced
    decide +kernel)

end ImmichDoctor.Consistency
