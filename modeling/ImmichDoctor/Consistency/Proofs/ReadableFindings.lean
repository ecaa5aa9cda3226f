import ImmichDoctor.Consistency.MissingAssetApply
import Mathlib.Data.List.Dedup
/-!
# The texts of a finding

A database holds no surrogates, and what the system decodes for a path or an error has at
most low ones; so the texts of a finding, and the payloads made of them, are readable.
-/

namespace ImmichDoctor.Consistency

open ImmichDoctor.Library
open ImmichDoctor.Library.Json
open ImmichDoctor.Db
open ImmichDoctor.Storage

/-! ## Paths -/

theorem readable_of_mem_splitOn {text part : PyStr} (h : Readable text)
    (hpart : part ∈ text.splitOn 47) : Readable part := by
  induction text generalizing part with
  | nil =>
      rw [List.splitOn_nil, List.mem_singleton] at hpart
      rw [hpart]
      exact readable_nil
  | cons c text ih =>
      obtain ⟨hc, hrest⟩ := List.forall_mem_cons.mp h
      rw [List.splitOn_cons_eq_if_modifyHead] at hpart
      split at hpart
      · rcases List.mem_cons.mp hpart with rfl | hlater
        · exact readable_nil
        · exact ih hrest hlater
      · cases hsplit : text.splitOn 47 with
        | nil => exact absurd hsplit (List.splitOn_ne_nil 47 text)
        | cons first rest =>
            rw [hsplit, List.modifyHead_cons] at hpart
            have hparts : ∀ other ∈ first :: rest, Readable other :=
              fun other hother => ih hrest (hsplit ▸ hother)
            rcases List.mem_cons.mp hpart with rfl | hlater
            · exact List.forall_mem_cons.mpr ⟨hc, hparts first List.mem_cons_self⟩
            · exact hparts part (List.mem_cons_of_mem _ hlater)

/-- No part of the path has a high surrogate. -/
def ReadablePath (path : PurePath) : Prop :=
  ∀ part ∈ path.parts, Readable part

theorem readable_splitRoot {text : PyStr} (h : Readable text) :
    Readable (PurePath.splitRoot text).2 := by
  apply h.of_subset
  intro c hc
  unfold PurePath.splitRoot at hc
  split at hc
  all_goals simp_all

theorem readablePath_parse {text : PyStr} (h : Readable text) :
    ReadablePath (PurePath.parse text) :=
  fun _ hpart => readable_of_mem_splitOn (readable_splitRoot h) (List.mem_filter.mp hpart).1

theorem readable_joined {parts : List PyStr} (h : ∀ part ∈ parts, Readable part) :
    Readable (PurePath.joined parts) := by
  unfold PurePath.joined
  induction parts with
  | nil => exact readable_nil
  | cons part parts ih =>
      obtain ⟨hpart, hparts⟩ := List.forall_mem_cons.mp h
      by_cases hlast : parts = []
      · rw [hlast, List.intercalate_singleton]
        exact hpart
      · rw [List.intercalate_cons_of_ne_nil hlast, readable_append, readable_append]
        exact ⟨⟨hpart, by decide⟩, ih hparts⟩

theorem readable_text {path : PurePath} (h : ReadablePath path) : Readable path.text := by
  unfold PurePath.text
  split
  · decide
  · rw [readable_append]
    refine ⟨?_, readable_joined h⟩
    cases path.anchor <;> decide

theorem readable_forwardSlashes {text : PyStr} (h : Readable text) :
    Readable text.forwardSlashes := by
  intro c hc
  obtain ⟨d, hd, rfl⟩ := List.mem_map.mp hc
  split
  · decide
  · exact h d hd

theorem readable_strip {text : PyStr} (h : Readable text) : Readable text.strip := by
  apply h.of_subset
  intro c hc
  have hreverse := (List.dropWhile_sublist _).subset (List.mem_reverse.mp hc)
  exact (List.dropWhile_sublist _).subset (List.mem_reverse.mp hreverse)

theorem readable_relativeTo {path base : PurePath} {relative : PyStr} (h : ReadablePath path)
    (hrelative : relativeTo path base = some relative) : Readable relative := by
  obtain ⟨parts, hparts, rfl⟩ := Option.map_eq_some_iff.mp hrelative
  have happend := (PurePath.relativeTo?_eq_some_iff.mp hparts).2
  apply readable_joined
  intro part hpart
  exact h part (happend ▸ List.mem_append_right _ hpart)

theorem readablePath_joinRoot {root : PurePath} {relative : PyStr} (hroot : ReadablePath root)
    (hrelative : Readable relative) : ReadablePath (joinRoot root relative) := by
  intro part hpart
  rcases List.mem_append.mp hpart with hbase | hjoined
  · exact hroot part hbase
  · exact readablePath_parse hrelative part hjoined

/-- No configured root has a high surrogate. -/
def ReadableRoots (settings : StorageSettings) : Prop :=
  ∀ root ∈ buildRoots settings, ReadablePath root.rootPath

theorem readablePath_assetPath {settings : StorageSettings} {logicalPath : PyStr}
    (hroots : ReadableRoots settings) (h : Readable logicalPath) :
    ReadablePath (assetPath settings logicalPath) := by
  have hnormalized : ∀ path, normalize logicalPath = some path → ReadablePath path := by
    intro path hpath
    simp only [Storage.normalize] at hpath
    split at hpath
    · cases hpath
    · cases hpath
      exact readablePath_parse (readable_forwardSlashes (readable_strip h))
  have hresolved : ∀ (path base : PurePath) (root : RootMapping) (mode : MappingMode) resolved,
      ReadablePath path → root ∈ buildRoots settings →
      (relativeTo path base).map (root.resolved mode) = some resolved →
      ReadablePath resolved.absolutePath := by
    intro path base root mode resolved hpath hroot hsome
    obtain ⟨relative, hrelative, rfl⟩ := Option.map_eq_some_iff.mp hsome
    exact readablePath_joinRoot (hroots root hroot) (readable_relativeTo hpath hrelative)
  unfold assetPath
  cases hresolve : resolve settings logicalPath with
  | none => exact readablePath_parse h
  | some resolved =>
      obtain ⟨path, hpath, hfound⟩ := Option.bind_eq_some_iff.mp hresolve
      have hreadable := hnormalized path hpath
      cases hruntime : (buildRoots settings).findSome? (RootMapping.resolveRuntime path) with
      | some first =>
          rw [hruntime] at hfound
          cases hfound
          obtain ⟨root, hroot, hsome⟩ := List.exists_of_findSome?_eq_some hruntime
          exact hresolved path _ root _ _ hreadable hroot hsome
      | none =>
          rw [hruntime] at hfound
          obtain ⟨root, hroot, hlegacy⟩ := List.exists_of_findSome?_eq_some hfound
          obtain ⟨base, -, hsome⟩ := Option.bind_eq_some_iff.mp hlegacy
          exact hresolved path base root _ _ hreadable hroot hsome

/-! ## Blockers -/

/-- The names a key has, which a blocker reports. -/
structure ReadableKey (key : ForeignKey) : Prop where
  constraintName : Readable key.constraintName
  schema : Readable key.source.schema
  name : Readable key.source.name
  sourceColumns : ∀ column ∈ key.sourceColumns, Readable column
  targetColumns : ∀ column ∈ key.targetColumns, Readable column

/-- Everything a blocker shows is readable. -/
def ReadableBlocker (blocker : MissingAssetRepairBlocker) : Prop :=
  blocker.toDict.Readable

theorem readable_textItems {texts : List PyStr} (h : ∀ text ∈ texts, Readable text) :
    (textItems texts).Readable := by
  refine JsonValue.itemsReadable_iff.mpr fun item hitem => ?_
  obtain ⟨text, htext, rfl⟩ := List.mem_map.mp hitem
  exact h text htext

theorem readable_field {key : PyStr} {value : JsonValue} {fields : List (PyStr × JsonValue)}
    (hkey : Readable key) (hvalue : value.Readable) (hfields : JsonValue.FieldsReadable fields) :
    JsonValue.FieldsReadable ((key, value) :: fields) :=
  ⟨hkey, hvalue, hfields⟩

theorem readableBlocker_of {blocker : MissingAssetRepairBlocker}
    (hcode : Readable blocker.blockerCode) (hsummary : Readable blocker.summary)
    (hdetails : JsonValue.FieldsReadable blocker.details)
    (haffected : ∀ table ∈ blocker.affectedTables, Readable table)
    (hcovered : ∀ table ∈ blocker.repairCoveredTables, Readable table) :
    ReadableBlocker blocker := by
  have htype : Readable blocker.blockerType.value := by
    cases blocker.blockerType <;> exact readable_py _
  have hseverity : Readable blocker.blockingSeverity.value := by
    cases blocker.blockingSeverity <;> exact readable_py _
  exact readable_field (readable_py _) hcode <| readable_field (readable_py _) htype <|
    readable_field (readable_py _) hsummary <| readable_field (readable_py _) hdetails <|
    readable_field (readable_py _) (readable_textItems haffected) <|
    readable_field (readable_py _) (readable_textItems hcovered) <|
    readable_field (readable_py _) hseverity <| readable_field (readable_py _) trivial trivial

theorem readable_pathBlocker {code summary reason : PyStr} {type : MissingAssetRepairBlockerType}
    (hcode : Readable code) (hsummary : Readable summary) (hreason : Readable reason) :
    ReadableBlocker (pathBlocker code type summary reason) :=
  readableBlocker_of hcode hsummary (readable_field (readable_py _) hreason trivial) nofun nofun

theorem readable_qualifiedName {key : ForeignKey} (h : ReadableKey key) :
    Readable (qualifiedName key.source) :=
  readable_append.mpr ⟨h.schema, List.forall_mem_cons.mpr ⟨by decide, h.name⟩⟩

theorem readable_lookup {rules : List (TableName × PyStr)} {table : TableName} {text : PyStr}
    (hrules : ∀ rule ∈ rules, Readable rule.2) (h : rules.lookup table = some text) :
    Readable text := by
  induction rules with
  | nil => cases h
  | cons rule rules ih =>
      obtain ⟨hrule, hrest⟩ := List.forall_mem_cons.mp hrules
      rw [List.lookup_cons] at h
      split at h
      · cases h
        exact hrule
      · exact ih hrest h

theorem readable_supportedNames : ∀ table ∈ supportedRelationTableNames, Readable table := by
  simp [supportedRelationTableNames]

/-- The reason and the notes of a classified dependency are readable. -/
theorem readable_classified {key : ForeignKey} (h : ReadableKey key) :
    Readable (classifyAssetDependency key).reason ∧
      ∀ note ∈ (classifyAssetDependency key).notes, Readable note := by
  have hnotes : ∀ note ∈ assetDependencyNotes key, Readable note := by
    intro note hnote
    unfold assetDependencyNotes at hnote
    rcases List.mem_append.mp hnote with hmem | hmem
    all_goals
      split at hmem
      · rw [List.mem_singleton.mp hmem]
        exact readable_py _
      · cases hmem
  have hname := readable_qualifiedName h
  have hdefault : Readable (defaultAssetDependencyReason key) := by
    have haction : Readable (deleteActionText key.deleteAction) := by
      cases key.deleteAction <;> exact readable_py _
    unfold defaultAssetDependencyReason
    cases riskClassForDeleteAction key.deleteAction
    all_goals
      simp only [readable_append, readable_py, hname, haction, and_true]
  have hreason : Readable partialMetadataReason := readable_py _
  have hsafe : ∀ rule ∈ safeAnalysisRules, Readable rule.2 := by
    simp [safeAnalysisRules]
  have hblock : ∀ rule ∈ semanticBlockRules, Readable rule.2 := by
    simp [semanticBlockRules]
  have hunsupported : ∀ rule ∈ unsupportedRules, Readable rule.2 := by
    simp [unsupportedRules]
  unfold classifyAssetDependency
  by_cases hsome : assetDependencyNotes key ≠ []
  · rw [if_pos hsome]
    exact ⟨hreason, hnotes⟩
  · rw [if_neg hsome]
    cases hrule : safeAnalysisRules.lookup key.source with
    | some reason => exact ⟨readable_lookup hsafe hrule, by simp⟩
    | none =>
        cases hrule : semanticBlockRules.lookup key.source with
        | some reason => exact ⟨readable_lookup hblock hrule, by simp⟩
        | none =>
            refine ⟨?_, by simp⟩
            show Readable ((unsupportedRules.lookup key.source).getD _)
            cases hrule : unsupportedRules.lookup key.source with
            | none => exact hdefault
            | some reason => exact readable_lookup hunsupported hrule

/-- What a blocker shows of a dependency. -/
structure ReadableDependency (dependency : AssetDependencyState) : Prop where
  key : ReadableKey dependency.key
  reason : Readable dependency.reason
  notes : ∀ note ∈ dependency.notes, Readable note

theorem readable_dependency {db : Postgres} {dependency : AssetDependencyState}
    (h : ∀ key ∈ db.foreignKeys, ReadableKey key)
    (hmem : dependency ∈ deriveAssetDependencies db) : ReadableDependency dependency := by
  have hlisted := (List.perm_insertionSort dependencyOrder _).mem_iff.mp hmem
  obtain ⟨key, hkey, rfl⟩ := List.mem_map.mp hlisted
  have hreadable := h key (List.mem_filter.mp hkey).1
  obtain ⟨hreason, hnotes⟩ := readable_classified hreadable
  exact ⟨(key_classifyAssetDependency key).symm ▸ hreadable, hreason, hnotes⟩

section Dependency

variable {dependency : AssetDependencyState}

theorem readable_riskClass : Readable dependency.riskClass.value := by
  cases dependency.riskClass <;> exact readable_py _

theorem readable_coverageStatus : Readable dependency.coverageStatus.value := by
  cases dependency.coverageStatus <;> exact readable_py _

theorem readable_deleteAction : Readable (deleteActionText dependency.key.deleteAction) := by
  cases dependency.key.deleteAction <;> exact readable_py _

theorem readable_dependencyBlocker (h : ReadableDependency dependency) :
    ReadableBlocker (dependencyBlocker dependency) := by
  have hname := readable_qualifiedName h.key
  have hcolumn : (fkColumn dependency.key.sourceColumns).Readable := by
    unfold fkColumn
    split
    · next column hcolumns =>
        exact h.key.sourceColumns column (hcolumns ▸ List.mem_singleton.mpr rfl)
    · trivial
  apply readableBlocker_of
  · exact readable_append.mpr ⟨readable_py _, hname⟩
  · exact readable_append.mpr ⟨readable_append.mpr ⟨hname, readable_py _⟩, readable_riskClass⟩
  · exact readable_field (readable_py _) h.reason <|
      readable_field (readable_py _) h.key.constraintName <|
        readable_field (readable_py _) hcolumn <|
      readable_field (readable_py _) (readable_textItems h.key.sourceColumns) <|
      readable_field (readable_py _) (readable_textItems h.key.targetColumns) <|
      readable_field (readable_py _) readable_deleteAction <|
      readable_field (readable_py _) readable_riskClass <|
      readable_field (readable_py _) readable_coverageStatus <|
      readable_field (readable_py _) trivial <|
      readable_field (readable_py _) (readable_textItems h.notes) trivial
  · exact List.forall_mem_singleton.mpr hname
  · exact readable_supportedNames

theorem readable_unsupportedForeignKey (h : ReadableDependency dependency) :
    (unsupportedForeignKey dependency).Readable :=
  readable_field (readable_py _) h.key.constraintName <|
    readable_field (readable_py _) (readable_qualifiedName h.key) <|
    readable_field (readable_py _) (readable_textItems h.key.sourceColumns) <|
    readable_field (readable_py _) (readable_textItems h.key.targetColumns) <|
    readable_field (readable_py _) readable_deleteAction <|
    readable_field (readable_py _) readable_riskClass <|
    readable_field (readable_py _) readable_coverageStatus trivial

theorem readable_unsupportedKeysBlocker {dependencies : List AssetDependencyState}
    (h : ∀ dependency ∈ dependencies, ReadableDependency dependency) :
    ReadableBlocker (unsupportedKeysBlocker dependencies) := by
  have hkeys : (JsonValue.list (dependencies.map unsupportedForeignKey)).Readable := by
    refine JsonValue.itemsReadable_iff.mpr fun item hitem => ?_
    obtain ⟨dependency, hmem, rfl⟩ := List.mem_map.mp hitem
    exact readable_unsupportedForeignKey (h dependency hmem)
  have hreason : Readable (py
      "Repair only covers single-column foreign keys that point to public.asset.id.") :=
    readable_py _
  apply readableBlocker_of
  · exact readable_py _
  · exact readable_py _
  · exact readable_field (readable_py _) hreason <| readable_field (readable_py _) hkeys <|
      readable_field (readable_py _) trivial trivial
  · intro table htable
    have hlisted := List.mem_dedup.mp ((List.perm_insertionSort _ _).mem_iff.mp htable)
    obtain ⟨dependency, hmem, rfl⟩ := List.mem_map.mp hlisted
    exact readable_qualifiedName (h dependency hmem).key
  · exact readable_supportedNames

end Dependency

theorem readable_blockingIssues {db : Postgres} (h : ∀ key ∈ db.foreignKeys, ReadableKey key) :
    ∀ blocker ∈ (detectProfile db).blockingIssues, ReadableBlocker blocker := by
  intro blocker hblocker
  have hlisted := (List.perm_insertionSort blockerOrder _).mem_iff.mp hblocker
  rcases List.mem_append.mp hlisted with hdependency | hkeys
  · obtain ⟨dependency, hmem, rfl⟩ := List.mem_map.mp hdependency
    have hderived := (List.mem_filter.mp (List.mem_filter.mp hmem).1).1
    exact readable_dependencyBlocker (readable_dependency h hderived)
  · split at hkeys
    · cases hkeys
    · rw [List.mem_singleton.mp hkeys]
      refine readable_unsupportedKeysBlocker fun dependency hmem => ?_
      have hderived := (List.mem_filter.mp (List.mem_filter.mp hmem).1).1
      exact readable_dependency h hderived

/-! ## Findings -/

/-- What a scan is handed is readable. -/
structure ScanState.Readable (state : ScanState) : Prop where
  roots : ReadableRoots state.storage
  keys : ∀ key ∈ state.schema.foreignKeys, ReadableKey key
  values : ∀ entry ∈ state.assets.entries, ∀ column value,
    entry.row.value column = some value → Json.Readable value.str
  reasons : ∀ path errno reason, state.files path = .osError errno reason → Json.Readable reason

/-- The texts of a finding that go into the fingerprints. -/
structure ReadableFinding (finding : MissingAssetReferenceFinding) : Prop where
  assetId : Readable finding.assetId
  logicalPath : Readable finding.logicalPath
  resolvedPhysicalPath : Readable finding.resolvedPhysicalPath
  blockers : ∀ blocker ∈ finding.repairBlockerDetails, ReadableBlocker blocker

theorem readable_inspectPath {settings : StorageSettings} {files : PurePath → ProbeResult}
    {logicalPath : PyStr}
    (hreasons : ∀ path errno reason, files path = .osError errno reason → Readable reason) :
    ∀ blocker ∈ (inspectPath settings files logicalPath).blockers, ReadableBlocker blocker := by
  have hempty : ReadableBlocker (pathBlocker (py "empty_original_path") .path
      (py "Original path is empty")
      (py "Asset originalPath is empty and cannot be resolved safely.")) :=
    readable_pathBlocker (readable_py _) (readable_py _) (readable_py _)
  have hunmapped : ReadableBlocker (pathBlocker (py "asset_path_unmapped") .path
      (py "Asset path does not map into configured runtime roots")
      (py ("The legacy Immich database path could not be mapped into the configured " ++
        "runtime storage roots."))) :=
    readable_pathBlocker (readable_py _) (readable_py _) (readable_py _)
  have hdenied : ReadableBlocker (pathBlocker (py "asset_path_permission_error") .filesystem
      (py "Asset path cannot be accessed")
      (py "The current process cannot access the asset path.")) :=
    readable_pathBlocker (readable_py _) (readable_py _) (readable_py _)
  unfold inspectPath
  split
  · exact List.forall_mem_singleton.mpr hempty
  · split
    · exact List.forall_mem_singleton.mpr hunmapped
    · cases hprobe : files (assetPath settings logicalPath) with
      | readable => exact nofun
      | fileNotFound => exact nofun
      | permissionDenied => exact List.forall_mem_singleton.mpr hdenied
      | osError errno reason =>
          exact List.forall_mem_singleton.mpr
            (readable_pathBlocker (readable_py _) (readable_py _) (hreasons _ _ _ hprobe))

theorem readable_textOr {value : Option SqlValue} {other : PyStr}
    (hvalue : ∀ v, value = some v → Readable v.str) (hother : Readable other) :
    Readable (textOr value other) := by
  unfold textOr
  split
  all_goals first | exact hother | exact hvalue _ rfl

/-- A row that is listed shows values of a row of the table. -/
theorem value_listed {db : Postgres} {limit offset : Int} {optionalColumns : List PyStr}
    {rows : Rows} (h : listAssetsForMissingReferences db limit offset optionalColumns = some rows)
    {row : Row SqlValue} (hrow : row ∈ rows) {column : PyStr} {value : SqlValue}
    (hvalue : row.value column = some value) :
    ∃ entry ∈ db.entries, entry.row.value column = some value := by
  simp only [listAssetsForMissingReferences] at h
  split at h
  · cases h
  · cases h
    obtain ⟨source, hsource, rfl⟩ := List.mem_map.mp hrow
    have hordered := (List.drop_sublist _ _).subset ((List.take_sublist _ _).subset hsource)
    obtain ⟨entry, hentry, rfl⟩ :=
      List.mem_map.mp ((List.perm_insertionSort _ _).mem_iff.mp hordered)
    obtain ⟨name, -, hfield⟩ := List.mem_map.mp (mem_of_value hvalue)
    obtain ⟨rfl, hfound⟩ := Prod.mk.inj hfield
    exact ⟨entry, (List.mem_filter.mp hentry).1, hfound⟩

theorem readable_finding {batchLimit : Int} {limit : Option Int} {offset : Int}
    {state : ScanState} {findings : List MissingAssetReferenceFinding} (hstate : state.Readable)
    (h : scan batchLimit limit offset state = some findings) :
    ∀ finding ∈ findings, ReadableFinding finding := by
  simp only [scan] at h
  split at h
  · cases h
    exact nofun
  · obtain ⟨rows, hrows, hfindings⟩ := Option.bind_eq_some_iff.mp h
    cases hfindings
    intro finding hfinding
    obtain ⟨row, hrow, rfl⟩ := List.mem_map.mp hfinding
    have hvalue : ∀ column value, row.value column = some value → Readable value.str := by
      intro column value hsome
      obtain ⟨entry, hentry, hsource⟩ := value_listed hrows hrow hsome
      exact hstate.values entry hentry column value hsource
    have hpath : Readable (textOr (row.value (py "originalPath")) []) :=
      readable_textOr (fun value hsome => hvalue _ value hsome) readable_nil
    constructor
    · show Readable (((row.value (py "id")).map SqlValue.str).getD (py "None"))
      cases hid : row.value (py "id") with
      | none => exact readable_py _
      | some value => exact hvalue _ value hid
    · exact hpath
    · show Readable (if _ then _ else _)
      split
      · exact readable_nil
      · exact readable_text (readablePath_assetPath hstate.roots hpath)
    · intro blocker hblocker
      rcases List.mem_append.mp hblocker with hinspected | hissue
      · exact readable_inspectPath hstate.reasons blocker hinspected
      · exact readable_blockingIssues hstate.keys blocker hissue

/-! ## Payloads -/

theorem readable_dbFields {finding : MissingAssetReferenceFinding} (h : ReadableFinding finding) :
    (dbFields finding).Readable := by
  have hstatus : Readable finding.status.value := by
    cases finding.status <;> exact readable_py _
  have hreadiness : Readable finding.repairReadiness.value := by
    cases finding.repairReadiness <;> exact readable_py _
  exact readable_field (readable_py _) h.assetId <| readable_field (readable_py _) hstatus <|
    readable_field (readable_py _) h.logicalPath <|
      readable_field (readable_py _) hreadiness trivial

theorem readable_fileFields {finding : MissingAssetReferenceFinding}
    (h : ReadableFinding finding) : (fileFields finding).Readable := by
  have hblockers : (JsonValue.list (finding.repairBlockerDetails.map (·.toDict))).Readable := by
    refine JsonValue.itemsReadable_iff.mpr fun item hitem => ?_
    obtain ⟨blocker, hmem, rfl⟩ := List.mem_map.mp hitem
    exact h.blockers blocker hmem
  exact readable_field (readable_py _) h.assetId <|
    readable_field (readable_py _) h.resolvedPhysicalPath <|
    readable_field (readable_py _) hblockers trivial

theorem readable_scope {scope : MissingAssetScope} (h : ∀ id ∈ scope.assetIds, Readable id) :
    scope.toDict.Readable := by
  have hdomain : Readable (py "consistency.missing_asset_references") := readable_py _
  have haction : Readable (py "preview_remove") := readable_py _
  exact readable_field (readable_py _) hdomain <| readable_field (readable_py _) haction <|
    readable_field (readable_py _) (readable_textItems h) <|
      readable_field (readable_py _) trivial <|
    readable_field (readable_py _) trivial <| readable_field (readable_py _) trivial trivial

end ImmichDoctor.Consistency
