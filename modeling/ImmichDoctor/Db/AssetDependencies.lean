import ImmichDoctor.Db.AssetRecords
/-!
# Dependencies on an asset

`DatabaseStateDetector._derive_asset_dependencies`: the foreign keys that point at
`public.asset`, and which of them forbid that an asset is deleted.
-/

namespace ImmichDoctor.Db

open ImmichDoctor.Library

inductive AssetDependencyRiskClass
  | cascadeLoss
  | setNullMutation
  | restrictOrNoActionBlock
  | unknown
  deriving DecidableEq

def AssetDependencyRiskClass.value : AssetDependencyRiskClass → PyStr
  | cascadeLoss => py "cascade_loss"
  | setNullMutation => py "set_null_mutation"
  | restrictOrNoActionBlock => py "restrict_or_no_action_block"
  | unknown => py "unknown"

inductive AssetDependencyCoverageStatus
  | coveredSafeForAnalysis
  | coveredBlockingForApply
  | unsupportedBlocking
  deriving DecidableEq

def AssetDependencyCoverageStatus.value : AssetDependencyCoverageStatus → PyStr
  | coveredSafeForAnalysis => py "covered_safe_for_analysis"
  | coveredBlockingForApply => py "covered_blocking_for_apply"
  | unsupportedBlocking => py "unsupported_blocking"

/-- The name `LIST_TABLE_FOREIGN_KEYS_QUERY` has for an action. -/
def deleteActionText : DeleteAction → PyStr
  | .noAction => py "NO ACTION"
  | .restrict => py "RESTRICT"
  | .cascade => py "CASCADE"
  | .setNull => py "SET NULL"
  | .setDefault => py "SET DEFAULT"

structure AssetDependencyState where
  key : ForeignKey
  riskClass : AssetDependencyRiskClass
  coverageStatus : AssetDependencyCoverageStatus
  blocksApply : Bool
  reason : PyStr
  notes : List PyStr
  deriving DecidableEq

/-! ## Rules -/

/-- `ASSET_DEPENDENCY_SAFE_ANALYSIS_RULES`. -/
def safeAnalysisRules : List (TableName × PyStr) :=
  [(⟨py "public", py "album_asset"⟩,
      py "Album membership rows are already captured in the current read-only dependency model."),
    (⟨py "public", py "asset_file"⟩,
      py ("Derived asset file rows are already captured in the current read-only dependency " ++
        "model.")),
    (⟨py "public", py "asset_job_status"⟩,
      py "Asset job status rows are already captured in the current read-only dependency model.")]

/-- `ASSET_DEPENDENCY_SEMANTIC_BLOCK_RULES`. -/
def semanticBlockRules : List (TableName × PyStr) :=
  [(⟨py "public", py "activity"⟩,
      py "Deleting an asset would cascade activity rows linked to albums or users."),
    (⟨py "public", py "album"⟩,
      py "Deleting an asset would mutate album thumbnail references via SET NULL semantics."),
    (⟨py "public", py "asset"⟩,
      py "Deleting an asset would mutate sibling asset rows via livePhotoVideoId."),
    (⟨py "public", py "memory_asset"⟩,
      py ("Deleting an asset would cascade memory membership rows and change memory " ++
        "composition.")),
    (⟨py "public", py "shared_link_asset"⟩,
      py "Deleting an asset would cascade shared-link membership rows."),
    (⟨py "public", py "stack"⟩,
      py "Deleting a primary stack asset can be blocked by NO ACTION semantics."),
    (⟨py "public", py "tag_asset"⟩,
      py "Deleting an asset would cascade tag membership rows.")]

/-- `ASSET_DEPENDENCY_UNSUPPORTED_RULES`. -/
def unsupportedRules : List (TableName × PyStr) :=
  [(⟨py "public", py "asset_edit"⟩,
      py "Deleting an asset would cascade edit rows, but apply semantics are not modeled yet."),
    (⟨py "public", py "asset_exif"⟩,
      py "Deleting an asset would cascade EXIF rows, but apply semantics are not modeled yet."),
    (⟨py "public", py "asset_face"⟩,
      py "Deleting an asset would cascade face rows, but apply semantics are not modeled yet."),
    (⟨py "public", py "asset_metadata"⟩,
      py ("Deleting an asset would cascade metadata rows, but apply semantics are not modeled " ++
        "yet.")),
    (⟨py "public", py "asset_ocr"⟩,
      py "Deleting an asset would cascade OCR rows, but apply semantics are not modeled yet."),
    (⟨py "public", py "ocr_search"⟩,
      py ("Deleting an asset would cascade OCR search rows, but apply semantics are not " ++
        "modeled yet.")),
    (⟨py "public", py "smart_search"⟩,
      py ("Deleting an asset would cascade smart-search rows, but apply semantics are not " ++
        "modeled yet."))]

/-! ## Classification -/

/-- `_risk_class_for_delete_action`. -/
def riskClassForDeleteAction : DeleteAction → AssetDependencyRiskClass
  | .cascade => .cascadeLoss
  | .setNull => .setNullMutation
  | .setDefault => .setNullMutation
  | .noAction => .restrictOrNoActionBlock
  | .restrict => .restrictOrNoActionBlock

/-- `_default_asset_dependency_reason`. -/
def defaultAssetDependencyReason (key : ForeignKey) : PyStr :=
  let sourceName := qualifiedName key.source
  match riskClassForDeleteAction key.deleteAction with
  | .cascadeLoss =>
      py "Deleting an asset would cascade rows in " ++ sourceName ++
        py ", but apply semantics are not modeled yet."
  | .setNullMutation =>
      py "Deleting an asset would mutate rows in " ++ sourceName ++ py " through " ++
        deleteActionText key.deleteAction ++ py " semantics."
  | .restrictOrNoActionBlock =>
      py "Deleting an asset can be blocked by " ++ sourceName ++
        py " because the foreign key uses " ++ deleteActionText key.deleteAction ++
        py " semantics."
  | .unknown =>
      py "Dependency semantics for " ++ sourceName ++
        py " are not fully known from the current metadata."

/-- The notes of `_classify_asset_dependency`. -/
def assetDependencyNotes (key : ForeignKey) : List PyStr :=
  (if key.sourceColumns.length ≠ 1 then
    [py "Only single-column asset references are currently modeled precisely."] else []) ++
    (if key.targetColumns ≠ [py "id"] then
      [py "The reference target is not the canonical public.asset.id key."] else [])

/-- The reason of a dependency that has notes. -/
def partialMetadataReason : PyStr :=
  py "Asset dependency metadata is only partially introspected, so apply remains blocked."

/-- `_classify_asset_dependency`. -/
def classifyAssetDependency (key : ForeignKey) : AssetDependencyState :=
  if assetDependencyNotes key ≠ [] then
    { key := key
      riskClass := .unknown
      coverageStatus := .unsupportedBlocking
      blocksApply := true
      reason := partialMetadataReason
      notes := assetDependencyNotes key }
  else
    match safeAnalysisRules.lookup key.source with
    | some reason =>
        { key := key
          riskClass := riskClassForDeleteAction key.deleteAction
          coverageStatus := .coveredSafeForAnalysis
          blocksApply := false
          reason := reason
          notes := [] }
    | none =>
        match semanticBlockRules.lookup key.source with
        | some reason =>
            { key := key
              riskClass := riskClassForDeleteAction key.deleteAction
              coverageStatus := .coveredBlockingForApply
              blocksApply := true
              reason := reason
              notes := [] }
        | none =>
            { key := key
              riskClass := riskClassForDeleteAction key.deleteAction
              coverageStatus := .unsupportedBlocking
              blocksApply := true
              reason := (unsupportedRules.lookup key.source).getD (defaultAssetDependencyReason key)
              notes := [] }

/-- The order `(qualified_name, constraint_name)`. -/
def dependencyOrder (a b : AssetDependencyState) : Prop :=
  qualifiedName a.key.source < qualifiedName b.key.source ∨
    qualifiedName a.key.source = qualifiedName b.key.source ∧
      a.key.constraintName ≤ b.key.constraintName

instance : DecidableRel dependencyOrder :=
  fun a b => inferInstanceAs (Decidable (qualifiedName a.key.source < qualifiedName b.key.source ∨
    qualifiedName a.key.source = qualifiedName b.key.source ∧
      a.key.constraintName ≤ b.key.constraintName))

/-- `_derive_asset_dependencies`. -/
def deriveAssetDependencies (db : Postgres) : List AssetDependencyState :=
  ((db.foreignKeys.filter (·.target = assetTable)).map classifyAssetDependency).insertionSort
    dependencyOrder

theorem key_classifyAssetDependency (key : ForeignKey) :
    (classifyAssetDependency key).key = key := by
  unfold classifyAssetDependency
  split
  · rfl
  · split
    · rfl
    · split <;> rfl

/-- A key that does not block is a single column of one of the covered tables. -/
theorem of_blocksApply_eq_false {key : ForeignKey}
    (h : (classifyAssetDependency key).blocksApply = false) :
    (∃ column, key.sourceColumns = [column]) ∧ key.targetColumns = [py "id"] ∧
      (safeAnalysisRules.lookup key.source).isSome = true ∧
      (classifyAssetDependency key).coverageStatus = .coveredSafeForAnalysis := by
  unfold classifyAssetDependency at h ⊢
  by_cases hnotes : assetDependencyNotes key ≠ []
  · rw [if_pos hnotes] at h
    cases h
  · rw [if_neg hnotes] at h ⊢
    simp only [ne_eq, not_not, assetDependencyNotes, List.append_eq_nil_iff] at hnotes
    have hsource : key.sourceColumns.length = 1 := by
      by_contra hlength
      rw [if_pos hlength] at hnotes
      cases hnotes.1
    have htarget : key.targetColumns = [py "id"] := by
      by_contra hcolumns
      rw [if_pos hcolumns] at hnotes
      cases hnotes.2
    cases hsafe : safeAnalysisRules.lookup key.source with
    | some reason => exact ⟨List.length_eq_one_iff.mp hsource, htarget, rfl, rfl⟩
    | none =>
        rw [hsafe] at h
        cases hblock : semanticBlockRules.lookup key.source with
        | some reason =>
            rw [hblock] at h
            cases h
        | none =>
            rw [hblock] at h
            cases h

end ImmichDoctor.Db
