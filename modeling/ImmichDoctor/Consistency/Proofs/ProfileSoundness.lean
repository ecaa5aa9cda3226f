import ImmichDoctor.Consistency.MissingAssetScan
import ImmichDoctor.Db.SchemaDetection
/-!
# What a profile without blocking issues says

A key that the detection sees is either covered by a relation of the profile or named by a
blocking issue. The detection does not see the keys of tables that its role may not access,
though a delete follows them all the same.
-/

namespace ImmichDoctor.Consistency

open ImmichDoctor.Library
open ImmichDoctor.Db

/-! ## Covered keys -/

/-- A single column of a table of the safe set that points to the id. -/
structure SafeKey (key : ForeignKey) : Prop where
  source : ∃ column, key.sourceColumns = [column]
  target : key.targetColumns = [py "id"]
  table : key.source ∈ safeAnalysisRules.map (·.1)

/-- The relation of a key with a single column is in the profile. -/
def InRelations (profile : MissingAssetProfile) (key : ForeignKey) : Prop :=
  ∃ column, key.sourceColumns = [column] ∧ ⟨key.source, column⟩ ∈ profile.relations

theorem isSome_lookup_iff {α β : Type*} [DecidableEq α] {a : α} {l : List (α × β)} :
    (l.lookup a).isSome = true ↔ a ∈ l.map (·.1) := by
  rw [← Option.ne_none_iff_isSome, ne_eq, List.lookup_eq_none_iff]
  simp

/-- A key is classified as covered exactly when it is safe. -/
theorem coverageStatus_eq_covered_iff {key : ForeignKey} :
    (classifyAssetDependency key).coverageStatus = .coveredSafeForAnalysis ↔ SafeKey key := by
  constructor
  · intro h
    have hblocks : (classifyAssetDependency key).blocksApply = false := by
      unfold classifyAssetDependency at h ⊢
      split
      · next hnotes =>
          rw [if_pos hnotes] at h
          cases h
      · next hnotes =>
          rw [if_neg hnotes] at h
          cases hsafe : safeAnalysisRules.lookup key.source with
          | some reason => rfl
          | none =>
              rw [hsafe] at h
              cases hblock : semanticBlockRules.lookup key.source with
              | some reason =>
                  rw [hblock] at h
                  cases h
              | none =>
                  rw [hblock] at h
                  cases h
    obtain ⟨hsource, htarget, htable, -⟩ := of_blocksApply_eq_false hblocks
    exact ⟨hsource, htarget, isSome_lookup_iff.mp htable⟩
  · rintro ⟨⟨column, hsource⟩, htarget, htable⟩
    obtain ⟨reason, hreason⟩ := Option.isSome_iff_exists.mp (isSome_lookup_iff.mpr htable)
    have hnotes : assetDependencyNotes key = [] := by
      simp [assetDependencyNotes, hsource, htarget]
    rw [classifyAssetDependency, if_neg (not_not_intro hnotes), hreason]

/-- The relation of a key that is covered. -/
theorem coveredRelation_eq_some_iff {key : ForeignKey} {relation : AssetReferenceRelation} :
    coveredRelation (classifyAssetDependency key) = some relation ↔
      SafeKey key ∧ key.source = relation.table ∧ key.sourceColumns = [relation.columnName] := by
  constructor
  · intro h
    unfold coveredRelation at h
    split at h
    · next column hstatus hcolumns =>
        rw [key_classifyAssetDependency] at h hcolumns
        split at h
        · cases h
          exact ⟨coverageStatus_eq_covered_iff.mp hstatus, rfl, hcolumns⟩
        · cases h
    · cases h
  · rintro ⟨hsafe, htable, hcolumns⟩
    have hstatus := coverageStatus_eq_covered_iff.mpr hsafe
    unfold coveredRelation
    simp only [hstatus, key_classifyAssetDependency, hcolumns, hsafe.target, if_true, htable]

theorem coveredRelation_eq_none_iff {key : ForeignKey} :
    coveredRelation (classifyAssetDependency key) = none ↔ ¬ SafeKey key := by
  rw [← not_iff_not, not_not, ← ne_eq, Option.ne_none_iff_exists']
  constructor
  · rintro ⟨relation, hrelation⟩
    exact (coveredRelation_eq_some_iff.mp hrelation).1
  · intro hsafe
    obtain ⟨column, hcolumn⟩ := hsafe.source
    exact ⟨⟨key.source, column⟩, coveredRelation_eq_some_iff.mpr ⟨hsafe, rfl, hcolumn⟩⟩

/-- What is not covered blocks the apply. -/
theorem blocksApply_of_not_safe {key : ForeignKey} (h : ¬ SafeKey key) :
    (classifyAssetDependency key).blocksApply = true := by
  by_contra hblocks
  obtain ⟨hsource, htarget, htable, -⟩ :=
    of_blocksApply_eq_false (Bool.eq_false_of_not_eq_true hblocks)
  exact h ⟨hsource, htarget, isSome_lookup_iff.mp htable⟩

/-! ## The profile -/

section Profile

variable {db : Postgres}

theorem mem_deriveAssetDependencies {dependency : AssetDependencyState} :
    dependency ∈ deriveAssetDependencies db ↔ ∃ key ∈ db.foreignKeys, key.target = assetTable ∧
      classifyAssetDependency key = dependency := by
  rw [deriveAssetDependencies, (List.perm_insertionSort _ _).mem_iff, List.mem_map]
  simp only [List.mem_filter, decide_eq_true_eq, and_assoc]

/-- There is no blocking issue exactly when all keys that the profile is derived from are
safe. -/
theorem blockingIssues_eq_nil_iff :
    (detectProfile db).blockingIssues = [] ↔
      ∀ key ∈ db.foreignKeys, key.target = assetTable → SafeKey key := by
  have hissues : ∀ blocker, blocker ∈ (detectProfile db).blockingIssues ↔ _ :=
    fun blocker => (List.perm_insertionSort blockerOrder _).mem_iff
  constructor
  · intro hnil key hkey htarget
    by_contra hunsafe
    have hderived := mem_deriveAssetDependencies.mpr ⟨key, hkey, htarget, rfl⟩
    have huncovered : (coveredRelation (classifyAssetDependency key)).isNone = true := by
      rw [coveredRelation_eq_none_iff.mpr hunsafe]
      rfl
    have hblocker := (hissues (dependencyBlocker (classifyAssetDependency key))).mpr
      (List.mem_append_left _ (List.mem_map_of_mem (List.mem_filter.mpr
        ⟨List.mem_filter.mpr ⟨hderived, huncovered⟩, blocksApply_of_not_safe hunsafe⟩)))
    rw [hnil] at hblocker
    cases hblocker
  · intro hsafe
    have huncovered : (deriveAssetDependencies db).filter
        (fun dependency => (coveredRelation dependency).isNone) = [] := by
      rw [List.filter_eq_nil_iff]
      intro dependency hmem
      obtain ⟨key, hkey, htarget, rfl⟩ := mem_deriveAssetDependencies.mp hmem
      rw [Option.isNone_iff_eq_none, coveredRelation_eq_none_iff]
      exact not_not_intro (hsafe key hkey htarget)
    apply List.eq_nil_iff_forall_not_mem.mpr
    intro blocker hblocker
    have hlisted := (hissues blocker).mp hblocker
    simp only [huncovered, List.filter_nil, List.map_nil, List.isEmpty_nil, if_true,
      List.append_nil] at hlisted
    cases hlisted

/-- The relations of a profile are those of the safe keys. -/
theorem mem_relations_iff {relation : AssetReferenceRelation} :
    relation ∈ (detectProfile db).relations ↔ ∃ key ∈ db.foreignKeys, key.target = assetTable ∧
      SafeKey key ∧ key.source = relation.table ∧ key.sourceColumns = [relation.columnName] := by
  have hlisted : relation ∈ (detectProfile db).relations ↔
      relation ∈ (deriveAssetDependencies db).filterMap coveredRelation :=
    (List.perm_insertionSort _ _).mem_iff
  rw [hlisted, List.mem_filterMap]
  constructor
  · rintro ⟨dependency, hmem, hrelation⟩
    obtain ⟨key, hkey, htarget, rfl⟩ := mem_deriveAssetDependencies.mp hmem
    exact ⟨key, hkey, htarget, coveredRelation_eq_some_iff.mp hrelation⟩
  · rintro ⟨key, hkey, htarget, hrelation⟩
    exact ⟨_, mem_deriveAssetDependencies.mpr ⟨key, hkey, htarget, rfl⟩,
      coveredRelation_eq_some_iff.mpr hrelation⟩

end Profile

/-! ## Keys that are not seen -/

/-- What a profile says of the keys of the database into `public.asset`. -/
structure SoundProfile (db : Postgres) (profile : MissingAssetProfile) : Prop where
  covered : profile.blockingIssues = [] → ∀ key ∈ db.foreignKeys, key.target = assetTable →
    SafeKey key ∧ InRelations profile key
  blocked : ∀ key ∈ db.foreignKeys, key.target = assetTable → ¬ SafeKey key →
    profile.blockingIssues ≠ []

/-- The profile is sound exactly when all tables with a key into `public.asset` are listed, or
one of the listed ones blocks anyway. -/
theorem soundProfile_iff (access : Access) (db : Postgres) :
    SoundProfile db (detectProfile (detectedSchema access db)) ↔
      (∀ key ∈ db.foreignKeys, key.target = assetTable → key.source ∈ listTables access db) ∨
        ∃ key ∈ db.foreignKeys, key.target = assetTable ∧ key.source ∈ listTables access db ∧
          ¬ SafeKey key := by
  have hnil : (detectProfile (detectedSchema access db)).blockingIssues = [] ↔
      ∀ key ∈ db.foreignKeys, key.source ∈ listTables access db → key.target = assetTable →
        SafeKey key := by
    rw [blockingIssues_eq_nil_iff]
    simp only [mem_foreignKeys_detectedSchema, and_imp]
  constructor
  · intro hsound
    by_cases hunsafe : ∃ key ∈ db.foreignKeys, key.target = assetTable ∧
        key.source ∈ listTables access db ∧ ¬ SafeKey key
    · exact .inr hunsafe
    · left
      intro key hkey htarget
      have hquiet := hnil.mpr fun other hother hlisted hassets => by
        by_contra hother'
        exact hunsafe ⟨other, hother, hassets, hlisted, hother'⟩
      obtain ⟨-, column, -, hrelation⟩ := hsound.covered hquiet key hkey htarget
      obtain ⟨seen, hseen, -, -, hsource, -⟩ := mem_relations_iff.mp hrelation
      rw [← show seen.source = key.source from hsource]
      exact (mem_foreignKeys_detectedSchema.mp hseen).2
  · rintro (hall | ⟨other, hmem, htarget, hlisted, hunsafe⟩)
    · constructor
      · intro hquiet key hkey htarget
        have hlisted := hall key hkey htarget
        have hsafe := hnil.mp hquiet key hkey hlisted htarget
        obtain ⟨column, hcolumn⟩ := hsafe.source
        exact ⟨hsafe, column, hcolumn, mem_relations_iff.mpr
          ⟨key, mem_foreignKeys_detectedSchema.mpr ⟨hkey, hlisted⟩, htarget, hsafe, rfl, hcolumn⟩⟩
      · intro key hkey htarget hunsafe hquiet
        exact hunsafe (hnil.mp hquiet key hkey (hall key hkey htarget) htarget)
    · have hissue : (detectProfile (detectedSchema access db)).blockingIssues ≠ [] :=
        fun hquiet => hunsafe (hnil.mp hquiet other hmem hlisted htarget)
      exact ⟨fun hquiet => absurd hquiet hissue, fun _ _ _ _ => hissue⟩

/-! ## A table of another role -/

def pluginTable : TableName :=
  ⟨py "plugin", py "asset_note"⟩

/-- A table that goes with its assets. -/
def pluginSchema : Postgres where
  tables := [(assetTable, [py "id", py "originalPath"]), (pluginTable, [py "id", py "assetId"])]
  uniqueKeys := [(assetTable, [py "id"])]
  foreignKeys := [⟨py "asset_note_assetId_fkey", pluginTable, [py "assetId"], assetTable, [py "id"],
    .cascade⟩]
  entries := []
  identified := List.nodup_nil

/-- The role of the connection has no privilege on the table. -/
def immichAccess : Access :=
  ⟨fun table => table.schema = py "public", fun table _ => table.schema = py "public"⟩

/-- Nothing blocks, and the key of the table is in no relation. -/
theorem inaccessible_table_unseen :
    ¬ ∀ (access : Access) (db : Postgres),
      SoundProfile db (detectProfile (detectedSchema access db)) := by
  intro h
  have hquiet : (detectProfile (detectedSchema immichAccess pluginSchema)).blockingIssues = [] := by
    decide
  obtain ⟨-, column, -, hrelation⟩ := (h immichAccess pluginSchema).covered hquiet _
    (List.mem_singleton.mpr rfl) rfl
  have hnone : (detectProfile (detectedSchema immichAccess pluginSchema)).relations = [] := by
    decide
  rw [hnone] at hrelation
  cases hrelation

end ImmichDoctor.Consistency
