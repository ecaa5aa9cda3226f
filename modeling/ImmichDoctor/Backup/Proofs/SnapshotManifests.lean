import ImmichDoctor.Backup.Snapshots
import ImmichDoctor.Library.OptionLists
/-!
# Snapshot manifests

What is returned for a snapshot and what is loaded later come from the same fields, but for the
manifest path: the file keeps the one the snapshot had before.
-/

namespace ImmichDoctor.Backup

open ImmichDoctor.Library

/-! ## What is read back -/

def BackupTarget.reread (target : BackupTarget) : BackupTarget where
  kind := Json.reread target.kind
  reference := Json.reread target.reference
  displayName := Json.reread target.displayName
  writableRequired := target.writableRequired

def BackupArtifact.reread (artifact : BackupArtifact) : BackupArtifact where
  name := Json.reread artifact.name
  kind := Json.reread artifact.kind
  target := artifact.target.reread
  relativePath := .parse (Json.reread artifact.relativePath.text)
  sizeBytes := artifact.sizeBytes
  checksum := artifact.checksum.map Json.reread

/-- A snapshot as its manifest gives it back, with the time in UTC. -/
def BackupSnapshot.reread (snapshot : BackupSnapshot) (createdAt : DateTime) : BackupSnapshot where
  snapshotId := Json.reread snapshot.snapshotId
  kind := snapshot.kind
  createdAt := createdAt
  sourceFingerprint := Json.reread snapshot.sourceFingerprint
  coverage := snapshot.coverage
  fileArtifacts := snapshot.fileArtifacts.map BackupArtifact.reread
  dbArtifact := snapshot.dbArtifact.map BackupArtifact.reread
  manifestPath := .parse (Json.reread snapshot.manifestPath.text)
  verified := snapshot.verified
  repairRunId := snapshot.repairRunId.map Json.reread

section Payloads

@[simp] theorem textOf_str (text : PyStr) : textOf (.str text) = some text := rfl

@[simp] theorem boolOf_bool (value : Bool) : boolOf (.bool value) = some value := rfl

@[simp] theorem optionalTextOf_ofText? (text : Option PyStr) :
    optionalTextOf (.ofText? text) = some text := by
  cases text <;> rfl

theorem reread_ofText? (text : Option PyStr) :
    (JsonValue.ofText? text).reread = .ofText? (text.map Json.reread) := by
  cases text <;> rfl

theorem reread_ofInt? (value : Option Int) :
    (JsonValue.ofInt? value).reread = .ofInt? value := by
  cases value <;> rfl

theorem target_fromDict (target : BackupTarget) :
    BackupTarget.fromDict target.toDict = some target := rfl

theorem target_reread (target : BackupTarget) : target.toDict.reread = target.reread.toDict := rfl

/-- The dictionary of an artifact whose path has the text. -/
def artifactPayload (artifact : BackupArtifact) (path : PyStr) : JsonValue :=
  .obj [
    (py "name", .str artifact.name),
    (py "kind", .str artifact.kind),
    (py "target", artifact.target.toDict),
    (py "relative_path", .str path),
    (py "size_bytes", .ofInt? artifact.sizeBytes),
    (py "checksum", .ofText? artifact.checksum)]

theorem artifact_fromPayload (artifact : BackupArtifact) (path : PyStr) :
    BackupArtifact.fromDict (artifactPayload artifact path) =
      some { artifact with relativePath := .parse path } := by
  have hname : (artifactPayload artifact path).field? (py "name") =
      some (.str artifact.name) := rfl
  have hkind : (artifactPayload artifact path).field? (py "kind") =
      some (.str artifact.kind) := rfl
  have htarget : (artifactPayload artifact path).field? (py "target") =
      some artifact.target.toDict := rfl
  have hpath : (artifactPayload artifact path).field? (py "relative_path") =
      some (.str path) := rfl
  have hsize : (artifactPayload artifact path).field? (py "size_bytes") =
      some (.ofInt? artifact.sizeBytes) := rfl
  have hchecksum : (artifactPayload artifact path).field? (py "checksum") =
      some (.ofText? artifact.checksum) := rfl
  simp only [BackupArtifact.fromDict, hname, hkind, htarget, hpath, hsize, hchecksum,
    Option.bind_eq_bind, Option.bind_some, Option.getD_some, textOf_str, target_fromDict,
    JsonValue.toOptionalInt?_ofInt?, optionalTextOf_ofText?]
  rfl

theorem artifact_fromDict (artifact : BackupArtifact) :
    BackupArtifact.fromDict artifact.toDict = some artifact := by
  have hread := artifact_fromPayload artifact artifact.relativePath.text
  rwa [PurePath.parse_text] at hread

theorem artifact_fromReread (artifact : BackupArtifact) :
    BackupArtifact.fromDict artifact.toDict.reread = some artifact.reread := by
  have hpayload : artifact.toDict.reread =
      artifactPayload artifact.reread (Json.reread artifact.relativePath.text) := by
    rw [artifactPayload, BackupArtifact.reread, ← target_reread, ← reread_ofText?]
    simp only [BackupArtifact.toDict, JsonValue.reread, JsonValue.rereadFields, Json.reread_py,
      reread_ofInt?]
  rw [hpayload, artifact_fromPayload]
  rfl

/-- The dictionary of a snapshot with the texts of its parts. -/
def snapshotPayload (snapshot : BackupSnapshot) (createdAt path : PyStr)
    (fileArtifacts : List JsonValue) (dbArtifact : JsonValue) : JsonValue :=
  .obj [
    (py "snapshot_id", .str snapshot.snapshotId),
    (py "kind", .str snapshot.kind.value),
    (py "created_at", .str createdAt),
    (py "source_fingerprint", .str snapshot.sourceFingerprint),
    (py "coverage", .str snapshot.coverage.value),
    (py "file_artifacts", .list fileArtifacts),
    (py "db_artifact", dbArtifact),
    (py "manifest_path", .str path),
    (py "verified", .bool snapshot.verified),
    (py "repair_run_id", .ofText? snapshot.repairRunId)]

theorem kind_of_value (kind : SnapshotKind) : SnapshotKind.of? kind.value = some kind := by
  cases kind <;> decide

theorem coverage_of_value (coverage : SnapshotCoverage) :
    SnapshotCoverage.of? coverage.value = some coverage := by
  cases coverage <;> decide

theorem snapshot_fromPayload (localOffset : CivilTime → Option UtcOffset)
    (snapshot : BackupSnapshot) (time : DateTime) (path : PyStr) {files : List JsonValue}
    {db : JsonValue} (hfiles : files.mapM BackupArtifact.fromDict = some snapshot.fileArtifacts)
    (hdb : dbArtifactOf db = some snapshot.dbArtifact) :
    BackupSnapshot.fromDict localOffset (snapshotPayload snapshot time.isoformat path files db) =
      (time.astimezoneUtc localOffset).map fun createdAt =>
        { snapshot with createdAt, manifestPath := .parse path } := by
  generalize hpayload : snapshotPayload snapshot time.isoformat path files db = payload
  have hsnapshotId : payload.field? (py "snapshot_id") = some (.str snapshot.snapshotId) := by
    subst hpayload
    rfl
  have hkind : payload.field? (py "kind") = some (.str snapshot.kind.value) := by
    subst hpayload
    rfl
  have hcreatedAt : payload.field? (py "created_at") = some (.str time.isoformat) := by
    subst hpayload
    rfl
  have hfingerprint : payload.field? (py "source_fingerprint") =
      some (.str snapshot.sourceFingerprint) := by
    subst hpayload
    rfl
  have hcoverage : payload.field? (py "coverage") = some (.str snapshot.coverage.value) := by
    subst hpayload
    rfl
  have hfileArtifacts : payload.field? (py "file_artifacts") = some (.list files) := by
    subst hpayload
    rfl
  have hdbArtifact : payload.field? (py "db_artifact") = some db := by
    subst hpayload
    rfl
  have hpath : payload.field? (py "manifest_path") = some (.str path) := by
    subst hpayload
    rfl
  have hverified : payload.field? (py "verified") = some (.bool snapshot.verified) := by
    subst hpayload
    rfl
  have hrepairRunId : payload.field? (py "repair_run_id") =
      some (.ofText? snapshot.repairRunId) := by
    subst hpayload
    rfl
  simp only [BackupSnapshot.fromDict, hsnapshotId, hkind, hcreatedAt, hfingerprint, hcoverage,
    hfileArtifacts, hdbArtifact, hpath, hverified, hrepairRunId, Option.bind_eq_bind,
    Option.bind_some, Option.getD_some, textOf_str, boolOf_bool, optionalTextOf_ofText?,
    kind_of_value, coverage_of_value, DateTime.fromisoformat_isoformat, artifactItems, hfiles, hdb]
  cases time.astimezoneUtc localOffset with
  | none => rfl
  | some createdAt => rfl

end Payloads

/-! ## Persisting and loading -/

section Stores

variable {store : SnapshotStore} {files : ManifestFiles} {snapshot other : BackupSnapshot}

theorem mapM_fromDict (artifacts : List BackupArtifact) :
    (artifacts.map BackupArtifact.toDict).mapM BackupArtifact.fromDict = some artifacts := by
  rw [mapM_eq_some_iff, List.map_map]
  exact List.map_congr_left fun artifact _ => artifact_fromDict artifact

theorem mapM_fromReread (artifacts : List BackupArtifact) :
    (JsonValue.rereadItems (artifacts.map BackupArtifact.toDict)).mapM BackupArtifact.fromDict =
      some (artifacts.map BackupArtifact.reread) := by
  rw [JsonValue.rereadItems_eq_map, mapM_eq_some_iff, List.map_map, List.map_map, List.map_map]
  exact List.map_congr_left fun artifact _ => artifact_fromReread artifact

/-- What is returned: the snapshot in its place. -/
theorem fromDict_returned (localOffset : CivilTime → Option UtcOffset)
    (snapshot : BackupSnapshot) (path : PurePath) :
    BackupSnapshot.fromDict localOffset
        (snapshot.toDict.withField (py "manifest_path") (.str path.text)) =
      (snapshot.createdAt.astimezoneUtc localOffset).map fun createdAt =>
        { snapshot with createdAt, manifestPath := path } := by
  have hpayload : snapshot.toDict.withField (py "manifest_path") (.str path.text) =
      snapshotPayload snapshot snapshot.createdAt.isoformat path.text
        (snapshot.fileArtifacts.map BackupArtifact.toDict)
        (snapshot.dbArtifact.elim .null BackupArtifact.toDict) := rfl
  rw [hpayload, snapshot_fromPayload localOffset snapshot snapshot.createdAt path.text
    (mapM_fromDict _), PurePath.parse_text]
  cases snapshot.dbArtifact with
  | none => rfl
  | some artifact => exact congrArg (Option.map some) (artifact_fromDict artifact)

/-- What is loaded: the snapshot as it was. -/
theorem fromDict_loaded (localOffset : CivilTime → Option UtcOffset)
    (snapshot : BackupSnapshot) :
    BackupSnapshot.fromDict localOffset snapshot.toDict.reread =
      (snapshot.createdAt.astimezoneUtc localOffset).map snapshot.reread := by
  have hkind : Json.reread snapshot.kind.value = snapshot.kind.value := by
    cases snapshot.kind <;> exact Json.reread_py _
  have hcoverage : Json.reread snapshot.coverage.value = snapshot.coverage.value := by
    cases snapshot.coverage <;> exact Json.reread_py _
  have hcreatedAt : Json.reread snapshot.createdAt.isoformat = snapshot.createdAt.isoformat :=
    Json.reread_of_settled (Json.settled_of_readable snapshot.createdAt.readable_isoformat)
  have hpayload : snapshot.toDict.reread =
      snapshotPayload (snapshot.reread snapshot.createdAt) snapshot.createdAt.isoformat
        (Json.reread snapshot.manifestPath.text)
        (JsonValue.rereadItems (snapshot.fileArtifacts.map BackupArtifact.toDict))
        (snapshot.dbArtifact.elim .null BackupArtifact.toDict).reread := by
    rw [snapshotPayload, BackupSnapshot.reread, ← reread_ofText?]
    simp only [BackupSnapshot.toDict, JsonValue.reread, JsonValue.rereadFields, Json.reread_py,
      hkind, hcoverage, hcreatedAt]
  rw [hpayload, snapshot_fromPayload localOffset _ snapshot.createdAt _ (mapM_fromReread _)]
  · rfl
  · rw [BackupSnapshot.reread]
    cases snapshot.dbArtifact with
    | none => rfl
    | some artifact => exact congrArg (Option.map some) (artifact_fromReread artifact)

/-- The calls on the file go through, and the time has a form in UTC. -/
def Persists (store : SnapshotStore) (snapshot : BackupSnapshot) : Prop :=
  store.writable (backupSnapshotManifestPath store.manifestsPath snapshot.snapshotId) = true ∧
    (snapshot.createdAt.astimezoneUtc store.localOffset).isSome = true

theorem persistSnapshot_files (h : Persists store snapshot) (files : ManifestFiles) :
    (store.persistSnapshot files snapshot).1 =
      Function.update files (store.place snapshot.snapshotId) (some snapshot.toDict) := by
  rw [SnapshotStore.persistSnapshot, if_pos h.1]

theorem persistSnapshot_returns (files : ManifestFiles) (snapshot : BackupSnapshot) :
    (store.persistSnapshot files snapshot).2.isSome = true ↔ Persists store snapshot := by
  unfold SnapshotStore.persistSnapshot Persists
  by_cases hwritable :
      store.writable (backupSnapshotManifestPath store.manifestsPath snapshot.snapshotId) = true
  · simp only [hwritable, if_true, fromDict_returned, Option.isSome_map, true_and]
  · simp [hwritable]

/-- Both the returned and the loaded snapshot have the time in UTC. -/
theorem persisted_cases (h : Persists store snapshot) (files : ManifestFiles) :
    ∃ createdAt, (store.persistSnapshot files snapshot).2 = some
        { snapshot with
          createdAt
          manifestPath := backupSnapshotManifestPath store.manifestsPath snapshot.snapshotId } ∧
      store.loadSnapshot (store.persistSnapshot files snapshot).1 snapshot.snapshotId =
        some (snapshot.reread createdAt) := by
  obtain ⟨createdAt, hcreatedAt⟩ := Option.isSome_iff_exists.mp h.2
  refine ⟨createdAt, ?_, ?_⟩
  · rw [SnapshotStore.persistSnapshot, if_pos h.1]
    simp only [fromDict_returned, hcreatedAt, Option.map_some]
  · rw [persistSnapshot_files h, SnapshotStore.loadSnapshot, Function.update_self]
    simp only [Option.bind_eq_bind, Option.bind_some, fromDict_loaded, hcreatedAt, Option.map_some]

/-! ## Snapshots that come back -/

/-- Its texts have no split surrogates, and its path is read as it was. -/
structure BackupArtifact.Clear (artifact : BackupArtifact) : Prop where
  name : Json.Settled artifact.name
  kind : Json.Settled artifact.kind
  targetKind : Json.Settled artifact.target.kind
  reference : Json.Settled artifact.target.reference
  displayName : Json.Settled artifact.target.displayName
  relativePath : PurePath.parse (Json.reread artifact.relativePath.text) = artifact.relativePath
  checksum : ∀ checksum ∈ artifact.checksum, Json.Settled checksum

/-- The manifest path is the place of the manifest already, and the rest is read as it was. -/
structure SnapshotClear (store : SnapshotStore) (snapshot : BackupSnapshot) : Prop where
  manifestPath : PurePath.parse (Json.reread snapshot.manifestPath.text) =
    backupSnapshotManifestPath store.manifestsPath snapshot.snapshotId
  snapshotId : Json.Settled snapshot.snapshotId
  sourceFingerprint : Json.Settled snapshot.sourceFingerprint
  fileArtifacts : ∀ artifact ∈ snapshot.fileArtifacts, artifact.Clear
  dbArtifact : ∀ artifact ∈ snapshot.dbArtifact, artifact.Clear
  repairRunId : ∀ repairRunId ∈ snapshot.repairRunId, Json.Settled repairRunId

theorem map_eq_self_iff {α : Type*} {f : α → α} {as : List α} :
    as.map f = as ↔ ∀ a ∈ as, f a = a := by
  induction as with
  | nil => simp
  | cons a as ih => rw [List.map_cons, List.cons.injEq, ih, List.forall_mem_cons]

theorem optionMap_eq_self_iff {α : Type*} {f : α → α} {a : Option α} :
    a.map f = a ↔ ∀ b ∈ a, f b = b := by
  cases a <;> simp

theorem artifact_reread_iff {artifact : BackupArtifact} :
    artifact.reread = artifact ↔ artifact.Clear := by
  have hchecksum : artifact.checksum.map Json.reread = artifact.checksum ↔
      ∀ checksum ∈ artifact.checksum, Json.Settled checksum := by
    rw [optionMap_eq_self_iff]
    exact forall₂_congr fun _ _ => Json.reread_eq_self_iff
  constructor
  · intro h
    exact
      { name := Json.reread_eq_self_iff.mp (congrArg BackupArtifact.name h)
        kind := Json.reread_eq_self_iff.mp (congrArg BackupArtifact.kind h)
        targetKind := Json.reread_eq_self_iff.mp (congrArg (fun a => a.target.kind) h)
        reference := Json.reread_eq_self_iff.mp (congrArg (fun a => a.target.reference) h)
        displayName := Json.reread_eq_self_iff.mp (congrArg (fun a => a.target.displayName) h)
        relativePath := congrArg BackupArtifact.relativePath h
        checksum := hchecksum.mp (congrArg BackupArtifact.checksum h) }
  · intro h
    unfold BackupArtifact.reread BackupTarget.reread
    rw [Json.reread_of_settled h.name, Json.reread_of_settled h.kind,
      Json.reread_of_settled h.targetKind, Json.reread_of_settled h.reference,
      Json.reread_of_settled h.displayName, h.relativePath, hchecksum.mpr h.checksum]

theorem snapshot_reread_iff {createdAt : DateTime} : snapshot.reread createdAt =
      { snapshot with
        createdAt
        manifestPath := backupSnapshotManifestPath store.manifestsPath snapshot.snapshotId } ↔
    SnapshotClear store snapshot := by
  have hfiles : snapshot.fileArtifacts.map BackupArtifact.reread = snapshot.fileArtifacts ↔
      ∀ artifact ∈ snapshot.fileArtifacts, artifact.Clear := by
    rw [map_eq_self_iff]
    exact forall₂_congr fun _ _ => artifact_reread_iff
  have hdb : snapshot.dbArtifact.map BackupArtifact.reread = snapshot.dbArtifact ↔
      ∀ artifact ∈ snapshot.dbArtifact, artifact.Clear := by
    rw [optionMap_eq_self_iff]
    exact forall₂_congr fun _ _ => artifact_reread_iff
  have hrepairRunId : snapshot.repairRunId.map Json.reread = snapshot.repairRunId ↔
      ∀ repairRunId ∈ snapshot.repairRunId, Json.Settled repairRunId := by
    rw [optionMap_eq_self_iff]
    exact forall₂_congr fun _ _ => Json.reread_eq_self_iff
  constructor
  · intro h
    exact
      { manifestPath := congrArg BackupSnapshot.manifestPath h
        snapshotId := Json.reread_eq_self_iff.mp (congrArg BackupSnapshot.snapshotId h)
        sourceFingerprint :=
          Json.reread_eq_self_iff.mp (congrArg BackupSnapshot.sourceFingerprint h)
        fileArtifacts := hfiles.mp (congrArg BackupSnapshot.fileArtifacts h)
        dbArtifact := hdb.mp (congrArg BackupSnapshot.dbArtifact h)
        repairRunId := hrepairRunId.mp (congrArg BackupSnapshot.repairRunId h) }
  · intro h
    unfold BackupSnapshot.reread
    rw [Json.reread_of_settled h.snapshotId, Json.reread_of_settled h.sourceFingerprint,
      hfiles.mpr h.fileArtifacts, hdb.mpr h.dbArtifact, h.manifestPath,
      hrepairRunId.mpr h.repairRunId]

/-- What is loaded is what was returned. -/
def RoundTrips (store : SnapshotStore) (files : ManifestFiles) (snapshot : BackupSnapshot) :
    Prop :=
  ∀ returned, (store.persistSnapshot files snapshot).2 = some returned →
    store.loadSnapshot (store.persistSnapshot files snapshot).1 snapshot.snapshotId = some returned

/-- Persisting another snapshot leaves the manifest as it was written. -/
def KeepsApart (store : SnapshotStore) (files : ManifestFiles) (snapshot other : BackupSnapshot) :
    Prop :=
  let after := (store.persistSnapshot files snapshot).1
  snapshot.snapshotId ≠ other.snapshotId →
    (store.persistSnapshot files snapshot).2.isSome = true →
    (store.persistSnapshot after other).2.isSome = true →
    (store.persistSnapshot after other).1 (store.place snapshot.snapshotId) =
      after (store.place snapshot.snapshotId)

theorem roundTrips_iff : RoundTrips store files snapshot ↔
    (Persists store snapshot → SnapshotClear store snapshot) := by
  constructor
  · intro h hpersists
    obtain ⟨createdAt, hreturned, hloaded⟩ := persisted_cases hpersists files
    have hsame := h _ hreturned
    rw [hloaded, Option.some.injEq] at hsame
    exact snapshot_reread_iff.mp hsame
  · intro h returned hreturned
    have hpersists : Persists store snapshot :=
      (persistSnapshot_returns files snapshot).mp (by rw [hreturned]; rfl)
    obtain ⟨createdAt, hresult, hloaded⟩ := persisted_cases hpersists files
    rw [hresult, Option.some.injEq] at hreturned
    rw [hloaded, snapshot_reread_iff.mpr (h hpersists), hreturned]

theorem snapshotId_of_toDict (h : snapshot.toDict = other.toDict) :
    snapshot.snapshotId = other.snapshotId := by
  have hfield : some (JsonValue.str snapshot.snapshotId) = some (.str other.snapshotId) :=
    congrArg (fun payload => payload.field? (py "snapshot_id")) h
  exact JsonValue.str.inj (Option.some.inj hfield)

theorem keepsApart_iff : KeepsApart store files snapshot other ↔
    (snapshot.snapshotId ≠ other.snapshotId → Persists store snapshot → Persists store other →
      store.place snapshot.snapshotId ≠ store.place other.snapshotId) := by
  unfold KeepsApart
  simp only [persistSnapshot_returns]
  refine forall_congr' fun hne => forall_congr' fun hfirst => forall_congr' fun hsecond => ?_
  rw [persistSnapshot_files hsecond, persistSnapshot_files hfirst, Function.update_self]
  constructor
  · intro h heq
    rw [heq, Function.update_self, Option.some.injEq] at h
    exact hne (snapshotId_of_toDict h.symm)
  · intro hplaces
    rw [Function.update_of_ne hplaces, Function.update_self]

/-- A snapshot comes back from its manifest, and another one leaves it alone, exactly when it
already has the place of the manifest as its path, its texts survive JSON, and the other one has
another place. -/
theorem manifest_kept_iff (store : SnapshotStore) (files : ManifestFiles)
    (snapshot other : BackupSnapshot) :
    RoundTrips store files snapshot ∧ KeepsApart store files snapshot other ↔
      (Persists store snapshot → SnapshotClear store snapshot) ∧
        (snapshot.snapshotId ≠ other.snapshotId → Persists store snapshot →
          Persists store other → store.place snapshot.snapshotId ≠ store.place other.snapshotId) :=
  and_congr roundTrips_iff keepsApart_iff

end Stores

/-! ## Places -/

theorem joinText_name {path : PurePath} {name : PyStr} (hname : validPart name = true) :
    (joinText path name).parts = path.parts ++ [name] := by
  have hhead : name.head? ≠ some 47 := fun heq =>
    (validPart_iff.mp hname).2.2 (List.mem_of_mem_head? heq)
  have hsplit : PurePath.splitRoot name = (.relative, name) :=
    PurePath.splitRoot_anchor .relative hhead
  have hparts : (PurePath.parse name).parts = [name] := by
    show PurePath.partsOf (PurePath.splitRoot name).2 = [name]
    rw [hsplit]
    exact PurePath.partsOf_of_valid hname
  have hanchor : (PurePath.parse name).anchor = .relative := by
    show (PurePath.splitRoot name).1 = .relative
    rw [hsplit]
  unfold joinText
  simp only [hanchor, if_true, PurePath.joinParts, hparts]

/-- Ids that are names have manifests with different paths. -/
theorem manifestPath_injective {manifestsPath : PurePath} {id id' : PyStr} (hid : 47 ∉ id)
    (hid' : 47 ∉ id')
    (h : backupSnapshotManifestPath manifestsPath id =
      backupSnapshotManifestPath manifestsPath id') : id = id' := by
  have hvalid {id : PyStr} (hid : 47 ∉ id) : validPart (id ++ py ".json") = true := by
    refine validPart_iff.mpr ⟨?_, fun heq => ?_, fun hmem => ?_⟩
    · exact List.append_ne_nil_of_right_ne_nil _ (by decide)
    · have hlength := congrArg List.length heq
      rw [List.length_append] at hlength
      have hsuffix : (py ".json").length = 5 := by decide
      rw [hsuffix, List.length_singleton] at hlength
      omega
    · rcases List.mem_append.mp hmem with hfirst | hsecond
      · exact hid hfirst
      · exact absurd hsecond (by decide)
  have hparts := congrArg PurePath.parts h
  unfold backupSnapshotManifestPath at hparts
  rw [joinText_name (hvalid hid), joinText_name (hvalid hid')] at hparts
  have hname := List.append_cancel_left hparts
  exact List.append_cancel_right (List.cons.inj hname).1

/-- The snapshot that a backup of the files makes is loaded with another path. -/
def pendingSnapshot : BackupSnapshot where
  snapshotId := py "s1"
  kind := .manual
  createdAt := ⟨⟨2026, 3, 14, 21, 30, 0, 0, by decide, by decide, by decide, by decide,
    by decide, by decide, by decide⟩, some .utc⟩
  sourceFingerprint := py "live"
  coverage := .filesOnly
  fileArtifacts := []
  dbArtifact := none
  manifestPath := .parse (py "pending")
  verified := false

def exampleStore : SnapshotStore where
  manifestsPath := .parse (py "/manifests")
  resolvePath := id
  localOffset := fun _ => none
  writable := fun _ => true

theorem pending_path_loaded : ¬ ∀ store files snapshot other,
    RoundTrips store files snapshot ∧ KeepsApart store files snapshot other := by
  intro h
  have hpersists : Persists exampleStore pendingSnapshot :=
    ⟨rfl, by rw [pendingSnapshot, DateTime.astimezoneUtc_utc]; rfl⟩
  obtain ⟨createdAt, hreturned, hloaded⟩ := persisted_cases hpersists fun _ => none
  have hsame := (h exampleStore (fun _ => none) pendingSnapshot pendingSnapshot).1 _ hreturned
  rw [hloaded, Option.some.injEq] at hsame
  have hpath : (PurePath.parse (Json.reread pendingSnapshot.manifestPath.text)).parts =
      (backupSnapshotManifestPath exampleStore.manifestsPath pendingSnapshot.snapshotId).parts :=
    congrArg (fun snapshot => snapshot.manifestPath.parts) hsame
  exact absurd hpath (by decide)

end ImmichDoctor.Backup
