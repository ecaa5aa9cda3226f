import ImmichDoctor.Consistency.RestorePointStore
import ImmichDoctor.Library.JsonCuts
/-!
# What the store of restore points gives back

The index and the documents hold the same points, one for each id. A point stands from when it
is written until its id is written again or deleted; one that `json.dumps` refuses is not written
at all. Of an index that was cut some of its points are read or none.
-/

namespace ImmichDoctor.Consistency.RestorePoints

open ImmichDoctor.Library

/-! ## Records -/

section Records

theorem toStatus?_statusValue (status : MissingAssetRestorePointStatus) :
    toStatus? (.str (statusValue status)) = some status := by
  cases status <;> rfl

theorem plainText_statusValue (status : MissingAssetRestorePointStatus) :
    JsonValue.PlainText (statusValue status) := by
  cases status <;> exact JsonValue.plainText_py _

theorem plain_records (records : List JsonDict) :
    (JsonValue.list (records.map fun record => .obj record.fields)).Plain ∧
      (JsonValue.list (records.map fun record => .obj record.fields)).sortKeys =
        .list (records.map fun record => .obj record.fields) := by
  constructor
  · rw [JsonValue.Plain, JsonValue.itemsPlain_iff]
    intro item hitem
    obtain ⟨record, -, rfl⟩ := List.mem_map.mp hitem
    exact (JsonValue.plain_of_canonical record.canonical).1
  · rw [JsonValue.sortKeys, JsonValue.sortItems_eq_map, List.map_map]
    congr 1
    exact List.map_congr_left fun record _ => (JsonValue.plain_of_canonical record.canonical).2

theorem toRecords?_records (records : List JsonDict) :
    MissingAssetRestorePoint.toRecords? (.list (records.map fun record => .obj record.fields)) =
      some records := by
  rw [MissingAssetRestorePoint.toRecords?, mapM_eq_some_iff, List.map_map]
  exact List.map_congr_left fun record _ => JsonValue.toDict?_obj record

theorem plain_toDict (point : MissingAssetRestorePoint) : point.toDict.Plain := by
  apply JsonValue.plain_record ["restore_point_id", "repair_run_id", "asset_id", "created_at",
    "status", "record_count", "logical_path", "records"] rfl (by decide)
  simp only [List.map_cons, List.map_nil, List.forall_mem_cons]
  exact ⟨point.restorePointId.text.plain, point.repairRunId.plain, point.assetId.plain,
    point.createdAt.plain, plainText_statusValue point.status, trivial, point.logicalPath.plain,
    (plain_records point.records).1, by simp⟩

/-- Its keys start with letters, so that a beginning of its line is not read as a document. -/
theorem namedRecord_toDict (point : MissingAssetRestorePoint) : point.toDict.NamedRecord :=
  .of_keys (plain_toDict point) (List.cons_ne_nil _ _) rfl

theorem fromDict_toDict (point : MissingAssetRestorePoint) :
    MissingAssetRestorePoint.fromDict point.toDict.sortKeys = some point := by
  have find := JsonValue.field?_of_plain (plain_toDict point)
  unfold MissingAssetRestorePoint.toDict
  simp only [MissingAssetRestorePoint.fromDict, find (py "restore_point_id") _ rfl rfl,
    find (py "repair_run_id") _ rfl rfl, find (py "asset_id") _ rfl rfl,
    find (py "created_at") _ rfl rfl, find (py "status") _ rfl rfl,
    find (py "record_count") _ rfl rfl, find (py "logical_path") _ rfl rfl,
    find (py "records") _ rfl (plain_records point.records).2, Option.bind_eq_bind,
    Option.bind_some, Option.getD_some, toPointId?_str, JsonValue.toPlain?_str,
    toStatus?_statusValue, toRecords?_records, MissingAssetRestorePoint.toInt?]
  rfl

/-- A point that was read is written as it is. -/
@[simp] theorem dumped?_captured (point : MissingAssetRestorePoint) :
    point.captured.dumped? = some point := by
  have hrecords : (point.records.map some).mapM id = some point.records := by
    rw [mapM_eq_some_iff, List.map_id]
  simp only [CapturedPoint.dumped?, MissingAssetRestorePoint.captured, hrecords,
    Option.bind_eq_bind, Option.bind_some]
  rfl

theorem dumped?_restorePointId {point : CapturedPoint} {dumped : MissingAssetRestorePoint}
    (h : point.dumped? = some dumped) : dumped.restorePointId = point.restorePointId := by
  simp only [CapturedPoint.dumped?, Option.bind_eq_bind, Option.bind_eq_some_iff] at h
  obtain ⟨records, -, hdumped⟩ := h
  cases hdumped
  rfl

end Records

/-! ## Paths -/

section Paths

variable {root : FilePath} {a b : PointId}

theorem pointFile_eq_iff :
    missingAssetRestorePointFile root a = missingAssetRestorePointFile root b ↔ a = b := by
  constructor
  · intro h
    have hname := List.append_cancel_left h
    have htext := List.append_cancel_right (List.cons.inj hname).1
    exact PointId.ext (PlainStr.ext htext)
  · intro h
    rw [h]

theorem pointFile_ne_index :
    missingAssetRestorePointFile root a ≠ missingAssetRestorePointIndexFile root := by
  intro h
  have hname := (List.cons.inj (List.append_cancel_left h)).1
  have hlast := congrArg List.getLast? hname
  have hjson : py ".json" = py ".jso" ++ [110] := rfl
  rw [hjson, ← List.append_assoc, List.getLast?_append_cons, List.getLast?_singleton] at hlast
  revert hlast
  decide

end Paths

/-! ## What the files hold -/

/-- The files are those of these points: their documents, and an index with a line for each. -/
structure Holds (root : FilePath) (points : List MissingAssetRestorePoint) (files : TextFiles) :
    Prop where
  nodup : (points.map (·.restorePointId)).Nodup
  index : (files (missingAssetRestorePointIndexFile root)).getD [] =
    JsonValue.jsonLines (points.map (·.toDict))
  document : ∀ point ∈ points,
    files (missingAssetRestorePointFile root point.restorePointId) =
      some point.toDict.jsonDocument
  absent : ∀ id, (∀ point ∈ points, point.restorePointId ≠ id) →
    files (missingAssetRestorePointFile root id) = none

section Files

variable {root : FilePath} {points : List MissingAssetRestorePoint} {files : TextFiles}

theorem mem_newestFirst {point : MissingAssetRestorePoint} :
    point ∈ newestFirst points ↔ point ∈ points :=
  List.mem_insertionSort _

theorem nodup_newestFirst (h : (points.map (·.restorePointId)).Nodup) :
    ((newestFirst points).map (·.restorePointId)).Nodup :=
  ((List.perm_insertionSort _ points).map _).nodup_iff.mpr h

theorem mapM_fromDict (points : List MissingAssetRestorePoint) :
    ((points.map (·.toDict)).map JsonValue.sortKeys).mapM MissingAssetRestorePoint.fromDict =
      some points := by
  rw [mapM_eq_some_iff, List.map_map, List.map_map]
  exact List.map_congr_left fun point _ => fromDict_toDict point

/-- The points are listed from an index with a line for each. -/
theorem listPoints_of_index (h : (files (missingAssetRestorePointIndexFile root)).getD [] =
    JsonValue.jsonLines (points.map (·.toDict))) :
    listPoints root files = some (newestFirst points) := by
  have hplain : ∀ payload ∈ points.map (·.toDict), payload.Plain := by
    intro payload hpayload
    obtain ⟨point, -, rfl⟩ := List.mem_map.mp hpayload
    exact plain_toDict point
  rw [listPoints, JsonValue.readJsonLinesOf_of_getD hplain h]
  simp only [Option.bind_eq_bind, Option.bind_some, mapM_fromDict]
  rfl

/-- Of an index that was cut some points are listed, if it can be read. -/
theorem listPoints_of_cut {kept : Nat} {listed : List MissingAssetRestorePoint}
    (h : (files (missingAssetRestorePointIndexFile root)).getD [] =
      (JsonValue.jsonLines (points.map (·.toDict))).take kept)
    (hlist : listPoints root files = some listed) :
    ∃ read : List MissingAssetRestorePoint, read.Sublist points ∧ listed = newestFirst read := by
  have hrecords : ∀ payload ∈ points.map (·.toDict), payload.NamedRecord := by
    intro payload hpayload
    obtain ⟨point, -, rfl⟩ := List.mem_map.mp hpayload
    exact namedRecord_toDict point
  rw [listPoints, JsonValue.readJsonLinesOf_eq, h] at hlist
  simp only [Option.bind_eq_bind, Option.bind_eq_some_iff] at hlist
  obtain ⟨values, hvalues, read, hread, hlisted⟩ := hlist
  obtain ⟨lines, hlines, rfl⟩ := JsonValue.readJsonLines_take hrecords hvalues
  obtain ⟨kept, hkept, rfl⟩ := List.sublist_map_iff.mp hlines
  rw [mapM_fromDict, Option.some.injEq] at hread
  cases hlisted
  exact ⟨kept, hkept, by rw [hread]⟩

theorem listPoints_of_holds (h : Holds root points files) :
    listPoints root files = some (newestFirst points) :=
  listPoints_of_index h.index

/-- The points of an index in which a point is written after those that were listed. -/
theorem nodup_rewritten {listed : List MissingAssetRestorePoint}
    (h : (listed.map (·.restorePointId)).Nodup) (point : MissingAssetRestorePoint) :
    (((listed.filter fun item => item.restorePointId ≠ point.restorePointId) ++ [point]).map
      (·.restorePointId)).Nodup := by
  rw [List.map_append, List.map_singleton, List.nodup_append]
  refine ⟨h.sublist (List.filter_sublist.map _), List.nodup_singleton _, ?_⟩
  intro a ha b hb
  obtain ⟨item, hitem, rfl⟩ := List.mem_map.mp ha
  rw [List.mem_singleton.mp hb]
  exact of_decide_eq_true (List.mem_filter.mp hitem).2

theorem mem_rewritten {listed : List MissingAssetRestorePoint}
    {point item : MissingAssetRestorePoint} :
    item ∈ (listed.filter fun item => item.restorePointId ≠ point.restorePointId) ++ [point] ↔
      item = point ∨ item ∈ listed ∧ item.restorePointId ≠ point.restorePointId := by
  rw [List.mem_append, List.mem_filter, List.mem_singleton, decide_eq_true_eq, or_comm]

/-- The points after one was written. -/
def written (points : List MissingAssetRestorePoint) (point : MissingAssetRestorePoint) :
    List MissingAssetRestorePoint :=
  (newestFirst points).filter (fun item => item.restorePointId ≠ point.restorePointId) ++ [point]

theorem mem_written {point item : MissingAssetRestorePoint} : item ∈ written points point ↔
    item = point ∨ item ∈ points ∧ item.restorePointId ≠ point.restorePointId := by
  rw [written, mem_rewritten, mem_newestFirst]

theorem nodup_written (h : (points.map (·.restorePointId)).Nodup)
    (point : MissingAssetRestorePoint) :
    ((written points point).map (·.restorePointId)).Nodup :=
  nodup_rewritten (nodup_newestFirst h) point

theorem writeDocument_apply (point : MissingAssetRestorePoint) (path : FilePath) :
    (writeDocument root point).perform files path =
      if path = missingAssetRestorePointFile root point.restorePointId then
        some point.toDict.jsonDocument
      else files path :=
  TextFiles.write_apply ..

theorem writeIndex_apply (items : List MissingAssetRestorePoint) (path : FilePath) :
    (writeIndex root items).perform files path =
      if path = missingAssetRestorePointIndexFile root then
        some (JsonValue.jsonLines (items.map (·.toDict)))
      else files path :=
  TextFiles.write_apply ..

/-- The document is not the index, so the points are listed as before. -/
theorem listPoints_writeDocument (point : MissingAssetRestorePoint) :
    listPoints root ((writeDocument root point).perform files) = listPoints root files := by
  rw [listPoints, writeDocument_apply, if_neg pointFile_ne_index.symm, listPoints]

/-- The two operations of a create whose point can be written. -/
theorem create_of_listed {listed : List MissingAssetRestorePoint} {captured : CapturedPoint}
    {point : MissingAssetRestorePoint} (hlist : listPoints root files = some listed)
    (hdumped : captured.dumped? = some point) (stop : Option Stop) :
    create root captured stop files =
      .ofOps stop [writeDocument root point, writeIndex root ((listed.filter fun item =>
        item.restorePointId ≠ point.restorePointId) ++ [point])] files () := by
  simp only [create, hdumped, listPoints_writeDocument, hlist]

theorem create_of_holds (h : Holds root points files) {captured : CapturedPoint}
    {point : MissingAssetRestorePoint} (hdumped : captured.dumped? = some point) :
    ∃ after, create root captured none files = ⟨after, some ()⟩ ∧
      Holds root (written points point) after := by
  refine ⟨(writeIndex root (written points point)).perform
    ((writeDocument root point).perform files), ?_, nodup_written h.nodup point, ?_, ?_, ?_⟩
  · rw [create_of_listed (listPoints_of_holds h) hdumped]
    rfl
  · rw [writeIndex_apply, if_pos rfl, Option.getD_some]
  · intro item hitem
    rw [writeIndex_apply, if_neg pointFile_ne_index, writeDocument_apply]
    rcases mem_written.mp hitem with rfl | ⟨hold, hne⟩
    · rw [if_pos rfl]
    · rw [if_neg (fun heq => hne (pointFile_eq_iff.mp heq))]
      exact h.document item hold
  · intro id hid
    rw [writeIndex_apply, if_neg pointFile_ne_index, writeDocument_apply]
    have hpoint := hid point (mem_written.mpr (.inl rfl))
    rw [if_neg (fun heq => hpoint (pointFile_eq_iff.mp heq).symm)]
    exact h.absent id fun item hitem heq =>
      hid item (mem_written.mpr (.inr ⟨hitem, fun hsame => hpoint (hsame ▸ heq)⟩)) heq

/-- The documents after some of them were unlinked. -/
theorem foldl_unlink (requested : List MissingAssetRestorePoint) (path : FilePath) :
    (requested.map fun item =>
        FileOp.unlink (missingAssetRestorePointFile root item.restorePointId)).foldl
          FileOp.perform files path =
      if ∃ item ∈ requested, path = missingAssetRestorePointFile root item.restorePointId then none
      else files path := by
  induction requested generalizing files with
  | nil => simp
  | cons item requested ih =>
      rw [List.map_cons, List.foldl_cons, ih, FileOp.perform, TextFiles.unlink_apply]
      by_cases hrest : ∃ other ∈ requested,
          path = missingAssetRestorePointFile root other.restorePointId
      · obtain ⟨other, hother, hpath⟩ := hrest
        rw [if_pos ⟨other, hother, hpath⟩, if_pos ⟨other, List.mem_cons_of_mem _ hother, hpath⟩]
      · rw [if_neg hrest]
        by_cases hfirst : path = missingAssetRestorePointFile root item.restorePointId
        · rw [if_pos hfirst, if_pos ⟨item, List.mem_cons_self, hfirst⟩]
        · rw [if_neg hfirst, if_neg]
          rintro ⟨other, hother, hpath⟩
          rcases List.mem_cons.mp hother with rfl | hmem
          · exact hfirst hpath
          · exact hrest ⟨other, hmem, hpath⟩

/-- The points that a delete leaves. -/
def remaining (points : List MissingAssetRestorePoint) (ids : List PointId) :
    List MissingAssetRestorePoint :=
  (newestFirst points).filter fun item => item.restorePointId ∉ ids

theorem mem_remaining {ids : List PointId} {item : MissingAssetRestorePoint} :
    item ∈ remaining points ids ↔ item ∈ points ∧ item.restorePointId ∉ ids := by
  rw [remaining, List.mem_filter, mem_newestFirst, decide_eq_true_eq]

/-- The requested points are unlinked, and the index is written without them. -/
theorem delete_of_listed {listed : List MissingAssetRestorePoint}
    (hlist : listPoints root files = some listed) (ids : List PointId) (stop : Option Stop) :
    delete root ids stop files =
      .ofOps stop (((listed.filter fun item => item.restorePointId ∈ ids).map fun item =>
          FileOp.unlink (missingAssetRestorePointFile root item.restorePointId)) ++
            [writeIndex root (listed.filter fun item => item.restorePointId ∉ ids)])
        files ((listed.filter fun item => item.restorePointId ∈ ids).map (·.restorePointId)) := by
  have hrest : listed.filter (not ∘ fun item => decide (item.restorePointId ∈ ids)) =
      listed.filter fun item => item.restorePointId ∉ ids :=
    List.filter_congr fun item _ => by rw [Function.comp_apply, decide_not]
  simp only [delete, hlist, List.partition_eq_filter_filter, hrest]

theorem delete_of_holds (h : Holds root points files) (ids : List PointId) :
    ∃ after, delete root ids none files = ⟨after, some (((newestFirst points).filter fun item =>
        item.restorePointId ∈ ids).map (·.restorePointId))⟩ ∧
      Holds root (remaining points ids) after := by
  refine ⟨_, by rw [delete_of_listed (listPoints_of_holds h)]; rfl, ?_, ?_, ?_, ?_⟩
  · exact (nodup_newestFirst h.nodup).sublist (List.filter_sublist.map _)
  · rw [performOps, List.foldl_append, List.foldl_cons, List.foldl_nil, writeIndex_apply,
      if_pos rfl, Option.getD_some]
    rfl
  · intro item hitem
    obtain ⟨hmem, hids⟩ := mem_remaining.mp hitem
    rw [performOps, List.foldl_append, List.foldl_cons, List.foldl_nil, writeIndex_apply,
      if_neg pointFile_ne_index, foldl_unlink, if_neg]
    · exact h.document item hmem
    · rintro ⟨other, hother, hpath⟩
      rw [pointFile_eq_iff.mp hpath] at hids
      exact hids (of_decide_eq_true (List.mem_filter.mp hother).2)
  · intro id hid
    rw [performOps, List.foldl_append, List.foldl_cons, List.foldl_nil, writeIndex_apply,
      if_neg pointFile_ne_index, foldl_unlink]
    by_cases hdeleted : ∃ other ∈ (newestFirst points).filter fun item =>
        item.restorePointId ∈ ids, missingAssetRestorePointFile root id =
          missingAssetRestorePointFile root other.restorePointId
    · rw [if_pos hdeleted]
    · rw [if_neg hdeleted]
      apply h.absent
      intro item hitem hsame
      by_cases hin : item.restorePointId ∈ ids
      · exact hdeleted ⟨item, List.mem_filter.mpr ⟨mem_newestFirst.mpr hitem,
          decide_eq_true hin⟩, by rw [hsame]⟩
      · exact hid item (mem_remaining.mpr ⟨hitem, hin⟩) hsame

theorem load_of_holds (h : Holds root points files) (id : PointId) :
    load root files id = (newestFirst points).find? fun point => point.restorePointId = id := by
  cases hfind : (newestFirst points).find? fun point => point.restorePointId = id with
  | none =>
      have habsent := h.absent id fun point hpoint hid =>
        List.find?_eq_none.mp hfind point (mem_newestFirst.mpr hpoint) (decide_eq_true hid)
      rw [load, habsent]
      rfl
  | some point =>
      have hid : point.restorePointId = id := by simpa using List.find?_some hfind
      have hfile := h.document point (mem_newestFirst.mp (List.mem_of_find?_eq_some hfind))
      rw [hid] at hfile
      rw [load, hfile]
      simp only [Option.bind_eq_bind, Option.bind_some,
        JsonValue.loads_jsonDocument (plain_toDict point)]
      exact fromDict_toDict point

theorem pairwise_newestFirst (points : List MissingAssetRestorePoint) :
    (newestFirst points).Pairwise fun a b => b.createdAt.text ≤ a.createdAt.text := by
  have : Std.Total fun a b : MissingAssetRestorePoint => b.createdAt.text ≤ a.createdAt.text :=
    ⟨fun a b => le_total b.createdAt.text a.createdAt.text⟩
  have : IsTrans MissingAssetRestorePoint fun a b => b.createdAt.text ≤ a.createdAt.text :=
    ⟨fun _ _ _ hab hbc => le_trans hbc hab⟩
  exact List.pairwise_insertionSort _ points

end Files

/-! ## The points that stand -/

/-- A call that changes the files, an update among them. -/
inductive StoreCall
  | create (point : CapturedPoint)
  | delete (restorePointIds : List PointId)

namespace StoreCall

def perform (root : FilePath) (files : TextFiles) : StoreCall → TextFiles
  | create point => (RestorePoints.create root point none files).files
  | delete restorePointIds => (RestorePoints.delete root restorePointIds none files).files

/-- The call writes this point. -/
def Writes (point : MissingAssetRestorePoint) : StoreCall → Prop
  | create captured => captured.dumped? = some point
  | delete _ => False

/-- Whether the call writes or deletes the point with this id. -/
def Touches (id : PointId) : StoreCall → Prop
  | create captured => captured.restorePointId = id ∧ captured.dumped? ≠ none
  | delete restorePointIds => id ∈ restorePointIds

end StoreCall

/-- The files after a list of calls, from none at all. -/
def filesAfter (root : FilePath) (calls : List StoreCall) : TextFiles :=
  calls.foldl (StoreCall.perform root) fun _ => none

/-- The point was written, and no later call touches it. -/
def Standing (calls : List StoreCall) (point : MissingAssetRestorePoint) : Prop :=
  ∃ before call after, calls = before ++ call :: after ∧ call.Writes point ∧
    ∀ later ∈ after, ¬ later.Touches point.restorePointId

section Runs

variable {calls : List StoreCall} {call : StoreCall} {point : MissingAssetRestorePoint}

theorem standing_append : Standing (calls ++ [call]) point ↔
    call.Writes point ∨ Standing calls point ∧ ¬ call.Touches point.restorePointId := by
  constructor
  · rintro ⟨before, writing, after, heq, hwrites, hafter⟩
    rcases List.eq_nil_or_concat after with rfl | ⟨front, last, rfl⟩
    · rw [(List.cons.inj (List.append_inj' heq rfl).2).1]
      exact .inl hwrites
    · rw [List.concat_eq_append] at heq hafter
      have hcut : calls ++ [call] = (before ++ writing :: front) ++ [last] := by
        rw [heq, List.append_assoc]
        rfl
      obtain ⟨hcalls, hlast⟩ := List.append_inj' hcut rfl
      rw [(List.cons.inj hlast).1]
      exact .inr ⟨⟨before, writing, front, hcalls, hwrites, fun other hother =>
        hafter other (List.mem_append_left _ hother)⟩,
        hafter last (List.mem_append_right _ List.mem_cons_self)⟩
  · rintro (hwrites | ⟨⟨before, writing, after, rfl, hwrites, hafter⟩, htouches⟩)
    · exact ⟨calls, call, [], rfl, hwrites, by simp⟩
    · refine ⟨before, writing, after ++ [call], by simp, hwrites, fun other hother => ?_⟩
      rcases List.mem_append.mp hother with hold | hnew
      · exact hafter other hold
      · rw [List.mem_singleton.mp hnew]
        exact htouches

/-- The files after any calls are those of the points that stand. -/
theorem holds_filesAfter (root : FilePath) (calls : List StoreCall) :
    ∃ points, Holds root points (filesAfter root calls) ∧
      ∀ point, point ∈ points ↔ Standing calls point := by
  induction calls using List.reverseRecOn with
  | nil =>
      refine ⟨[], ⟨List.nodup_nil, rfl, by simp, fun _ _ => rfl⟩, fun point => ?_⟩
      refine iff_of_false List.not_mem_nil ?_
      rintro ⟨before, call, after, heq, -⟩
      exact absurd heq.symm (by simp)
  | append_singleton calls call ih =>
      obtain ⟨points, hholds, hstanding⟩ := ih
      rw [filesAfter, List.foldl_append, List.foldl_cons, List.foldl_nil, ← filesAfter]
      cases call with
      | create new =>
          cases hdumped : new.dumped? with
          | none =>
              refine ⟨points, ?_, fun point => ?_⟩
              · rw [StoreCall.perform, create, hdumped]
                exact hholds
              · rw [standing_append, hstanding, StoreCall.Writes, StoreCall.Touches, hdumped]
                simp
          | some point =>
              obtain ⟨after, hcreate, hafter⟩ := create_of_holds hholds hdumped
              refine ⟨written points point, ?_, fun item => ?_⟩
              · rw [StoreCall.perform, hcreate]
                exact hafter
              · rw [mem_written, standing_append, hstanding, StoreCall.Writes, StoreCall.Touches,
                  hdumped, Option.some.injEq, eq_comm, ← dumped?_restorePointId hdumped, ne_comm]
                simp
      | delete ids =>
          obtain ⟨after, hdelete, hafter⟩ := delete_of_holds hholds ids
          refine ⟨remaining points ids, ?_, fun point => ?_⟩
          · rw [StoreCall.perform, hdelete]
            exact hafter
          · rw [mem_remaining, standing_append, hstanding, StoreCall.Writes, StoreCall.Touches,
              false_or]

/-- After any calls the store lists the points that stand, each once and the newest first, loads
each of them by its id, and deletes of the requested ones those that stand. A call raises exactly
when it is given a point that `json.dumps` refuses, and then changes no file. -/
theorem store_keeps_points (root : FilePath) (calls : List StoreCall) :
    ∃ points, listPoints root (filesAfter root calls) = some points ∧
      (points.map (·.restorePointId)).Nodup ∧
      points.Pairwise (fun a b => b.createdAt.text ≤ a.createdAt.text) ∧
      (∀ point, point ∈ points ↔ Standing calls point) ∧
      (∀ id, load root (filesAfter root calls) id =
        points.find? fun point => point.restorePointId = id) ∧
      (∀ ids, (delete root ids none (filesAfter root calls)).returned =
        some ((points.filter fun point => point.restorePointId ∈ ids).map (·.restorePointId))) ∧
      ∀ point : CapturedPoint,
        ((create root point none (filesAfter root calls)).returned = none ↔
          point.dumped? = none) ∧
        (point.dumped? = none →
          (create root point none (filesAfter root calls)).files = filesAfter root calls) := by
  obtain ⟨points, hholds, hstanding⟩ := holds_filesAfter root calls
  refine ⟨newestFirst points, listPoints_of_holds hholds, nodup_newestFirst hholds.nodup,
    pairwise_newestFirst points, fun point => ?_, load_of_holds hholds, fun ids => ?_,
    fun point => ?_⟩
  · rw [mem_newestFirst, hstanding]
  · obtain ⟨after, hdelete, -⟩ := delete_of_holds hholds ids
    rw [hdelete]
  · cases hdumped : point.dumped? with
    | none =>
        rw [create, hdumped]
        exact ⟨iff_of_true rfl rfl, fun _ => rfl⟩
    | some written =>
        obtain ⟨after, hcreate, -⟩ := create_of_holds hholds hdumped
        rw [hcreate]
        exact ⟨iff_of_false (Option.some_ne_none _) (Option.some_ne_none _),
          fun hnone => absurd hnone (Option.some_ne_none _)⟩

end Runs

end ImmichDoctor.Consistency.RestorePoints
