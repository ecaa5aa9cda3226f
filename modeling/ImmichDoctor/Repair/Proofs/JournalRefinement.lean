import ImmichDoctor.Repair.JournalStore
/-!
# What the store of repair runs gives back

The files are a log of the calls: a run and its token are as they were last written, entries and
items come back in the order in which they were appended, and no call touches another run's.
-/

namespace ImmichDoctor.Repair.Journal

open ImmichDoctor.Library

/-! ## Records -/

section Records

theorem memberOf_valueOf_runStatus (status : RepairRunStatus) :
    memberOf runStatusTexts (.str (valueOf runStatusTexts status)) = some status := by
  cases status <;> rfl

theorem memberOf_valueOf_entryStatus (status : RepairJournalEntryStatus) :
    memberOf entryStatusTexts (.str (valueOf entryStatusTexts status)) = some status := by
  cases status <;> rfl

theorem memberOf_valueOf_undoType (undoType : UndoType) :
    memberOf undoTypeTexts (.str (valueOf undoTypeTexts undoType)) = some undoType := by
  cases undoType <;> rfl

theorem plainText_valueOf {α : Type} [DecidableEq α] {texts : List (α × PyStr)} {member : α}
    (h : ∀ pair ∈ texts, JsonValue.PlainText pair.2) :
    JsonValue.PlainText (valueOf texts member) := by
  unfold valueOf
  cases hfound : texts.lookup member with
  | none => exact ⟨.nil, fun c hc => by cases hc⟩
  | some text =>
      obtain ⟨before, after, rfl, -⟩ := List.lookup_eq_some_iff.mp hfound
      exact h (member, text) (List.mem_append_right _ List.mem_cons_self)

theorem plain_runToDict (run : RepairRun) : run.toDict.Plain := by
  apply JsonValue.plain_record ["repair_run_id", "started_at", "ended_at", "scope", "status",
    "live_state_fingerprint", "plan_token_id", "pre_repair_snapshot_id",
    "post_repair_snapshot_id"] rfl (by decide)
  simp only [List.map_cons, List.map_nil, List.forall_mem_cons]
  refine ⟨run.repairRunId.text.plain, run.startedAt.plain, (JsonValue.sortKeys_ofPlain? _).1,
    (JsonValue.plain_of_canonical run.scope.canonical).1, plainText_valueOf (by decide),
    run.liveStateFingerprint.plain, run.planTokenId.plain, (JsonValue.sortKeys_ofPlain? _).1,
    (JsonValue.sortKeys_ofPlain? _).1, by simp⟩

theorem runFromDict_toDict (run : RepairRun) :
    RepairRun.fromDict run.toDict.sortKeys = some run := by
  have find := JsonValue.field?_of_plain (plain_runToDict run)
  have hscope := (JsonValue.plain_of_canonical run.scope.canonical).2
  unfold RepairRun.toDict
  simp only [RepairRun.fromDict, find (py "repair_run_id") _ rfl rfl,
    find (py "started_at") _ rfl rfl, find (py "ended_at") _ rfl (JsonValue.sortKeys_ofPlain? _).2,
    find (py "scope") _ rfl hscope, find (py "status") _ rfl rfl,
    find (py "live_state_fingerprint") _ rfl rfl, find (py "plan_token_id") _ rfl rfl,
    find (py "pre_repair_snapshot_id") _ rfl (JsonValue.sortKeys_ofPlain? _).2,
    find (py "post_repair_snapshot_id") _ rfl (JsonValue.sortKeys_ofPlain? _).2,
    Option.bind_eq_bind, Option.bind_some, Option.getD_some, toRunId?_str, JsonValue.toPlain?_str,
    JsonValue.toOptionalPlain?_ofPlain?, JsonValue.toDict?_obj, memberOf_valueOf_runStatus]
  rfl

theorem plain_tokenToDict (token : PlanToken) : token.toDict.Plain := by
  apply JsonValue.plain_record ["token_id", "created_at", "scope", "db_fingerprint",
    "file_fingerprint", "expires_at"] rfl (by decide)
  simp only [List.map_cons, List.map_nil, List.forall_mem_cons]
  refine ⟨token.tokenId.plain, token.createdAt.plain,
    (JsonValue.plain_of_canonical token.scope.canonical).1, token.dbFingerprint.plain,
    token.fileFingerprint.plain, (JsonValue.sortKeys_ofPlain? _).1, by simp⟩

theorem tokenFromDict_toDict (token : PlanToken) :
    PlanToken.fromDict token.toDict.sortKeys = some token := by
  have find := JsonValue.field?_of_plain (plain_tokenToDict token)
  have hscope := (JsonValue.plain_of_canonical token.scope.canonical).2
  unfold PlanToken.toDict
  simp only [PlanToken.fromDict, find (py "token_id") _ rfl rfl, find (py "created_at") _ rfl rfl,
    find (py "scope") _ rfl hscope, find (py "db_fingerprint") _ rfl rfl,
    find (py "file_fingerprint") _ rfl rfl,
    find (py "expires_at") _ rfl (JsonValue.sortKeys_ofPlain? _).2, Option.bind_eq_bind,
    Option.bind_some, Option.getD_some, JsonValue.toPlain?_str, JsonValue.toDict?_obj,
    JsonValue.toOptionalPlain?_ofPlain?]
  rfl

theorem plain_entryToDict (entry : RepairJournalEntry) : entry.toDict.Plain := by
  apply JsonValue.plain_record ["entry_id", "repair_run_id", "operation_type", "status",
    "asset_id", "table", "old_db_values", "new_db_values", "original_path", "quarantine_path",
    "undo_type", "undo_payload", "error_details", "created_at"] rfl (by decide)
  simp only [List.map_cons, List.map_nil, List.forall_mem_cons]
  refine ⟨entry.entryId.plain, entry.repairRunId.text.plain, entry.operationType.plain,
    plainText_valueOf (by decide), (JsonValue.sortKeys_ofPlain? _).1,
    (JsonValue.sortKeys_ofPlain? _).1, (JsonValue.sortKeys_ofDict? _).1,
    (JsonValue.sortKeys_ofDict? _).1, (JsonValue.sortKeys_ofPlain? _).1,
    (JsonValue.sortKeys_ofPlain? _).1, plainText_valueOf (by decide),
    (JsonValue.plain_of_canonical entry.undoPayload.canonical).1,
    (JsonValue.sortKeys_ofDict? _).1, entry.createdAt.plain, by simp⟩

theorem entryFromDict_toDict (entry : RepairJournalEntry) :
    RepairJournalEntry.fromDict entry.toDict.sortKeys = some entry := by
  have find := JsonValue.field?_of_plain (plain_entryToDict entry)
  have hpayload := (JsonValue.plain_of_canonical entry.undoPayload.canonical).2
  unfold RepairJournalEntry.toDict
  simp only [RepairJournalEntry.fromDict, find (py "entry_id") _ rfl rfl,
    find (py "repair_run_id") _ rfl rfl, find (py "operation_type") _ rfl rfl,
    find (py "status") _ rfl rfl, find (py "asset_id") _ rfl (JsonValue.sortKeys_ofPlain? _).2,
    find (py "table") _ rfl (JsonValue.sortKeys_ofPlain? _).2,
    find (py "old_db_values") _ rfl (JsonValue.sortKeys_ofDict? _).2,
    find (py "new_db_values") _ rfl (JsonValue.sortKeys_ofDict? _).2,
    find (py "original_path") _ rfl (JsonValue.sortKeys_ofPlain? _).2,
    find (py "quarantine_path") _ rfl (JsonValue.sortKeys_ofPlain? _).2,
    find (py "undo_type") _ rfl rfl, find (py "undo_payload") _ rfl hpayload,
    find (py "error_details") _ rfl (JsonValue.sortKeys_ofDict? _).2,
    find (py "created_at") _ rfl rfl, Option.bind_eq_bind, Option.bind_some, Option.getD_some,
    JsonValue.toPlain?_str, toRunId?_str, memberOf_valueOf_entryStatus,
    JsonValue.toOptionalPlain?_ofPlain?, JsonValue.toOptionalDict?_ofDict?,
    memberOf_valueOf_undoType, JsonValue.toDict?_obj]
  rfl

theorem plain_itemToDict (item : QuarantineItem) : item.toDict.Plain := by
  apply JsonValue.plain_record ["quarantine_item_id", "repair_run_id", "asset_id", "source_path",
    "quarantine_path", "reason", "checksum", "size_bytes", "restorable", "owner_id",
    "owner_label", "category_key", "finding_id", "source_kind", "root_slug", "relative_path",
    "original_relative_path", "db_reference_kind", "state", "state_changed_at", "deleted_at",
    "created_at"] rfl (by decide)
  simp only [List.map_cons, List.map_nil, List.forall_mem_cons]
  refine ⟨item.quarantineItemId.plain, item.repairRunId.text.plain,
    (JsonValue.sortKeys_ofPlain? _).1, item.sourcePath.plain, item.quarantinePath.plain,
    item.reason.plain, (JsonValue.sortKeys_ofPlain? _).1, (JsonValue.sortKeys_ofInt? _).1, trivial,
    (JsonValue.sortKeys_ofPlain? _).1, (JsonValue.sortKeys_ofPlain? _).1,
    (JsonValue.sortKeys_ofPlain? _).1, (JsonValue.sortKeys_ofPlain? _).1,
    (JsonValue.sortKeys_ofPlain? _).1, (JsonValue.sortKeys_ofPlain? _).1,
    (JsonValue.sortKeys_ofPlain? _).1, (JsonValue.sortKeys_ofPlain? _).1,
    (JsonValue.sortKeys_ofPlain? _).1, item.state.plain, (JsonValue.sortKeys_ofPlain? _).1,
    (JsonValue.sortKeys_ofPlain? _).1, item.createdAt.plain, by simp⟩

/-- An item as it comes back: an empty state is read as the default. -/
def asRead (item : QuarantineItem) : QuarantineItem :=
  if item.state.text = [] then { item with state := plain "active" } else item

theorem stateOf_str (state : PlainStr) : QuarantineItem.stateOf (.str state.text) =
    some (if state.text = [] then plain "active" else state) := by
  have hread := JsonValue.toOptionalPlain?_ofPlain? (some state)
  rw [QuarantineItem.stateOf, show JsonValue.toOptionalPlain? (.str state.text) = _ from hread]
  by_cases h : state.text = []
  · simp [h, Option.filter]
  · simp [h, Option.filter]

theorem itemFromDict_toDict (item : QuarantineItem) :
    QuarantineItem.fromDict item.toDict.sortKeys = some (asRead item) := by
  have find := JsonValue.field?_of_plain (plain_itemToDict item)
  unfold QuarantineItem.toDict
  simp only [QuarantineItem.fromDict, find (py "quarantine_item_id") _ rfl rfl,
    find (py "repair_run_id") _ rfl rfl,
    find (py "asset_id") _ rfl (JsonValue.sortKeys_ofPlain? _).2,
    find (py "source_path") _ rfl rfl, find (py "quarantine_path") _ rfl rfl,
    find (py "reason") _ rfl rfl, find (py "checksum") _ rfl (JsonValue.sortKeys_ofPlain? _).2,
    find (py "size_bytes") _ rfl (JsonValue.sortKeys_ofInt? _).2,
    find (py "restorable") _ rfl rfl,
    find (py "owner_id") _ rfl (JsonValue.sortKeys_ofPlain? _).2,
    find (py "owner_label") _ rfl (JsonValue.sortKeys_ofPlain? _).2,
    find (py "category_key") _ rfl (JsonValue.sortKeys_ofPlain? _).2,
    find (py "finding_id") _ rfl (JsonValue.sortKeys_ofPlain? _).2,
    find (py "source_kind") _ rfl (JsonValue.sortKeys_ofPlain? _).2,
    find (py "root_slug") _ rfl (JsonValue.sortKeys_ofPlain? _).2,
    find (py "relative_path") _ rfl (JsonValue.sortKeys_ofPlain? _).2,
    find (py "original_relative_path") _ rfl (JsonValue.sortKeys_ofPlain? _).2,
    find (py "db_reference_kind") _ rfl (JsonValue.sortKeys_ofPlain? _).2,
    find (py "state") _ rfl rfl,
    find (py "state_changed_at") _ rfl (JsonValue.sortKeys_ofPlain? _).2,
    find (py "deleted_at") _ rfl (JsonValue.sortKeys_ofPlain? _).2,
    find (py "created_at") _ rfl rfl, Option.bind_eq_bind, Option.bind_some, Option.getD_some,
    JsonValue.toPlain?_str, toRunId?_str, JsonValue.toOptionalPlain?_ofPlain?,
    JsonValue.toOptionalInt?_ofInt?, JsonValue.toBool?_bool, stateOf_str]
  unfold asRead
  split <;> rfl

end Records

/-! ## Paths -/

/-- The files in the directory of a run. -/
inductive RunFile
  | run
  | planToken
  | journal
  | quarantineItems
  deriving DecidableEq

namespace RunFile

def name : RunFile → PyStr
  | run => py "run.json"
  | planToken => py "plan-token.json"
  | journal => py "journal.jsonl"
  | quarantineItems => py "quarantine-items.jsonl"

def path (settings : AppSettings) (id : RunId) (file : RunFile) : FilePath :=
  repairRunDirectory settings id ++ [file.name]

variable {settings : AppSettings} {a b : RunId} {file other : RunFile}

/-- A file in the directory of a run is one of that run alone. -/
@[simp] theorem path_eq_iff :
    file.path settings a = other.path settings b ↔ file = other ∧ a = b := by
  have hname : file.name = other.name ↔ file = other := by
    cases file <;> cases other <;> decide
  have htext : a.text.text = b.text.text ↔ a = b :=
    ⟨fun h => RunId.ext (PlainStr.ext h), fun h => by rw [h]⟩
  rw [path, path, repairRunDirectory, repairRunDirectory, List.append_assoc, List.append_assoc,
    List.append_cancel_left_eq]
  simp only [List.singleton_append, List.cons.injEq, and_true, hname, htext]
  exact and_comm

@[simp] theorem path_ne_index : file.path settings a ≠ quarantineIndexFile settings := by
  intro heq
  have hlast := congrArg List.getLast? heq
  rw [path, quarantineIndexFile, List.getLast?_append_cons, List.getLast?_append_cons,
    List.getLast?_singleton, List.getLast?_singleton, Option.some.injEq] at hlast
  revert hlast
  cases file <;> decide

@[simp] theorem index_ne_path : quarantineIndexFile settings ≠ file.path settings a :=
  path_ne_index.symm

end RunFile

section Paths

variable (settings : AppSettings) (id : RunId)

@[simp] theorem repairRunFile_eq : repairRunFile settings id = RunFile.run.path settings id := rfl

@[simp] theorem repairPlanTokenFile_eq :
    repairPlanTokenFile settings id = RunFile.planToken.path settings id := rfl

@[simp] theorem repairJournalFile_eq :
    repairJournalFile settings id = RunFile.journal.path settings id :=
  rfl

@[simp] theorem repairQuarantineItemsFile_eq :
    repairQuarantineItemsFile settings id = RunFile.quarantineItems.path settings id := rfl

end Paths

/-! ## What the calls have recorded -/

namespace StoreCall

/-- The run that a call writes under this id. -/
def runFor (id : RunId) : StoreCall → Option RepairRun
  | createRun run _ | updateRun run => if run.repairRunId = id then some run else none
  | _ => none

def tokenFor (id : RunId) : StoreCall → Option PlanToken
  | createRun run token => if run.repairRunId = id then some token else none
  | _ => none

def entryFor (id : RunId) : StoreCall → Option RepairJournalEntry
  | appendJournalEntry entry => if entry.repairRunId = id then some entry else none
  | _ => none

def item? : StoreCall → Option QuarantineItem
  | appendQuarantineItem item => some item
  | _ => none

def itemFor (id : RunId) (call : StoreCall) : Option QuarantineItem :=
  call.item?.filter fun item => item.repairRunId = id

end StoreCall

/-- The text of a document of which this is the last version. -/
def documentOf (payload : Option JsonValue) : Option PyStr :=
  payload.map JsonValue.jsonDocument

/-- The files are what the calls have recorded. -/
structure Records (settings : AppSettings) (calls : List StoreCall) (files : TextFiles) : Prop where
  run : ∀ id, files (repairRunFile settings id) =
    documentOf ((calls.filterMap (·.runFor id)).getLast?.map RepairRun.toDict)
  token : ∀ id, files (repairPlanTokenFile settings id) =
    documentOf ((calls.filterMap (·.tokenFor id)).getLast?.map PlanToken.toDict)
  journal : ∀ id, (files (repairJournalFile settings id)).getD [] =
    JsonValue.jsonLines ((calls.filterMap (·.entryFor id)).map RepairJournalEntry.toDict)
  items : ∀ id, (files (repairQuarantineItemsFile settings id)).getD [] =
    JsonValue.jsonLines ((calls.filterMap (·.itemFor id)).map QuarantineItem.toDict)
  index : (files (quarantineIndexFile settings)).getD [] =
    JsonValue.jsonLines ((calls.filterMap StoreCall.item?).map QuarantineItem.toDict)

section Steps

variable {settings : AppSettings} {calls : List StoreCall} {files : TextFiles}

theorem filterMap_append_singleton {α β : Type} (f : β → Option α) (earlier : List β) (last : β) :
    (earlier ++ [last]).filterMap f = earlier.filterMap f ++ (f last).toList := by
  rw [List.filterMap_append]
  cases h : f last <;> simp [h]

/-- A document after a call that may write a new version of it. -/
theorem documentOf_append {α : Type} (toDict : α → JsonValue) (earlier : List α)
    (last : Option α) :
    documentOf ((earlier ++ last.toList).getLast?.map toDict) =
      (documentOf (last.map toDict)).or (documentOf (earlier.getLast?.map toDict)) := by
  cases last with
  | none => rw [Option.toList_none, List.append_nil]; rfl
  | some value => rw [Option.toList_some, List.getLast?_append_cons]; rfl

/-- A file of lines after a call that may append one. -/
theorem jsonLines_append_toList {α : Type} (toDict : α → JsonValue) (earlier : List α)
    (last : Option α) :
    JsonValue.jsonLines ((earlier ++ last.toList).map toDict) =
      JsonValue.jsonLines (earlier.map toDict) ++ (last.map fun value =>
        (toDict value).jsonLine).getD [] := by
  cases last with
  | none => rw [Option.toList_none, List.append_nil]; exact (List.append_nil _).symm
  | some value =>
      rw [Option.toList_some, List.map_append, List.map_singleton, JsonValue.jsonLines_append]
      rfl

theorem records_createRun (h : Records settings calls files) (run : RepairRun)
    (token : PlanToken) :
    Records settings (calls ++ [.createRun run token]) (createRun settings run token files) := by
  constructor
  · intro id
    rw [filterMap_append_singleton, documentOf_append, ← h.run id]
    by_cases hid : run.repairRunId = id
    · simp [createRun, writeJson, TextFiles.write_apply, TextFiles.touch_apply, StoreCall.runFor,
        hid, documentOf]
    · simp [createRun, writeJson, TextFiles.write_apply, TextFiles.touch_apply, StoreCall.runFor,
        hid, Ne.symm hid, documentOf]
  · intro id
    rw [filterMap_append_singleton, documentOf_append, ← h.token id]
    by_cases hid : run.repairRunId = id
    · simp [createRun, writeJson, TextFiles.write_apply, TextFiles.touch_apply,
        StoreCall.tokenFor, hid, documentOf]
    · simp [createRun, writeJson, TextFiles.write_apply, TextFiles.touch_apply,
        StoreCall.tokenFor, hid, Ne.symm hid, documentOf]
  · intro id
    rw [filterMap_append_singleton, jsonLines_append_toList, ← h.journal id]
    simp [createRun, writeJson, TextFiles.write_apply, TextFiles.getD_touch, StoreCall.entryFor]
  · intro id
    rw [filterMap_append_singleton, jsonLines_append_toList, ← h.items id]
    simp [createRun, writeJson, TextFiles.write_apply, TextFiles.getD_touch, StoreCall.itemFor,
      StoreCall.item?]
  · rw [filterMap_append_singleton, jsonLines_append_toList, ← h.index]
    simp [createRun, writeJson, TextFiles.write_apply, TextFiles.getD_touch, StoreCall.item?]

theorem records_updateRun (h : Records settings calls files) (run : RepairRun) :
    Records settings (calls ++ [.updateRun run]) (updateRun settings run files) := by
  constructor
  · intro id
    rw [filterMap_append_singleton, documentOf_append, ← h.run id]
    by_cases hid : run.repairRunId = id
    · simp [updateRun, writeJson, TextFiles.write_apply, StoreCall.runFor, hid, documentOf]
    · simp [updateRun, writeJson, TextFiles.write_apply, StoreCall.runFor, hid, Ne.symm hid,
        documentOf]
  · intro id
    rw [filterMap_append_singleton, documentOf_append, ← h.token id]
    simp [updateRun, writeJson, TextFiles.write_apply, StoreCall.tokenFor, documentOf]
  · intro id
    rw [filterMap_append_singleton, jsonLines_append_toList, ← h.journal id]
    simp [updateRun, writeJson, TextFiles.write_apply, StoreCall.entryFor]
  · intro id
    rw [filterMap_append_singleton, jsonLines_append_toList, ← h.items id]
    simp [updateRun, writeJson, TextFiles.write_apply, StoreCall.itemFor, StoreCall.item?]
  · rw [filterMap_append_singleton, jsonLines_append_toList, ← h.index]
    simp [updateRun, writeJson, TextFiles.write_apply, StoreCall.item?]

theorem records_appendJournalEntry (h : Records settings calls files)
    (entry : RepairJournalEntry) :
    Records settings (calls ++ [.appendJournalEntry entry])
      (appendJournalEntry settings entry files) := by
  constructor
  · intro id
    rw [filterMap_append_singleton, documentOf_append, ← h.run id]
    simp [appendJournalEntry, appendJsonLine, TextFiles.append_apply, StoreCall.runFor, documentOf]
  · intro id
    rw [filterMap_append_singleton, documentOf_append, ← h.token id]
    simp [appendJournalEntry, appendJsonLine, TextFiles.append_apply, StoreCall.tokenFor,
      documentOf]
  · intro id
    rw [filterMap_append_singleton, jsonLines_append_toList, ← h.journal id]
    by_cases hid : entry.repairRunId = id
    · simp [appendJournalEntry, appendJsonLine, TextFiles.getD_append, StoreCall.entryFor, hid]
    · simp [appendJournalEntry, appendJsonLine, TextFiles.getD_append, StoreCall.entryFor, hid,
        Ne.symm hid]
  · intro id
    rw [filterMap_append_singleton, jsonLines_append_toList, ← h.items id]
    simp [appendJournalEntry, appendJsonLine, TextFiles.getD_append, StoreCall.itemFor,
      StoreCall.item?]
  · rw [filterMap_append_singleton, jsonLines_append_toList, ← h.index]
    simp [appendJournalEntry, appendJsonLine, TextFiles.getD_append, StoreCall.item?]

theorem records_appendQuarantineItem (h : Records settings calls files) (item : QuarantineItem) :
    Records settings (calls ++ [.appendQuarantineItem item])
      (appendQuarantineItem settings item files) := by
  constructor
  · intro id
    rw [filterMap_append_singleton, documentOf_append, ← h.run id]
    simp [appendQuarantineItem, appendJsonLine, TextFiles.append_apply, StoreCall.runFor,
      documentOf]
  · intro id
    rw [filterMap_append_singleton, documentOf_append, ← h.token id]
    simp [appendQuarantineItem, appendJsonLine, TextFiles.append_apply, StoreCall.tokenFor,
      documentOf]
  · intro id
    rw [filterMap_append_singleton, jsonLines_append_toList, ← h.journal id]
    simp [appendQuarantineItem, appendJsonLine, TextFiles.getD_append, StoreCall.entryFor]
  · intro id
    rw [filterMap_append_singleton, jsonLines_append_toList, ← h.items id]
    by_cases hid : item.repairRunId = id
    · simp [appendQuarantineItem, appendJsonLine, TextFiles.getD_append, StoreCall.itemFor,
        StoreCall.item?, Option.filter, hid]
    · simp [appendQuarantineItem, appendJsonLine, TextFiles.getD_append, StoreCall.itemFor,
        StoreCall.item?, Option.filter, hid, Ne.symm hid]
  · rw [filterMap_append_singleton, jsonLines_append_toList, ← h.index]
    simp [appendQuarantineItem, appendJsonLine, TextFiles.getD_append, StoreCall.item?]

/-- One call keeps the records. -/
theorem records_perform (h : Records settings calls files) (call : StoreCall) :
    Records settings (calls ++ [call]) (call.perform settings files) := by
  cases call with
  | createRun run token => exact records_createRun h run token
  | updateRun run => exact records_updateRun h run
  | appendJournalEntry entry => exact records_appendJournalEntry h entry
  | appendQuarantineItem item => exact records_appendQuarantineItem h item

/-- So does every list of calls. -/
theorem records_filesAfter (settings : AppSettings) (calls : List StoreCall) :
    Records settings calls (filesAfter settings calls) := by
  induction calls using List.reverseRecOn with
  | nil => exact ⟨fun _ => rfl, fun _ => rfl, fun _ => rfl, fun _ => rfl, rfl⟩
  | append_singleton calls call ih =>
      rw [filesAfter, List.foldl_append]
      exact records_perform ih call

end Steps

/-! ## Loading -/

section Loads

variable {settings : AppSettings} {calls : List StoreCall} {files : TextFiles}

/-- A document is loaded as it was last written. -/
theorem readJson_documentOf {path : FilePath} {payload : Option JsonValue}
    (hplain : ∀ value ∈ payload, value.Plain) (h : files path = documentOf payload) :
    readJson files path = payload.map JsonValue.sortKeys := by
  rw [readJson, h, documentOf]
  cases payload with
  | none => rfl
  | some payload => exact JsonValue.loads_jsonDocument (hplain payload rfl)

/-- An item is the last one with its id. -/
def LastWithId (items : List QuarantineItem) (item : QuarantineItem) : Prop :=
  ∃ before after, items = before ++ item :: after ∧
    ∀ other ∈ after, other.quarantineItemId ≠ item.quarantineItemId

/-- The items are the last ones with their ids, one for each. -/
structure Collapsed (items latest : List QuarantineItem) : Prop where
  nodup : (latest.map QuarantineItem.quarantineItemId).Nodup
  mem_iff : ∀ item, item ∈ latest ↔ LastWithId items item

theorem collapsed_collapse (items : List QuarantineItem) :
    Collapsed items (collapseQuarantineItems items) := by
  refine ⟨Table.unique _, fun item => ?_⟩
  induction items using List.reverseRecOn with
  | nil =>
      refine iff_of_false List.not_mem_nil ?_
      rintro ⟨before, after, heq, -⟩
      exact absurd heq.symm (by simp)
  | append_singleton items last ih =>
      rw [collapseQuarantineItems, List.foldl_append, List.foldl_cons, List.foldl_nil,
        Table.mem_put]
      constructor
      · rintro (rfl | ⟨hmem, hne⟩)
        · exact ⟨items, [], rfl, by simp⟩
        · obtain ⟨before, after, rfl, hlast⟩ := ih.mp hmem
          refine ⟨before, after ++ [last], by simp, fun other hother => ?_⟩
          rcases List.mem_append.mp hother with hafter | hsame
          · exact hlast other hafter
          · rw [List.mem_singleton.mp hsame]
            exact hne.symm
      · rintro ⟨before, after, heq, hlast⟩
        rcases List.eq_nil_or_concat after with rfl | ⟨front, final, rfl⟩
        · have hsame := (List.append_inj' heq rfl).2
          exact .inl (List.cons.inj hsame).1.symm
        · rw [List.concat_eq_append] at heq hlast
          have hcut : items ++ [last] = (before ++ item :: front) ++ [final] := by
            rw [heq, List.append_assoc]
            rfl
          obtain ⟨hitems, hfinal⟩ := List.append_inj' hcut rfl
          have hne := hlast final (List.mem_append_right _ List.mem_cons_self)
          rw [← (List.cons.inj hfinal).1] at hne
          exact .inr ⟨ih.mpr ⟨before, front, hitems, fun other hother =>
            hlast other (List.mem_append_left _ hother)⟩, hne.symm⟩

theorem loadItems_of_lines {path : FilePath} {items : List QuarantineItem}
    (h : (files path).getD [] = JsonValue.jsonLines (items.map QuarantineItem.toDict)) :
    (do
      let payloads ← readJsonLines files path
      return collapseQuarantineItems (← payloads.mapM QuarantineItem.fromDict) : Option _) =
        some (collapseQuarantineItems (items.map asRead)) := by
  have hplain : ∀ value ∈ items.map QuarantineItem.toDict, value.Plain := by
    intro value hvalue
    obtain ⟨item, -, rfl⟩ := List.mem_map.mp hvalue
    exact plain_itemToDict item
  have hitems : ((items.map QuarantineItem.toDict).map JsonValue.sortKeys).mapM
      QuarantineItem.fromDict = some (items.map asRead) := by
    rw [mapM_eq_some_iff, List.map_map, List.map_map, List.map_map]
    exact List.map_congr_left fun item _ => itemFromDict_toDict item
  rw [readJsonLines, JsonValue.readJsonLinesOf_of_getD hplain h]
  simp only [Option.bind_eq_bind, Option.bind_some, hitems]
  rfl

/-- After any calls, a run and its token are loaded as they were last written, the journal holds
the entries of the run in the order of the calls, and of the items with one id the last is
there, in the file of its run and in the index. -/
theorem store_keeps_records (settings : AppSettings) (calls : List StoreCall) (id : RunId) :
    loadRun settings (filesAfter settings calls) id = (calls.filterMap (·.runFor id)).getLast? ∧
      loadPlanToken settings (filesAfter settings calls) id =
        (calls.filterMap (·.tokenFor id)).getLast? ∧
      loadJournalEntries settings (filesAfter settings calls) id =
        some (calls.filterMap (·.entryFor id)) ∧
      (∃ items, loadQuarantineItems settings (filesAfter settings calls) id = some items ∧
        Collapsed ((calls.filterMap (·.itemFor id)).map asRead) items) ∧
      ∃ items, loadQuarantineIndex settings (filesAfter settings calls) = some items ∧
        Collapsed ((calls.filterMap StoreCall.item?).map asRead) items := by
  have hrecords := records_filesAfter settings calls
  refine ⟨?_, ?_, ?_, ?_, ?_⟩
  · have hread := readJson_documentOf (fun value hvalue => ?_) (hrecords.run id)
    · rw [loadRun, hread]
      cases (calls.filterMap (·.runFor id)).getLast? with
      | none => rfl
      | some run =>
          rw [Option.map_some, Option.map_some, Option.bind_some]
          exact runFromDict_toDict run
    · obtain ⟨run, -, rfl⟩ := Option.map_eq_some_iff.mp hvalue
      exact plain_runToDict run
  · have hread := readJson_documentOf (fun value hvalue => ?_) (hrecords.token id)
    · rw [loadPlanToken, hread]
      cases (calls.filterMap (·.tokenFor id)).getLast? with
      | none => rfl
      | some token =>
          rw [Option.map_some, Option.map_some, Option.bind_some]
          exact tokenFromDict_toDict token
    · obtain ⟨token, -, rfl⟩ := Option.map_eq_some_iff.mp hvalue
      exact plain_tokenToDict token
  · have hread := JsonValue.readJsonLinesOf_of_getD (fun value hvalue => ?_) (hrecords.journal id)
    · rw [loadJournalEntries, readJsonLines, hread]
      simp only [Option.bind_eq_bind, Option.bind_some]
      rw [mapM_eq_some_iff, List.map_map, List.map_map]
      exact List.map_congr_left fun entry _ => entryFromDict_toDict entry
    · obtain ⟨entry, -, rfl⟩ := List.mem_map.mp hvalue
      exact plain_entryToDict entry
  · exact ⟨_, loadItems_of_lines (hrecords.items id), collapsed_collapse _⟩
  · exact ⟨_, loadItems_of_lines hrecords.index, collapsed_collapse _⟩

end Loads

end ImmichDoctor.Repair.Journal
