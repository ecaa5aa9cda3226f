import ImmichDoctor.Repair.InterruptedCalls
import ImmichDoctor.Repair.Proofs.JournalRefinement
/-!
# What interrupted calls leave

The files are the texts of the calls, each as far as it was written. So a document is loaded as
it was last begun, or not at all, and a file of lines gives its complete lines back or, once it is
damaged, nothing any more.
-/

namespace ImmichDoctor.Repair.Journal

open ImmichDoctor.Library

/-! ## What has reached the files -/

namespace StoreAttempt

variable (id : RunId) (attempt : StoreAttempt)

/-- The run that an attempt writes under this id, and how much of its document there is. -/
def runCut : Option (RepairRun × Nat) :=
  if attempt.begun 0 then
    (attempt.call.runFor id).map fun run => (run, attempt.kept 0 run.toDict.jsonDocument)
  else none

def tokenCut : Option (PlanToken × Nat) :=
  if attempt.begun 1 then
    (attempt.call.tokenFor id).map fun token => (token, attempt.kept 1 token.toDict.jsonDocument)
  else none

/-- The entry that an attempt appends for this run, and how much of its line there is. -/
def entryCut : Option (RepairJournalEntry × Nat) :=
  (attempt.call.entryFor id).map fun entry => (entry, attempt.kept 0 entry.toDict.jsonLine)

def itemCut : Option (QuarantineItem × Nat) :=
  (attempt.call.itemFor id).map fun item => (item, attempt.kept 0 item.toDict.jsonLine)

/-- The same in the index, which comes second. -/
def indexCut : Option (QuarantineItem × Nat) :=
  attempt.call.item?.map fun item => (item, attempt.kept 1 item.toDict.jsonLine)

end StoreAttempt

section Files

variable {α : Type} (toDict : α → JsonValue)

def partOfDocument (cut : α × Nat) : PyStr :=
  (toDict cut.1).jsonDocument.take cut.2

def lineCut (cut : α × Nat) : JsonValue.LineCut :=
  ⟨toDict cut.1, cut.2⟩

/-- The text of a file of lines. -/
def partsOfLines (cuts : List (α × Nat)) : PyStr :=
  (cuts.map (lineCut toDict)).flatMap JsonValue.LineCut.text

/-- What is loaded of the versions of a document, of which the last is in the file. -/
def loadedDocument (cuts : List (α × Nat)) : Option α := do
  let (value, kept) ← cuts.getLast?
  if (toDict value).jsonDocument.length ≤ kept + 1 then some value else none

/-- What is loaded of a file of lines. -/
def loadedLines (cuts : List (α × Nat)) : Option (List α) :=
  if JsonValue.LineCut.damaged (cuts.map (lineCut toDict)) then none
  else some ((cuts.filter fun cut => (lineCut toDict cut).complete).map Prod.fst)

end Files

/-- The files are what the attempts have left. -/
structure Leaves (settings : AppSettings) (attempts : List StoreAttempt) (files : TextFiles) :
    Prop where
  run : ∀ id, files (repairRunFile settings id) =
    (attempts.filterMap (·.runCut id)).getLast?.map (partOfDocument RepairRun.toDict)
  token : ∀ id, files (repairPlanTokenFile settings id) =
    (attempts.filterMap (·.tokenCut id)).getLast?.map (partOfDocument PlanToken.toDict)
  journal : ∀ id, (files (repairJournalFile settings id)).getD [] =
    partsOfLines RepairJournalEntry.toDict (attempts.filterMap (·.entryCut id))
  items : ∀ id, (files (repairQuarantineItemsFile settings id)).getD [] =
    partsOfLines QuarantineItem.toDict (attempts.filterMap (·.itemCut id))
  index : (files (quarantineIndexFile settings)).getD [] =
    partsOfLines QuarantineItem.toDict (attempts.filterMap StoreAttempt.indexCut)

/-! ## One operation -/

section Operations

variable (attempt : StoreAttempt) (index : Nat) (files : TextFiles)

theorem kept_of_not_begun {attempt : StoreAttempt} {index : Nat}
    (h : attempt.begun index = false) (text : PyStr) : attempt.kept index text = 0 := by
  unfold StoreAttempt.begun at h
  unfold StoreAttempt.kept
  cases hstop : attempt.stop with
  | none => rw [hstop] at h; cases h
  | some stop =>
      rw [hstop, Bool.or_eq_false_iff, decide_eq_false_iff_not, Bool.and_eq_false_iff,
        decide_eq_false_iff_not] at h
      simp only
      rw [if_neg h.1]
      split
      · next heq =>
          rcases h.2 with hne | hpart
          · exact absurd heq hne
          · rw [Option.isSome_eq_false_iff, Option.isNone_iff_eq_none] at hpart
            rw [hpart]
            rfl
      · rfl

/-- An operation leaves the other files alone. -/
theorem performOp_apply_of_ne {op : FileOp} {path : FilePath} (h : path ≠ op.path) :
    attempt.performOp index op files path = files path := by
  unfold StoreAttempt.performOp
  split
  · cases op with
    | writeJson other payload => exact (TextFiles.write_apply _ _).trans (if_neg h)
    | appendJsonLine other payload => exact (TextFiles.append_apply _ _).trans (if_neg h)
    | touch other => exact (TextFiles.touch_apply _).trans (if_neg h)
  · rfl

theorem performOp_writeJson (path other : FilePath) (payload : JsonValue) :
    attempt.performOp index (.writeJson path payload) files other =
      if other = path then
        if attempt.begun index then
          some (payload.jsonDocument.take (attempt.kept index payload.jsonDocument))
        else files other
      else files other := by
  by_cases h : other = path
  · rw [if_pos h, h]
    unfold StoreAttempt.performOp
    split
    · exact (TextFiles.write_apply _ _).trans (if_pos rfl)
    · rfl
  · rw [if_neg h]
    exact performOp_apply_of_ne attempt index files h

theorem performOp_touch (path other : FilePath) (h : other ≠ path) :
    attempt.performOp index (.touch path) files other = files other :=
  performOp_apply_of_ne attempt index files h

theorem performOp_appendJsonLine (path other : FilePath) (payload : JsonValue)
    (h : other ≠ path) :
    attempt.performOp index (.appendJsonLine path payload) files other = files other :=
  performOp_apply_of_ne attempt index files h

theorem getD_performOp_appendJsonLine (path other : FilePath) (payload : JsonValue) :
    (attempt.performOp index (.appendJsonLine path payload) files other).getD [] =
      (files other).getD [] ++ if other = path then
        payload.jsonLine.take (attempt.kept index payload.jsonLine) else [] := by
  by_cases h : other = path
  · rw [if_pos h, h]
    unfold StoreAttempt.performOp
    split
    · rw [FileOp.perform, TextFiles.getD_append, if_pos rfl]
      rfl
    · next hbegun =>
        rw [kept_of_not_begun (Bool.eq_false_iff.mpr hbegun), List.take_zero, List.append_nil]
  · rw [if_neg h, performOp_appendJsonLine _ _ _ _ _ _ h, List.append_nil]

theorem getD_performOp_touch (path other : FilePath) :
    (attempt.performOp index (.touch path) files other).getD [] = (files other).getD [] := by
  unfold StoreAttempt.performOp
  split
  · exact TextFiles.getD_touch other
  · rfl

end Operations

/-! ## One attempt -/

section Steps

variable {settings : AppSettings} {attempts : List StoreAttempt} {files : TextFiles}

theorem getLast?_append_toList {α β : Type} (g : α → β) (earlier : List α) (last : Option α) :
    (earlier ++ last.toList).getLast?.map g = (last.map g).or (earlier.getLast?.map g) := by
  cases last with
  | none => rw [Option.toList_none, List.append_nil]; rfl
  | some value => rw [Option.toList_some, List.getLast?_append_cons]; rfl

theorem partsOfLines_append_toList {α : Type} (toDict : α → JsonValue)
    (earlier : List (α × Nat)) (last : Option (α × Nat)) :
    partsOfLines toDict (earlier ++ last.toList) =
      partsOfLines toDict earlier ++ (last.map fun cut =>
        (toDict cut.1).jsonLine.take cut.2).getD [] := by
  unfold partsOfLines
  rw [List.map_append, List.flatMap_append]
  cases last with
  | none => rfl
  | some cut => exact congrArg (_ ++ ·) (List.append_nil _)

section Calls

variable (h : Leaves settings attempts files) (stop : Option Stop)
include h

theorem leaves_createRun (run : RepairRun) (token : PlanToken) :
    Leaves settings (attempts ++ [⟨.createRun run token, stop⟩])
      (StoreAttempt.perform settings files ⟨.createRun run token, stop⟩) := by
  constructor
  · intro id
    rw [filterMap_append_singleton, getLast?_append_toList, ← h.run id]
    by_cases hid : run.repairRunId = id
    · simp [StoreAttempt.perform, StoreCall.ops, StoreAttempt.performFrom, performOp_touch,
        performOp_writeJson, StoreAttempt.runCut, StoreCall.runFor, hid]
      split <;> rfl
    · simp [StoreAttempt.perform, StoreCall.ops, StoreAttempt.performFrom, performOp_touch,
        performOp_writeJson, StoreAttempt.runCut, StoreCall.runFor, hid, Ne.symm hid]
  · intro id
    rw [filterMap_append_singleton, getLast?_append_toList, ← h.token id]
    by_cases hid : run.repairRunId = id
    · simp [StoreAttempt.perform, StoreCall.ops, StoreAttempt.performFrom, performOp_touch,
        performOp_writeJson, StoreAttempt.tokenCut, StoreCall.tokenFor, hid]
      split <;> rfl
    · simp [StoreAttempt.perform, StoreCall.ops, StoreAttempt.performFrom, performOp_touch,
        performOp_writeJson, StoreAttempt.tokenCut, StoreCall.tokenFor, hid, Ne.symm hid]
  · intro id
    rw [filterMap_append_singleton, partsOfLines_append_toList, ← h.journal id]
    simp [StoreAttempt.perform, StoreCall.ops, StoreAttempt.performFrom, getD_performOp_touch,
      performOp_writeJson, StoreAttempt.entryCut, StoreCall.entryFor]
  · intro id
    rw [filterMap_append_singleton, partsOfLines_append_toList, ← h.items id]
    simp [StoreAttempt.perform, StoreCall.ops, StoreAttempt.performFrom, getD_performOp_touch,
      performOp_writeJson, StoreAttempt.itemCut, StoreCall.itemFor, StoreCall.item?]
  · rw [filterMap_append_singleton, partsOfLines_append_toList, ← h.index]
    simp [StoreAttempt.perform, StoreCall.ops, StoreAttempt.performFrom, getD_performOp_touch,
      performOp_writeJson, StoreAttempt.indexCut, StoreCall.item?]

theorem leaves_updateRun (run : RepairRun) :
    Leaves settings (attempts ++ [⟨.updateRun run, stop⟩])
      (StoreAttempt.perform settings files ⟨.updateRun run, stop⟩) := by
  constructor
  · intro id
    rw [filterMap_append_singleton, getLast?_append_toList, ← h.run id]
    by_cases hid : run.repairRunId = id
    · simp [StoreAttempt.perform, StoreCall.ops, StoreAttempt.performFrom, performOp_writeJson,
        StoreAttempt.runCut, StoreCall.runFor, hid]
      split <;> rfl
    · simp [StoreAttempt.perform, StoreCall.ops, StoreAttempt.performFrom, performOp_writeJson,
        StoreAttempt.runCut, StoreCall.runFor, hid, Ne.symm hid]
  · intro id
    rw [filterMap_append_singleton, getLast?_append_toList, ← h.token id]
    simp [StoreAttempt.perform, StoreCall.ops, StoreAttempt.performFrom, performOp_writeJson,
      StoreAttempt.tokenCut, StoreCall.tokenFor]
  · intro id
    rw [filterMap_append_singleton, partsOfLines_append_toList, ← h.journal id]
    simp [StoreAttempt.perform, StoreCall.ops, StoreAttempt.performFrom, performOp_writeJson,
      StoreAttempt.entryCut, StoreCall.entryFor]
  · intro id
    rw [filterMap_append_singleton, partsOfLines_append_toList, ← h.items id]
    simp [StoreAttempt.perform, StoreCall.ops, StoreAttempt.performFrom, performOp_writeJson,
      StoreAttempt.itemCut, StoreCall.itemFor, StoreCall.item?]
  · rw [filterMap_append_singleton, partsOfLines_append_toList, ← h.index]
    simp [StoreAttempt.perform, StoreCall.ops, StoreAttempt.performFrom, performOp_writeJson,
      StoreAttempt.indexCut, StoreCall.item?]

theorem leaves_appendJournalEntry (entry : RepairJournalEntry) :
    Leaves settings (attempts ++ [⟨.appendJournalEntry entry, stop⟩])
      (StoreAttempt.perform settings files ⟨.appendJournalEntry entry, stop⟩) := by
  constructor
  · intro id
    rw [filterMap_append_singleton, getLast?_append_toList, ← h.run id]
    simp [StoreAttempt.perform, StoreCall.ops, StoreAttempt.performFrom, performOp_appendJsonLine,
      StoreAttempt.runCut, StoreCall.runFor]
  · intro id
    rw [filterMap_append_singleton, getLast?_append_toList, ← h.token id]
    simp [StoreAttempt.perform, StoreCall.ops, StoreAttempt.performFrom, performOp_appendJsonLine,
      StoreAttempt.tokenCut, StoreCall.tokenFor]
  · intro id
    rw [filterMap_append_singleton, partsOfLines_append_toList, ← h.journal id]
    by_cases hid : entry.repairRunId = id
    · simp [StoreAttempt.perform, StoreCall.ops, StoreAttempt.performFrom,
        getD_performOp_appendJsonLine, StoreAttempt.entryCut, StoreCall.entryFor, hid]
    · simp [StoreAttempt.perform, StoreCall.ops, StoreAttempt.performFrom,
        getD_performOp_appendJsonLine, StoreAttempt.entryCut, StoreCall.entryFor, hid,
        Ne.symm hid]
  · intro id
    rw [filterMap_append_singleton, partsOfLines_append_toList, ← h.items id]
    simp [StoreAttempt.perform, StoreCall.ops, StoreAttempt.performFrom,
      getD_performOp_appendJsonLine, StoreAttempt.itemCut, StoreCall.itemFor, StoreCall.item?]
  · rw [filterMap_append_singleton, partsOfLines_append_toList, ← h.index]
    simp [StoreAttempt.perform, StoreCall.ops, StoreAttempt.performFrom,
      getD_performOp_appendJsonLine, StoreAttempt.indexCut, StoreCall.item?]

theorem leaves_appendQuarantineItem (item : QuarantineItem) :
    Leaves settings (attempts ++ [⟨.appendQuarantineItem item, stop⟩])
      (StoreAttempt.perform settings files ⟨.appendQuarantineItem item, stop⟩) := by
  constructor
  · intro id
    rw [filterMap_append_singleton, getLast?_append_toList, ← h.run id]
    simp [StoreAttempt.perform, StoreCall.ops, StoreAttempt.performFrom, performOp_appendJsonLine,
      StoreAttempt.runCut, StoreCall.runFor]
  · intro id
    rw [filterMap_append_singleton, getLast?_append_toList, ← h.token id]
    simp [StoreAttempt.perform, StoreCall.ops, StoreAttempt.performFrom, performOp_appendJsonLine,
      StoreAttempt.tokenCut, StoreCall.tokenFor]
  · intro id
    rw [filterMap_append_singleton, partsOfLines_append_toList, ← h.journal id]
    simp [StoreAttempt.perform, StoreCall.ops, StoreAttempt.performFrom,
      getD_performOp_appendJsonLine, StoreAttempt.entryCut, StoreCall.entryFor]
  · intro id
    rw [filterMap_append_singleton, partsOfLines_append_toList, ← h.items id]
    by_cases hid : item.repairRunId = id
    · simp [StoreAttempt.perform, StoreCall.ops, StoreAttempt.performFrom,
        getD_performOp_appendJsonLine, StoreAttempt.itemCut, StoreCall.itemFor, StoreCall.item?,
        Option.filter, hid]
    · simp [StoreAttempt.perform, StoreCall.ops, StoreAttempt.performFrom,
        getD_performOp_appendJsonLine, StoreAttempt.itemCut, StoreCall.itemFor, StoreCall.item?,
        Option.filter, hid, Ne.symm hid]
  · rw [filterMap_append_singleton, partsOfLines_append_toList, ← h.index]
    simp [StoreAttempt.perform, StoreCall.ops, StoreAttempt.performFrom,
      getD_performOp_appendJsonLine, StoreAttempt.indexCut, StoreCall.item?]

/-- One attempt leaves what it has written. -/
theorem leaves_perform (attempt : StoreAttempt) :
    Leaves settings (attempts ++ [attempt]) (attempt.perform settings files) := by
  obtain ⟨call, stop⟩ := attempt
  cases call with
  | createRun run token => exact leaves_createRun h stop run token
  | updateRun run => exact leaves_updateRun h stop run
  | appendJournalEntry entry => exact leaves_appendJournalEntry h stop entry
  | appendQuarantineItem item => exact leaves_appendQuarantineItem h stop item

end Calls

/-- So does every list of attempts. -/
theorem leaves_filesAfterAttempts (settings : AppSettings) (attempts : List StoreAttempt) :
    Leaves settings attempts (filesAfterAttempts settings attempts) := by
  induction attempts using List.reverseRecOn with
  | nil => exact ⟨fun _ => rfl, fun _ => rfl, fun _ => rfl, fun _ => rfl, rfl⟩
  | append_singleton attempts attempt ih =>
      rw [filesAfterAttempts, List.foldl_append]
      exact leaves_perform ih attempt

end Steps

/-! ## Loading -/

section Loads

theorem named_runToDict (run : RepairRun) : run.toDict.NamedRecord :=
  .of_keys (plain_runToDict run) (List.cons_ne_nil _ _) rfl

theorem named_tokenToDict (token : PlanToken) : token.toDict.NamedRecord :=
  .of_keys (plain_tokenToDict token) (List.cons_ne_nil _ _) rfl

theorem named_entryToDict (entry : RepairJournalEntry) : entry.toDict.NamedRecord :=
  .of_keys (plain_entryToDict entry) (List.cons_ne_nil _ _) rfl

theorem named_itemToDict (item : QuarantineItem) : item.toDict.NamedRecord :=
  .of_keys (plain_itemToDict item) (List.cons_ne_nil _ _) rfl

variable {files : TextFiles} {path : FilePath} {α : Type} {toDict : α → JsonValue}
  {cuts : List (α × Nat)}

/-- A document is loaded as it was last begun, when it is complete. -/
theorem load_document {fromDict : JsonValue → Option α}
    (hnamed : ∀ value, (toDict value).NamedRecord)
    (hround : ∀ value, fromDict (toDict value).sortKeys = some value)
    (h : files path = cuts.getLast?.map (partOfDocument toDict)) :
    (readJson files path).bind fromDict = loadedDocument toDict cuts := by
  rw [readJson, h, loadedDocument]
  cases cuts.getLast? with
  | none => rfl
  | some cut =>
      simp only [Option.map_some, Option.bind_some, Option.bind_eq_bind]
      rw [partOfDocument, JsonValue.loads_take_jsonDocument (hnamed cut.1)]
      split
      · exact hround cut.1
      · rfl

/-- Of the payloads of a file of lines the complete ones are read, or none of them. -/
theorem readJsonLines_parts (hnamed : ∀ value, (toDict value).NamedRecord)
    (h : (files path).getD [] = partsOfLines toDict cuts) :
    readJsonLines files path =
      (loadedLines toDict cuts).map fun values =>
        values.map fun value => (toDict value).sortKeys := by
  have hrecords : ∀ cut ∈ cuts.map (lineCut toDict), cut.payload.NamedRecord := by
    intro cut hcut
    obtain ⟨pair, -, rfl⟩ := List.mem_map.mp hcut
    exact hnamed pair.1
  have hread := JsonValue.LineCut.readJsonLines_cuts hrecords
  have htext : readJsonLines files path = JsonValue.readJsonLines ((files path).getD []) := by
    rw [readJsonLines]
    cases files path <;> rfl
  rw [htext, h, partsOfLines, hread, loadedLines]
  split
  · rfl
  · rw [Option.map_some, List.filter_map, List.map_map, List.map_map]
    rfl

theorem load_lines {β : Type} {fromDict : JsonValue → Option β} {given : α → β}
    (hnamed : ∀ value, (toDict value).NamedRecord)
    (hround : ∀ value, fromDict (toDict value).sortKeys = some (given value))
    (h : (files path).getD [] = partsOfLines toDict cuts) :
    (readJsonLines files path).bind (fun payloads => payloads.mapM fromDict) =
      (loadedLines toDict cuts).map fun values => values.map given := by
  rw [readJsonLines_parts hnamed h]
  cases loadedLines toDict cuts with
  | none => rfl
  | some values =>
      rw [Option.map_some, Option.bind_some, Option.map_some, mapM_eq_some_iff, List.map_map,
        List.map_map]
      exact List.map_congr_left fun value _ => hround value

theorem load_items {cuts : List (QuarantineItem × Nat)}
    (h : (files path).getD [] = partsOfLines QuarantineItem.toDict cuts) :
    (do
      let payloads ← readJsonLines files path
      return collapseQuarantineItems (← payloads.mapM QuarantineItem.fromDict) : Option _) =
        (loadedLines QuarantineItem.toDict cuts).map
          fun items => collapseQuarantineItems (items.map asRead) := by
  have hload := load_lines named_itemToDict itemFromDict_toDict h
  have hmap : (do
      let payloads ← readJsonLines files path
      return collapseQuarantineItems (← payloads.mapM QuarantineItem.fromDict) : Option _) =
        ((readJsonLines files path).bind fun payloads =>
          payloads.mapM QuarantineItem.fromDict).map collapseQuarantineItems := by
    cases readJsonLines files path with
    | none => rfl
    | some payloads =>
        simp only [Option.bind_eq_bind, Option.bind_some]
        cases payloads.mapM QuarantineItem.fromDict <;> rfl
  rw [hmap, hload, Option.map_map]
  rfl

/-- What the store gives back after calls that may have stopped anywhere. A run or a token is the
one that was last begun, if at most the end of its document is missing. Entries and items are
those whose lines are complete; none are loaded any more once a line was cut in its document, or
before its end with something appended later. -/
theorem interrupted_store_gives_back (settings : AppSettings) (attempts : List StoreAttempt)
    (id : RunId) :
    let files := filesAfterAttempts settings attempts
    loadRun settings files id = loadedDocument RepairRun.toDict (attempts.filterMap (·.runCut id)) ∧
      loadPlanToken settings files id =
        loadedDocument PlanToken.toDict (attempts.filterMap (·.tokenCut id)) ∧
      loadJournalEntries settings files id =
        loadedLines RepairJournalEntry.toDict (attempts.filterMap (·.entryCut id)) ∧
      loadQuarantineItems settings files id =
        (loadedLines QuarantineItem.toDict (attempts.filterMap (·.itemCut id))).map
          (fun items => collapseQuarantineItems (items.map asRead)) ∧
      loadQuarantineIndex settings files =
        (loadedLines QuarantineItem.toDict (attempts.filterMap StoreAttempt.indexCut)).map
          fun items => collapseQuarantineItems (items.map asRead) := by
  have hleaves := leaves_filesAfterAttempts settings attempts
  refine ⟨?_, ?_, ?_, ?_, ?_⟩
  · exact load_document named_runToDict runFromDict_toDict (hleaves.run id)
  · exact load_document named_tokenToDict tokenFromDict_toDict (hleaves.token id)
  · have hload : (readJsonLines _ (repairJournalFile settings id)).bind
        (fun payloads => payloads.mapM RepairJournalEntry.fromDict) =
          (loadedLines RepairJournalEntry.toDict (attempts.filterMap (·.entryCut id))).map
            (fun entries => entries.map fun entry => entry) :=
      load_lines named_entryToDict entryFromDict_toDict (hleaves.journal id)
    simp only [List.map_id', Option.map_id'] at hload
    exact hload
  · exact load_items (hleaves.items id)
  · exact load_items hleaves.index

end Loads

end ImmichDoctor.Repair.Journal
