import ImmichDoctor.Consistency.MissingAssetRuns
import ImmichDoctor.Library.JsonLines
import ImmichDoctor.Library.TextFiles
/-!
# The files of restore points

`MissingAssetRestorePointStore`: a document for each restore point and an index with a line for
each. A call may stop at any file, with its text written in part. Above it the requests of
`MissingAssetReferenceService` that create, restore and delete points. Texts are those that JSON
gives back, and an id has no slash. Directories are left out.
-/

namespace ImmichDoctor.Consistency.RestorePoints

open ImmichDoctor.Library

/-! ## Records -/

/-- The id of a restore point, by which its file is named. -/
structure PointId where
  text : PlainStr
  slashless : 47 ∉ text.text
  deriving DecidableEq

@[ext] theorem PointId.ext {a b : PointId} (h : a.text = b.text) : a = b := by
  cases a
  cases b
  cases h
  rfl

def toPointId? (payload : JsonValue) : Option PointId := do
  let text ← payload.toPlain?
  if h : 47 ∉ text.text then some ⟨text, h⟩ else none

@[simp] theorem toPointId?_str (id : PointId) : toPointId? (.str id.text.text) = some id := by
  rw [toPointId?, JsonValue.toPlain?_str]
  exact dif_pos id.slashless

def statusValue : MissingAssetRestorePointStatus → PyStr
  | .available => py "available"
  | .restored => py "restored"

/-- `MissingAssetRestorePointStatus(value)`. -/
def toStatus? : JsonValue → Option MissingAssetRestorePointStatus
  | .str text =>
      if text = py "available" then some .available
      else if text = py "restored" then some .restored
      else none
  | _ => none

/-- `MissingAssetRestorePoint`, by what its records are. -/
structure RestorePointOf (Record : Type) where
  restorePointId : PointId
  repairRunId : PlainStr
  assetId : PlainStr
  createdAt : PlainStr
  status : MissingAssetRestorePointStatus
  recordCount : Int
  logicalPath : PlainStr
  records : List Record

/-- A point that is read from a file. -/
abbrev MissingAssetRestorePoint := RestorePointOf JsonDict

/-- A point with the rows that an apply has captured: a record is none when it has a value that
`json.dumps` refuses, such as a `UUID` or a `datetime`. -/
abbrev CapturedPoint := RestorePointOf (Option JsonDict)

namespace CapturedPoint

/-- The point that `json.dumps` writes; none when it raises. -/
def dumped? (point : CapturedPoint) : Option MissingAssetRestorePoint := do
  let records ← point.records.mapM id
  return { point with records := records }

end CapturedPoint

namespace MissingAssetRestorePoint

/-- What has been read is written again. -/
def captured (point : MissingAssetRestorePoint) : CapturedPoint :=
  { point with records := point.records.map some }

/-- `MissingAssetRestorePoint.to_dict`. -/
def toDict (point : MissingAssetRestorePoint) : JsonValue :=
  .obj [
    (py "restore_point_id", .str point.restorePointId.text.text),
    (py "repair_run_id", .str point.repairRunId.text),
    (py "asset_id", .str point.assetId.text),
    (py "created_at", .str point.createdAt.text),
    (py "status", .str (statusValue point.status)),
    (py "record_count", .int point.recordCount),
    (py "logical_path", .str point.logicalPath.text),
    (py "records", .list (point.records.map fun record => .obj record.fields))]

def toRecords? : JsonValue → Option (List JsonDict)
  | .list items => items.mapM JsonValue.toDict?
  | _ => none

def toInt? : JsonValue → Option Int
  | .int value => some value
  | _ => none

/-- `MissingAssetRestorePoint.from_dict`, of fields with the types that `to_dict` writes. -/
def fromDict (payload : JsonValue) : Option MissingAssetRestorePoint := do
  let restorePointId ← toPointId? (← payload.field? (py "restore_point_id"))
  let repairRunId ← (← payload.field? (py "repair_run_id")).toPlain?
  let assetId ← (← payload.field? (py "asset_id")).toPlain?
  let createdAt ← (← payload.field? (py "created_at")).toPlain?
  let status ← toStatus? (← payload.field? (py "status"))
  let recordCount ← toInt? (← payload.field? (py "record_count"))
  let logicalPath ← (← payload.field? (py "logical_path")).toPlain?
  let records ← toRecords? ((payload.field? (py "records")).getD (.list []))
  return { restorePointId, repairRunId, assetId, createdAt, status, recordCount, logicalPath,
           records }

end MissingAssetRestorePoint

/-! ## Calls that may stop -/

/-- What a call does to one file. -/
inductive FileOp
  | write (path : FilePath) (text : PyStr)
  | unlink (path : FilePath)

namespace FileOp

def perform (files : TextFiles) : FileOp → TextFiles
  | write path text => files.write path text
  | unlink path => files.unlink path

/-- The operation with so many code points of its text in the file, which is emptied first. -/
def performPart (files : TextFiles) (kept : Nat) : FileOp → TextFiles
  | write path text => files.write path (text.take kept)
  | unlink _ => files

end FileOp

/-- Where a call stops: behind so many operations, and with so much of the next one, if that is
begun. -/
structure Stop where
  done : Nat
  part : Option Nat

/-- The files after the operations of a call that may stop. -/
def performOps (stop : Option Stop) (ops : List FileOp) (files : TextFiles) : TextFiles :=
  match stop with
  | none => ops.foldl FileOp.perform files
  | some stop =>
      let done := (ops.take stop.done).foldl FileOp.perform files
      match ops[stop.done]?, stop.part with
      | some op, some kept => op.performPart done kept
      | _, _ => done

/-- The files that a call leaves, and what it returns; none when it raises. -/
structure CallEnd (α : Type) where
  files : TextFiles
  returned : Option α

/-- The end of a call with these operations. -/
def CallEnd.ofOps {α : Type} (stop : Option Stop) (ops : List FileOp) (files : TextFiles)
    (value : α) : CallEnd α where
  files := performOps stop ops files
  returned := if stop.isSome then none else some value

/-! ## The store -/

section Store

variable (root : FilePath)

/-- `missing_asset_restore_point_file`. -/
def missingAssetRestorePointFile (restorePointId : PointId) : FilePath :=
  root ++ [restorePointId.text.text ++ py ".json"]

/-- `missing_asset_restore_point_index_file`. -/
def missingAssetRestorePointIndexFile : FilePath :=
  root ++ [py "index.jsonl"]

/-- `rows.sort(key=lambda item: item.created_at, reverse=True)`. -/
def newestFirst (points : List MissingAssetRestorePoint) : List MissingAssetRestorePoint :=
  points.insertionSort fun a b => b.createdAt.text ≤ a.createdAt.text

/-- `list_points`; `none` when it raises. -/
def listPoints (files : TextFiles) : Option (List MissingAssetRestorePoint) := do
  let payloads ← JsonValue.readJsonLinesOf (files (missingAssetRestorePointIndexFile root))
  return newestFirst (← payloads.mapM MissingAssetRestorePoint.fromDict)

/-- `load`. -/
def load (files : TextFiles) (restorePointId : PointId) : Option MissingAssetRestorePoint := do
  let text ← files (missingAssetRestorePointFile root restorePointId)
  MissingAssetRestorePoint.fromDict (← JsonValue.loads text)

/-- `write_text` of the document of a point. -/
def writeDocument (point : MissingAssetRestorePoint) : FileOp :=
  .write (missingAssetRestorePointFile root point.restorePointId) point.toDict.jsonDocument

/-- `_write_index`. -/
def writeIndex (points : List MissingAssetRestorePoint) : FileOp :=
  .write (missingAssetRestorePointIndexFile root)
    (JsonValue.jsonLines (points.map (·.toDict)))

/-- `create`: the document of the point, then the index. -/
def create (point : CapturedPoint) (stop : Option Stop) (files : TextFiles) : CallEnd Unit :=
  match point.dumped? with
  | none => ⟨files, none⟩
  | some point =>
      match listPoints root ((writeDocument root point).perform files) with
      | none => ⟨performOps stop [writeDocument root point] files, none⟩
      | some items =>
          let items := items.filter fun item => item.restorePointId ≠ point.restorePointId
          .ofOps stop [writeDocument root point, writeIndex root (items ++ [point])] files ()

/-- `update`. -/
def update (point : MissingAssetRestorePoint) (stop : Option Stop) (files : TextFiles) :
    CallEnd Unit :=
  create root point.captured stop files

/-- `delete`, with the ids it has deleted. -/
def delete (restorePointIds : List PointId) (stop : Option Stop) (files : TextFiles) :
    CallEnd (List PointId) :=
  match listPoints root files with
  | none => ⟨files, none⟩
  | some items =>
      let (requested, remaining) :=
        items.partition fun item => item.restorePointId ∈ restorePointIds
      let unlinks := requested.map fun item =>
        FileOp.unlink (missingAssetRestorePointFile root item.restorePointId)
      .ofOps stop (unlinks ++ [writeIndex root remaining]) files
        (requested.map (·.restorePointId))

end Store

/-! ## Requests -/

/-- What the restore of a point meets: whether its rows are in the database again, where the
update that marks it stops, and whether another call raises behind it. -/
structure Reinsert where
  reinserted : Bool
  updateStop : Option Stop
  raises : Bool

/-- A request, with what it meets. -/
inductive Request
  /-- The restore point that an apply creates for an asset. -/
  | create (point : CapturedPoint) (stop : Option Stop)
  | restore (restorePointIds : List PointId) (restoreAll : Bool) (reinserts : PointId → Reinsert)
  | delete (restorePointIds : List PointId) (deleteAll : Bool) (stop : Option Stop)

/-- The files, the points whose rows were reinserted, those of them that could not be marked, and
whether a request has raised. -/
structure ServiceState where
  files : TextFiles
  reinserted : List PointId
  unrecorded : List PointId
  raised : Bool

/-- The files after a call. -/
def ServiceState.after {α : Type} (s : ServiceState) (call : CallEnd α) : ServiceState :=
  { s with files := call.files, raised := s.raised || call.returned.isNone }

/-- The rows of a point are reinserted, and the point is marked by an update. -/
def ServiceState.mark (s : ServiceState) (id : PointId) (call : CallEnd Unit) : ServiceState where
  files := call.files
  reinserted := s.reinserted ++ [id]
  unrecorded := if call.returned.isNone then s.unrecorded ++ [id] else s.unrecorded
  raised := s.raised || call.returned.isNone

/-- The loop of `restore`; an exception leaves it. -/
def restorePoints (root : FilePath) (reinserts : PointId → Reinsert) :
    List MissingAssetRestorePoint → ServiceState → ServiceState
  | [], s => s
  | point :: points, s =>
      let reinsert := reinserts point.restorePointId
      let rest (s : ServiceState) : ServiceState :=
        if reinsert.raises then { s with raised := true }
        else restorePoints root reinserts points s
      if point.status = .restored then rest s
      else if !reinsert.reinserted then rest s
      else
        let call := update root { point with status := .restored } reinsert.updateStop s.files
        let marked := s.mark point.restorePointId call
        if call.returned.isNone then marked else rest marked

/-- One request. -/
def Request.perform (root : FilePath) (s : ServiceState) : Request → ServiceState
  | create point stop => s.after (RestorePoints.create root point stop s.files)
  | restore restorePointIds restoreAll reinserts =>
      match listPoints root s.files with
      | none => { s with raised := true }
      | some points =>
          restorePoints root reinserts
            (if restoreAll then points
              else points.filter fun point => point.restorePointId ∈ restorePointIds) s
  | delete restorePointIds deleteAll stop =>
      match listPoints root s.files with
      | none => { s with raised := true }
      | some points =>
          s.after (RestorePoints.delete root
            (if deleteAll then points.map (·.restorePointId) else restorePointIds) stop s.files)

/-- The state after a list of requests, from no files at all. -/
def stateAfter (root : FilePath) (requests : List Request) : ServiceState :=
  requests.foldl (Request.perform root) ⟨fun _ => none, [], [], false⟩

end ImmichDoctor.Consistency.RestorePoints
