import ImmichDoctor.Library.JsonRecords
import ImmichDoctor.Library.Switches
/-!
# Ignored findings

`CatalogRemediationService.ignore_findings` and `release_ignored_findings`, over the file in
which `CatalogRemediationStateStore` keeps the items. Ids, times and the texts of a request are
strings that were read from JSON or have no surrogates. The order in which the keys of an
object are written is left out.
-/

namespace ImmichDoctor.Catalog

open ImmichDoctor.Library

/-! ## Items -/

/-- The fields of a request that are kept as the details of its item. -/
structure IgnoredFindingDetails where
  assetId : Option JsonStr
  rootSlug : Option JsonStr
  relativePath : Option JsonStr
  dbReferenceKind : Option JsonStr
  sizeBytes : Option Int
  deriving DecidableEq

/-- The texts that `state` takes. -/
inductive IgnoredFindingState
  | active
  | released
  deriving DecidableEq

def IgnoredFindingState.text : IgnoredFindingState → PyStr
  | .active => py "active"
  | .released => py "released"

structure CatalogIgnoredFinding where
  ignoredItemId : JsonStr
  findingId : JsonStr
  categoryKey : JsonStr
  title : JsonStr
  ownerId : Option JsonStr
  ownerLabel : Option JsonStr
  sourcePath : Option JsonStr
  originalRelativePath : Option JsonStr
  reason : JsonStr
  details : IgnoredFindingDetails
  createdAt : JsonStr
  releasedAt : Option JsonStr := none
  state : IgnoredFindingState := .active
  deriving DecidableEq

/-- `text | None` in JSON. -/
def optionalJson (text : Option JsonStr) : JsonValue :=
  .ofText? (text.map JsonStr.text)

def IgnoredFindingDetails.toDict (details : IgnoredFindingDetails) : JsonValue :=
  .obj [
    (py "asset_id", optionalJson details.assetId),
    (py "root_slug", optionalJson details.rootSlug),
    (py "relative_path", optionalJson details.relativePath),
    (py "db_reference_kind", optionalJson details.dbReferenceKind),
    (py "size_bytes", .ofInt? details.sizeBytes)]

def IgnoredFindingDetails.fromDict (payload : JsonValue) : Option IgnoredFindingDetails := do
  let assetId ← (← payload.field? (py "asset_id")).toOptionalStr?
  let rootSlug ← (← payload.field? (py "root_slug")).toOptionalStr?
  let relativePath ← (← payload.field? (py "relative_path")).toOptionalStr?
  let dbReferenceKind ← (← payload.field? (py "db_reference_kind")).toOptionalStr?
  let sizeBytes ← (← payload.field? (py "size_bytes")).toOptionalInt?
  return { assetId, rootSlug, relativePath, dbReferenceKind, sizeBytes }

namespace CatalogIgnoredFinding

def isActive (item : CatalogIgnoredFinding) : Bool :=
  item.state = .active

/-- `CatalogIgnoredFinding.to_dict`. -/
def toDict (item : CatalogIgnoredFinding) : JsonValue :=
  .obj [
    (py "ignored_item_id", .str item.ignoredItemId.text),
    (py "finding_id", .str item.findingId.text),
    (py "category_key", .str item.categoryKey.text),
    (py "title", .str item.title.text),
    (py "owner_id", optionalJson item.ownerId),
    (py "owner_label", optionalJson item.ownerLabel),
    (py "source_path", optionalJson item.sourcePath),
    (py "original_relative_path", optionalJson item.originalRelativePath),
    (py "reason", .str item.reason.text),
    (py "details", item.details.toDict),
    (py "created_at", .str item.createdAt.text),
    (py "released_at", optionalJson item.releasedAt),
    (py "state", .str item.state.text)]

/-- `str(payload.get("state") or "active")`. -/
def stateOf : Option JsonValue → Option IgnoredFindingState
  | none | some .null => some .active
  | some (.str text) =>
      if text = [] ∨ text = py "active" then some .active
      else if text = py "released" then some .released
      else none
  | some _ => none

/-- `CatalogIgnoredFinding.from_dict` of an object with the types and the states that `to_dict`
writes. -/
def fromDict (payload : JsonValue) : Option CatalogIgnoredFinding := do
  let ignoredItemId ← (← payload.field? (py "ignored_item_id")).toStr?
  let findingId ← (← payload.field? (py "finding_id")).toStr?
  let categoryKey ← (← payload.field? (py "category_key")).toStr?
  let title ← (← payload.field? (py "title")).toStr?
  let ownerId ← ((payload.field? (py "owner_id")).getD .null).toOptionalStr?
  let ownerLabel ← ((payload.field? (py "owner_label")).getD .null).toOptionalStr?
  let sourcePath ← ((payload.field? (py "source_path")).getD .null).toOptionalStr?
  let originalRelativePath ←
    ((payload.field? (py "original_relative_path")).getD .null).toOptionalStr?
  let reason ← (← payload.field? (py "reason")).toStr?
  let details ← IgnoredFindingDetails.fromDict (← payload.field? (py "details"))
  let createdAt ← (← payload.field? (py "created_at")).toStr?
  let releasedAt ← ((payload.field? (py "released_at")).getD .null).toOptionalStr?
  let state ← stateOf (payload.field? (py "state"))
  return { ignoredItemId, findingId, categoryKey, title, ownerId, ownerLabel, sourcePath,
           originalRelativePath, reason, details, createdAt, releasedAt, state }

end CatalogIgnoredFinding

/-! ## The file -/

/-- `load_ignored_findings`; `none` when it raises. -/
def loadIgnoredFindings : Option JsonValue → Option (List CatalogIgnoredFinding)
  | none => some []
  | some (.obj fields) =>
      match JsonValue.field? (.obj fields) (py "items") with
      | some (.list rows) =>
          (rows.filter JsonValue.isObject).mapM CatalogIgnoredFinding.fromDict
      | _ => some []
  | some _ => none

/-- What `save_ignored_findings` writes. -/
def saveIgnoredFindings (items : List CatalogIgnoredFinding) : JsonValue :=
  .obj [(py "items", .list (items.map CatalogIgnoredFinding.toDict))]

/-! ## Ignoring -/

structure CatalogRemediationStateItemRequest where
  findingId : JsonStr
  categoryKey : JsonStr
  title : JsonStr
  sourcePath : Option JsonStr := none
  assetId : Option JsonStr := none
  ownerId : Option JsonStr := none
  ownerLabel : Option JsonStr := none
  rootSlug : Option JsonStr := none
  relativePath : Option JsonStr := none
  originalRelativePath : Option JsonStr := none
  dbReferenceKind : Option JsonStr := none
  sizeBytes : Option Int := none
  reason : Option JsonStr := none

/-- A finding to ignore, with the id and the time that an item for it gets. -/
structure IgnoreRequest where
  payload : CatalogRemediationStateItemRequest
  ignoredItemId : JsonStr
  createdAt : JsonStr

/-- `text or default`. -/
def orDefault (text default : JsonStr) : JsonStr :=
  if text.text = [] then default else text

/-- `_optional_text`. -/
def optionalStripped (value : Option JsonStr) : Option JsonStr :=
  (value.map JsonStr.strip).filter fun text => text.text ≠ []

namespace IgnoreRequest

def findingId (request : IgnoreRequest) : JsonStr :=
  request.payload.findingId.strip

def item (request : IgnoreRequest) : CatalogIgnoredFinding where
  ignoredItemId := request.ignoredItemId
  findingId := request.findingId
  categoryKey := orDefault request.payload.categoryKey (.literal "unknown")
  title := orDefault request.payload.title request.findingId
  ownerId := optionalStripped request.payload.ownerId
  ownerLabel := optionalStripped request.payload.ownerLabel
  sourcePath := optionalStripped request.payload.sourcePath
  originalRelativePath := optionalStripped request.payload.originalRelativePath
  reason := (optionalStripped request.payload.reason).getD
    (.literal "Operator ignored the finding from the consistency workspace.")
  details :=
    { assetId := request.payload.assetId
      rootSlug := request.payload.rootSlug
      relativePath := request.payload.relativePath
      dbReferenceKind := request.payload.dbReferenceKind
      sizeBytes := request.payload.sizeBytes }
  createdAt := request.createdAt

end IgnoreRequest

/-- The variables of the loop: `byFindingId` are the keys of the dictionary. -/
structure IgnoreProgress where
  existing : List CatalogIgnoredFinding
  byFindingId : List JsonStr
  created : Nat

def IgnoreProgress.next (progress : IgnoreProgress) (request : IgnoreRequest) : IgnoreProgress :=
  if request.findingId.text = [] ∨ request.findingId ∈ progress.byFindingId then progress
  else
    { existing := progress.existing ++ [request.item]
      byFindingId := request.findingId :: progress.byFindingId
      created := progress.created + 1 }

structure IgnoredFindingsResponse where
  generatedAt : JsonStr
  summary : PyStr
  items : List JsonValue

/-- The ids of the active items. -/
def activeFindingIds (items : List CatalogIgnoredFinding) : List JsonStr :=
  (items.filter CatalogIgnoredFinding.isActive).map CatalogIgnoredFinding.findingId

def activeDicts (items : List CatalogIgnoredFinding) : List JsonValue :=
  (items.filter CatalogIgnoredFinding.isActive).map CatalogIgnoredFinding.toDict

def ignoreItems (existing : List CatalogIgnoredFinding) (items : List IgnoreRequest) :
    IgnoreProgress :=
  items.foldl IgnoreProgress.next ⟨existing, activeFindingIds existing, 0⟩

/-- `ignore_findings`. -/
def ignoreFindings (generatedAt : JsonStr) (file : Option JsonValue) (items : List IgnoreRequest) :
    Option (JsonValue × IgnoredFindingsResponse) := do
  let existing ← loadIgnoredFindings file
  let progress := ignoreItems existing items
  return (saveIgnoredFindings progress.existing,
    { generatedAt
      summary := py "Ignored " ++ PyStr.decimal progress.created ++ py " findings."
      items := activeDicts progress.existing })

/-! ## Releasing -/

structure ReleaseRequest where
  ignoredItemIds : List JsonStr
  releaseAll : Bool := false

/-- Whether the request covers the item. -/
def ReleaseRequest.covers (request : ReleaseRequest) (item : CatalogIgnoredFinding) : Bool :=
  item.isActive && (request.releaseAll || request.ignoredItemIds.contains item.ignoredItemId)

def CatalogIgnoredFinding.release (item : CatalogIgnoredFinding) (releasedAt : JsonStr) :
    CatalogIgnoredFinding :=
  { item with releasedAt := some releasedAt, state := .released }

/-- The items after a release; `now` are the readings of the clock, one for each item. -/
def releaseItems (request : ReleaseRequest) (now : Nat → JsonStr) :
    List CatalogIgnoredFinding → List CatalogIgnoredFinding
  | [] => []
  | item :: items =>
      (if request.covers item then item.release (now 0) else item) ::
        releaseItems request (fun i => now (i + 1)) items

/-- `release_ignored_findings`. -/
def releaseIgnoredFindings (generatedAt : JsonStr) (now : Nat → JsonStr) (file : Option JsonValue)
    (request : ReleaseRequest) : Option (JsonValue × IgnoredFindingsResponse) := do
  let items ← loadIgnoredFindings file
  let updated := releaseItems request now items
  return (saveIgnoredFindings updated,
    { generatedAt
      summary :=
        py "Released " ++ PyStr.decimal (items.countP request.covers) ++ py " ignored findings."
      items := activeDicts updated })

/-! ## Calls -/

inductive Operation
  | ignore (items : List IgnoreRequest)
  | release (request : ReleaseRequest) (now : Nat → JsonStr)

/-- A call; one that is `stopped` raises before it writes. -/
structure IgnoredFindingsCall where
  operation : Operation
  generatedAt : JsonStr
  stopped : Bool

/-- What a call returns, with what it writes; `none` when it raises. -/
def IgnoredFindingsCall.run (call : IgnoredFindingsCall) (file : Option JsonValue) :
    Option (JsonValue × IgnoredFindingsResponse) :=
  if call.stopped then none
  else
    match call.operation with
    | .ignore items => ignoreFindings call.generatedAt file items
    | .release request now => releaseIgnoredFindings call.generatedAt now file request

/-- The file after a call. -/
def fileAfterCall (file : Option JsonValue) (call : IgnoredFindingsCall) : Option JsonValue :=
  ((call.run file).map Prod.fst).or file

/-- The file after a list of calls, from none at all. -/
def fileAfter (calls : List IgnoredFindingsCall) : Option JsonValue :=
  calls.foldl fileAfterCall none

end ImmichDoctor.Catalog
