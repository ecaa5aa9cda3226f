import ImmichDoctor.Library.FileSystem
import ImmichDoctor.Library.PurePath
/-!
# Quarantined findings

`CatalogRemediationService.quarantine_findings`, `restore_quarantine_items` and
`delete_quarantine_items`, with the errors that the calls of the file system and the writes
of the index may raise. Paths are without links and `..`; fields of an item that nothing
here reads, the items file of the run and the messages are left out.
-/

namespace ImmichDoctor.Catalog

open ImmichDoctor.Library

abbrev FsPath := List PyStr

/-- The location of a path. -/
def placeOf (text : PyStr) : FsPath :=
  (PurePath.parse text).parts

/-! ## Items and their index -/

inductive QuarantineItemState
  | active
  | restored
  | deleted
  deriving DecidableEq

structure QuarantineItem where
  quarantineItemId : PyStr
  sourcePath : FsPath
  quarantinePath : FsPath
  sizeBytes : Option Int
  restorable : Bool
  categoryKey : Option PyStr
  state : QuarantineItemState
  deriving DecidableEq

/-- A line of the index; one that was cut off cannot be read. -/
inductive IndexLine
  | item (item : QuarantineItem)
  | torn
  deriving DecidableEq

structure QuarantineState where
  files : FileSystem PyStr Nat
  index : List IndexLine

/-- The items of the index, the latest for each id; `none` when a line cannot be read. -/
def loadQuarantineIndex (lines : List IndexLine) :
    Option (Table QuarantineItem QuarantineItem.quarantineItemId) :=
  lines.foldlM (fun latest line =>
    match line with
    | .item item => some (latest.put item)
    | .torn => none) .empty

/-! ## Errors -/

/-- How an append to a file goes wrong: before it writes, within the line, or after it. -/
inductive AppendFault
  | unwritten
  | torn
  | written
  deriving DecidableEq

/-- How a move goes wrong. -/
inductive MoveFault
  /-- After so many of the parent directories were made. -/
  | parents (made : Nat)
  /-- With what a copy has left at the destination. -/
  | cutOff (left : Option (FsNode Nat))
  /-- After the copy, when the source cannot be removed. -/
  | sourceKept

/-- The errors an item meets. -/
structure ItemFaults where
  /-- `path_exists` raises. -/
  pathExists : Bool
  /-- `is_child_path` raises. -/
  resolve : Bool
  /-- The move raises, with what it has done. -/
  move : Option MoveFault
  /-- The file cannot be deleted. -/
  delete : Bool
  /-- The append to the items file of the run raises. -/
  runItems : Bool
  index : Option AppendFault

/-! ## The file system -/

/-- `shutil.move`; the second component says whether it returns. -/
def shutilMove (files : FileSystem PyStr Nat) (fault : Option MoveFault)
    (source destination : FsPath) : FileSystem PyStr Nat × Bool :=
  if source = destination ∧ (files.lookup source).isSome then (files, true)
  else
    match files.realDestination source destination with
    | none => (files, false)
    | some target =>
        if (files.lookup source).isNone ∨ ¬ FileSystem.Apart source target ∨
            (files.isDirectory source = true ∧ (files.lookup target).isSome = true) then
          (files, false)
        else
          match fault with
          | none => (files.moveTree source target, true)
          | some (.cutOff none) => (files, false)
          | some (.cutOff (some left)) => (files.set target left, false)
          | some .sourceKept => (files.copyTree source target fun _ => true, false)
          | some (.parents _) => (files, false)

/-- `FilesystemAdapter.move_file`. -/
def moveFile (files : FileSystem PyStr Nat) (fault : Option MoveFault)
    (source destination : FsPath) : FileSystem PyStr Nat × Bool :=
  match fault with
  | some (.parents made) =>
      (((destination.dropLast.inits.tail.take made).foldlM FileSystem.mkdir files).getD files,
        false)
  | _ =>
      match files.mkdirs destination.dropLast with
      | none => (files, false)
      | some prepared => shutilMove prepared fault source destination

/-- `FilesystemAdapter.delete_file`. -/
def deleteFile (files : FileSystem PyStr Nat) (fault : Bool) (path : FsPath) :
    FileSystem PyStr Nat × Bool :=
  if fault || files.isDirectory path || (files.lookup path).isNone then (files, false)
  else (files.keep fun other => other ≠ path, true)

/-- `append_quarantine_item`: to the items file of the run, then to the index. -/
def appendQuarantineItem (faults : ItemFaults) (item : QuarantineItem) (s : QuarantineState) :
    QuarantineState × Bool :=
  if faults.runItems then (s, false)
  else
    match faults.index with
    | none => ({ s with index := s.index ++ [.item item] }, true)
    | some .unwritten => (s, false)
    | some .torn => ({ s with index := s.index ++ [.torn] }, false)
    | some .written => ({ s with index := s.index ++ [.item item] }, false)

/-! ## One item -/

inductive ItemStatus
  | failed
  | alreadyMissing
  | applied
  | restored
  | deleted
  /-- The request itself raises. -/
  | raised
  deriving DecidableEq

structure QuarantineSettings where
  quarantinePath : FsPath
  /-- `_root_path_for`. -/
  rootPathFor : PyStr → Option FsPath
  /-- `validate_writable_directory` passes. -/
  writable : FsPath → Bool

/-- The payload of a finding; the size is `none` inside when it is not a number. -/
structure FindingPayload where
  findingId : PyStr
  categoryKey : Option PyStr
  sourcePath : Option PyStr
  rootSlug : Option PyStr
  sizeBytes : Option (Option Int)

/-- `_optional_text`. -/
def optionalText (value : Option PyStr) : Option PyStr :=
  match value.map PyStr.strip with
  | some (c :: text) => some (c :: text)
  | _ => none

/-- `str(payload.get("category_key") or "unknown")`. -/
def FindingPayload.category (payload : FindingPayload) : PyStr :=
  match payload.categoryKey with
  | some (c :: text) => c :: text
  | _ => py "unknown"

/-- `text.replace(from, "-")`. -/
def dashed (from_ : Nat) (text : PyStr) : PyStr :=
  text.map fun c => if c = from_ then 45 else c

/-- `_quarantine_destination_for`; `generated` is the id that stands for an empty finding id. -/
def quarantineDestinationFor (settings : QuarantineSettings) (category findingId generated : PyStr)
    (source : FsPath) : FsPath :=
  let safeFinding := dashed 58 (dashed 47 findingId)
  settings.quarantinePath ++ [py "catalog-remediation"] ++ PurePath.partsOf (dashed 47 category) ++
    PurePath.partsOf (if safeFinding.isEmpty then generated else safeFinding) ++
    source.getLast?.toList

/-- What is done to one item of a request. -/
inductive ItemRequest
  | quarantine (payload : FindingPayload) (itemId generated : PyStr) (faults : ItemFaults)
  | restore (item : QuarantineItem) (faults : ItemFaults)
  | delete (item : QuarantineItem) (faults : ItemFaults)

/-- The item a finding becomes; `none` when its size is not a number. -/
def quarantinedItem (payload : FindingPayload) (itemId : PyStr) (source destination : FsPath) :
    Option QuarantineItem :=
  let item (sizeBytes : Option Int) : QuarantineItem :=
    { quarantineItemId := itemId
      sourcePath := source
      quarantinePath := destination
      sizeBytes := sizeBytes
      restorable := true
      categoryKey := some payload.category
      state := .active }
  match payload.sizeBytes with
  | none => some (item none)
  | some none => none
  | some (some size) => some (item (some size))

/-- The iteration of `quarantine_findings` for a finding. -/
def quarantineFinding (settings : QuarantineSettings) (payload : FindingPayload)
    (itemId generated : PyStr) (faults : ItemFaults) (s : QuarantineState) :
    QuarantineState × ItemStatus :=
  match optionalText payload.sourcePath with
  | none => (s, .failed)
  | some text =>
      let source := placeOf text
      if faults.pathExists then (s, .raised)
      else if (s.files.lookup source).isNone then (s, .alreadyMissing)
      else
        match settings.rootPathFor ((optionalText payload.rootSlug).getD (py "uploads")) with
        | none => (s, .failed)
        | some root =>
            if faults.resolve then (s, .raised)
            else if ¬ root <+: source then (s, .failed)
            else if !settings.writable root then (s, .failed)
            else
              let destination := quarantineDestinationFor settings payload.category
                payload.findingId.strip generated source
              let (files, moved) := moveFile s.files faults.move source destination
              if !moved then ({ s with files }, .failed)
              else
                match quarantinedItem payload itemId source destination with
                | none => ({ s with files }, .failed)
                | some item =>
                    let (after, written) := appendQuarantineItem faults item { s with files }
                    (after, if written then .applied else .failed)

/-- The iteration of `_transition_quarantine_items` for a restore. -/
def restoreItem (item : QuarantineItem) (faults : ItemFaults) (s : QuarantineState) :
    QuarantineState × ItemStatus :=
  if faults.pathExists || (s.files.lookup item.quarantinePath).isNone ||
      (s.files.lookup item.sourcePath).isSome then (s, .failed)
  else
    let (files, moved) := moveFile s.files faults.move item.quarantinePath item.sourcePath
    if !moved then ({ s with files }, .failed)
    else
      let (after, written) := appendQuarantineItem faults { item with state := .restored }
        { s with files }
      (after, if written then .restored else .failed)

/-- The iteration of `_transition_quarantine_items` for a deletion. -/
def deleteItem (item : QuarantineItem) (faults : ItemFaults) (s : QuarantineState) :
    QuarantineState × ItemStatus :=
  if faults.pathExists then (s, .failed)
  else
    let (files, gone) :=
      if (s.files.lookup item.quarantinePath).isSome then
        deleteFile s.files faults.delete item.quarantinePath
      else (s.files, true)
    if !gone then ({ s with files }, .failed)
    else
      let (after, written) :=
        appendQuarantineItem faults { item with state := .deleted, restorable := false }
          { s with files }
      (after, if written then .deleted else .failed)

def ItemRequest.run (settings : QuarantineSettings) (s : QuarantineState) :
    ItemRequest → QuarantineState × ItemStatus
  | .quarantine payload itemId generated faults =>
      quarantineFinding settings payload itemId generated faults s
  | .restore item faults => restoreItem item faults s
  | .delete item faults => deleteItem item faults s

/-- Where the file of the item is before the request. -/
def ItemRequest.place : ItemRequest → FsPath
  | .quarantine payload _ _ _ => placeOf ((optionalText payload.sourcePath).getD [])
  | .restore item _ | .delete item _ => item.quarantinePath

/-! ## Requests -/

inductive QuarantineTarget
  | restored
  | deleted
  deriving DecidableEq

inductive QuarantineRequest
  | quarantine (items : List (FindingPayload × PyStr × PyStr × ItemFaults))
  | transition (quarantineItemIds : List PyStr) (applyAll : Bool) (target : QuarantineTarget)
      (faults : PyStr → ItemFaults)

/-- The active items of a category that a transition has selected. -/
def selectedItems (quarantineItemIds : List PyStr) (applyAll : Bool) (items : List QuarantineItem) :
    List QuarantineItem :=
  items.filter fun item =>
    item.state = .active && item.categoryKey.any (fun key => !key.isEmpty) &&
      (applyAll || quarantineItemIds.contains item.quarantineItemId)

/-- The items a request goes through; there are none when the index cannot be read. -/
def QuarantineRequest.items (s : QuarantineState) : QuarantineRequest → List ItemRequest
  | .quarantine items =>
      items.map fun (payload, itemId, generated, faults) =>
        .quarantine payload itemId generated faults
  | .transition quarantineItemIds applyAll target faults =>
      match loadQuarantineIndex s.index with
      | none => []
      | some latest =>
          (selectedItems quarantineItemIds applyAll latest.rows).map fun item =>
            match target with
            | .restored => .restore item (faults item.quarantineItemId)
            | .deleted => .delete item (faults item.quarantineItemId)

/-- One item as it was handled. -/
structure ItemStep where
  before : QuarantineState
  item : ItemRequest
  after : QuarantineState
  status : ItemStatus

/-- The items one after the other, up to one that raises out of the request. -/
def handleItems (settings : QuarantineSettings) : QuarantineState → List ItemRequest → List ItemStep
  | _, [] => []
  | s, item :: items =>
      let (after, status) := item.run settings s
      ⟨s, item, after, status⟩ ::
        if status = .raised then [] else handleItems settings after items

def QuarantineRequest.steps (settings : QuarantineSettings) (request : QuarantineRequest)
    (s : QuarantineState) : List ItemStep :=
  handleItems settings s (request.items s)

end ImmichDoctor.Catalog
