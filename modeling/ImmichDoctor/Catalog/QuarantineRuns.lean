import ImmichDoctor.Catalog.Proofs.QuarantineAtomicity
import ImmichDoctor.Library.Transition
/-!
# Runs of quarantine requests

Requests one after the other, and new files that appear between them. Beside the state of the
service a run keeps what the source file of an item held when it was quarantined.
-/

namespace ImmichDoctor.Catalog

open ImmichDoctor.Library

/-! ## States and steps -/

structure CustodyState where
  state : QuarantineState
  /-- The content of the source file of an item when it was quarantined, by the item's id. -/
  held : PyStr → Option Nat

/-- Files, and an index without items. -/
def CustodyState.start (files : FileSystem PyStr Nat) : CustodyState :=
  ⟨⟨files, []⟩, fun _ => none⟩

/-- The content of the file at a path. -/
def contentAt (files : FileSystem PyStr Nat) (path : FsPath) : Option Nat :=
  match files.lookup path with
  | some (.file content) => some content
  | _ => none

/-- What is held once the item of a step has been handled. -/
def CustodyState.take (c : CustodyState) (step : ItemStep) : CustodyState :=
  match step.item with
  | .quarantine _ itemId _ _ =>
      ⟨step.after, Function.update c.held itemId (contentAt step.before.files step.item.place)⟩
  | .restore _ _ | .delete _ _ => { c with state := step.after }

inductive QuarantineEvent
  | request (request : QuarantineRequest)
  /-- A new file where nothing stands, with the directories above it. -/
  | appears (path : FsPath) (content : Nat)

def CustodyState.step (settings : QuarantineSettings) (c : CustodyState) :
    QuarantineEvent → Option CustodyState
  | .request request => some ((request.steps settings c.state).foldl CustodyState.take c)
  | .appears path content =>
      if path = [] ∨ (c.state.files.lookup path).isSome then none
      else (c.state.files.mkdirs path.dropLast).map fun files =>
        { c with state := { c.state with files := files.set path (.file content) } }

/-- The active items of the index; none are seen when it cannot be read. -/
def activeItems (s : QuarantineState) : List QuarantineItem :=
  match loadQuarantineIndex s.index with
  | none => []
  | some latest => latest.rows.filter (·.state = .active)

/-! ## What a run keeps -/

/-- The path is below the root and does not leave it. -/
def Inside (root path : FsPath) : Prop :=
  ∃ rest, path = root ++ rest ∧ rest ≠ [] ∧ py ".." ∉ rest

/-- Each active item has a path of its own with what its source held, in the quarantine. -/
structure CustodyState.InCustody (settings : QuarantineSettings) (c : CustodyState) : Prop where
  distinct : ∀ item ∈ activeItems c.state, ∀ other ∈ activeItems c.state,
    item.quarantinePath = other.quarantinePath → item = other
  inside : ∀ item, .item item ∈ c.state.index → Inside settings.quarantinePath item.quarantinePath
  held : ∀ item ∈ activeItems c.state, ∃ content, c.held item.quarantineItemId = some content ∧
    c.state.files.lookup item.quarantinePath = some (.file content)

/-- No file is lost but the one of an item that is deleted. -/
def ItemStep.DestroysNothing (step : ItemStep) : Prop :=
  match step.item with
  | .delete item _ => ∀ path, path ≠ item.quarantinePath →
      step.after.files.lookup path = step.before.files.lookup path
  | .quarantine _ _ _ _ | .restore _ _ => step.before.files.KeepsFiles step.after.files

/-! ## Clear steps -/

def IndexLine.itemId? : IndexLine → Option PyStr
  | .item listed => some listed.quarantineItemId
  | .torn => none

/-- A finding whose source is a file that no active item holds is moved to a free place inside
the quarantine, under an id that is new; an item whose file is moved back or deleted is
recorded. -/
def ItemRequest.Clear (settings : QuarantineSettings) (s : QuarantineState) : ItemRequest → Prop
  | .quarantine payload itemId generated faults =>
      (∀ line ∈ s.index, line.itemId? ≠ some itemId) ∧
        ∀ paths ∈ payload.move? settings generated faults s,
          (contentAt s.files paths.1).isSome = true ∧ s.files.lookup paths.2 = none ∧
            (∀ item ∈ activeItems s, item.quarantinePath ≠ paths.1) ∧
            py ".." ∉ paths.2.drop settings.quarantinePath.length
  | .restore item faults =>
      (ItemRequest.restore item faults).raisesLate settings s = true → faults.writesIndex = true
  | .delete item faults =>
      (ItemRequest.delete item faults).raisesLate settings s = true → faults.writesIndex = true

instance (settings : QuarantineSettings) (s : QuarantineState) (item : ItemRequest) :
    Decidable (item.Clear settings s) := by
  cases item <;> unfold ItemRequest.Clear <;> infer_instance

/-- The items of the request are clear when they are handled. -/
def QuarantineEvent.Clear (settings : QuarantineSettings) (c : CustodyState) :
    QuarantineEvent → Prop
  | .request asked => ∀ step ∈ asked.steps settings c.state,
      step.item.Clear settings step.before
  | .appears _ _ => True

instance (settings : QuarantineSettings) (c : CustodyState) (event : QuarantineEvent) :
    Decidable (event.Clear settings c) := by
  cases event <;> unfold QuarantineEvent.Clear <;> infer_instance

end ImmichDoctor.Catalog
