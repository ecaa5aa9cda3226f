import ImmichDoctor.Storage.FileModes
/-!
# Repair runs

The states of a repair run, of its journal entries, and the kinds of undo an entry
can name.
-/

namespace ImmichDoctor.Repair

open ImmichDoctor.Library
open ImmichDoctor.Storage

inductive RepairRunStatus
  | planned
  | running
  | completed
  | partial_
  | failed
  deriving DecidableEq

inductive RepairJournalEntryStatus
  | planned
  | applied
  | skipped
  | failed
  deriving DecidableEq

inductive UndoType
  | none
  | restorePermissions
  | restoreDbValues
  | restoreQuarantineFile
  deriving DecidableEq

/-- The payload of an entry; an empty one has none of the fields. -/
structure UndoPayload where
  path : Option PyStr
  oldMode : Option FileMode
  newMode : Option FileMode
  deriving DecidableEq

/-- An entry without the fields for database values and quarantined files. -/
structure RepairJournalEntry where
  entryId : PyStr
  repairRunId : PyStr
  operationType : PyStr
  status : RepairJournalEntryStatus
  assetId : Option PyStr
  originalPath : Option PyStr
  undoType : UndoType
  undoPayload : UndoPayload
  deriving DecidableEq

end ImmichDoctor.Repair
