import ImmichDoctor.Library.JsonCuts
import ImmichDoctor.Repair.JournalStore
/-!
# Calls of the store that stop

A call of `RepairJournalStore` writes its files one after the other. Here it may stop at any of
them, with the text that belongs there written in part: a document is cut off, since its file is
emptied first, and a line is appended without its end.
-/

namespace ImmichDoctor.Repair.Journal

open ImmichDoctor.Library

/-- What a call does to one file. -/
inductive FileOp
  | writeJson (path : FilePath) (payload : JsonValue)
  | appendJsonLine (path : FilePath) (payload : JsonValue)
  | touch (path : FilePath)

namespace FileOp

def path : FileOp → FilePath
  | writeJson path _ => path
  | appendJsonLine path _ => path
  | touch path => path

def text : FileOp → PyStr
  | writeJson _ payload => payload.jsonDocument
  | appendJsonLine _ payload => payload.jsonLine
  | touch _ => []

/-- The operation, with so many code points of its text in the file. -/
def perform (op : FileOp) (kept : Nat) (files : TextFiles) : TextFiles :=
  match op with
  | writeJson path _ => files.write path (op.text.take kept)
  | appendJsonLine path _ => files.append path (op.text.take kept)
  | touch path => files.touch path

end FileOp

/-- The operations of a call, in their order. -/
def StoreCall.ops (settings : AppSettings) : StoreCall → List FileOp
  | createRun repairRun planToken => [
      .writeJson (repairRunFile settings repairRun.repairRunId) repairRun.toDict,
      .writeJson (repairPlanTokenFile settings repairRun.repairRunId) planToken.toDict,
      .touch (repairJournalFile settings repairRun.repairRunId),
      .touch (repairQuarantineItemsFile settings repairRun.repairRunId),
      .touch (quarantineIndexFile settings)]
  | updateRun repairRun =>
      [.writeJson (repairRunFile settings repairRun.repairRunId) repairRun.toDict]
  | appendJournalEntry entry =>
      [.appendJsonLine (repairJournalFile settings entry.repairRunId) entry.toDict]
  | appendQuarantineItem item => [
      .appendJsonLine (repairQuarantineItemsFile settings item.repairRunId) item.toDict,
      .appendJsonLine (quarantineIndexFile settings) item.toDict]

/-- Where a call stops: behind so many operations, and with so much of the next one, if that is
begun. -/
structure Stop where
  done : Nat
  part : Option Nat

/-- A call that is made, and stops or does not. -/
structure StoreAttempt where
  call : StoreCall
  stop : Option Stop

namespace StoreAttempt

variable (attempt : StoreAttempt) (index : Nat)

/-- The operation with the index is begun. -/
def begun : Bool :=
  match attempt.stop with
  | none => true
  | some stop => decide (index < stop.done) || (decide (index = stop.done) && stop.part.isSome)

/-- How much of the text of the operation reaches the file. -/
def kept (text : PyStr) : Nat :=
  match attempt.stop with
  | none => text.length
  | some stop =>
      if index < stop.done then text.length
      else if index = stop.done then stop.part.getD 0
      else 0

def performOp (op : FileOp) (files : TextFiles) : TextFiles :=
  if attempt.begun index then op.perform (attempt.kept index op.text) files else files

def performFrom (index : Nat) : List FileOp → TextFiles → TextFiles
  | [], files => files
  | op :: ops, files => performFrom (index + 1) ops (attempt.performOp index op files)

def perform (settings : AppSettings) (files : TextFiles) (attempt : StoreAttempt) : TextFiles :=
  attempt.performFrom 0 (attempt.call.ops settings) files

end StoreAttempt

/-- The files after a list of attempts, from none at all. -/
def filesAfterAttempts (settings : AppSettings) (attempts : List StoreAttempt) : TextFiles :=
  attempts.foldl (StoreAttempt.perform settings) fun _ => none

/-- A call that does not stop does all of it. -/
theorem perform_unstopped (settings : AppSettings) (files : TextFiles) (call : StoreCall) :
    StoreAttempt.perform settings files ⟨call, none⟩ = call.perform settings files := by
  have hop : ∀ index op files, StoreAttempt.performOp ⟨call, none⟩ index op files =
      op.perform op.text.length files := fun index op files => rfl
  cases call with
  | createRun repairRun planToken =>
      simp only [StoreAttempt.perform, StoreCall.ops, StoreAttempt.performFrom, hop,
        FileOp.perform, List.take_length]
      rfl
  | updateRun repairRun =>
      simp only [StoreAttempt.perform, StoreCall.ops, StoreAttempt.performFrom, hop,
        FileOp.perform, List.take_length]
      rfl
  | appendJournalEntry entry =>
      simp only [StoreAttempt.perform, StoreCall.ops, StoreAttempt.performFrom, hop,
        FileOp.perform, List.take_length]
      rfl
  | appendQuarantineItem item =>
      simp only [StoreAttempt.perform, StoreCall.ops, StoreAttempt.performFrom, hop,
        FileOp.perform, List.take_length]
      rfl

end ImmichDoctor.Repair.Journal
