import ImmichDoctor.Repair.RepairRuns
/-!
# Terminal repair runs

An apply does not look at the status of the run it loads. A terminal run stays as it is as
long as the applies that name it stop at their guard, with the status it has, or before
they write anything.
-/

namespace ImmichDoctor.Repair

open ImmichDoctor.Library

/-! ## What is written to a terminal run -/

/-- The write leaves the run as it is. -/
def StoreWrite.Harmless (record : RunRecord) : StoreWrite → Prop
  | .createRun _ => True
  | .updateRun repairRunId status => repairRunId = record.repairRunId → status = record.status
  | .appendJournalEntry entry => entry.repairRunId ≠ record.repairRunId

/-- The run whose files are written to, when they are there already. -/
def StoreWrite.target : StoreWrite → Option PyStr
  | .createRun _ => none
  | .updateRun repairRunId _ => some repairRunId
  | .appendJournalEntry entry => some entry.repairRunId

theorem StoreWrite.harmless_of_target {record : RunRecord} {write : StoreWrite}
    (h : write.target ≠ some record.repairRunId) : write.Harmless record := by
  cases write with
  | createRun => exact trivial
  | updateRun repairRunId status => exact fun heq => absurd (congrArg some heq) h
  | appendJournalEntry entry => exact fun heq => h (congrArg some heq)

theorem StoreWrite.Harmless.congr {record other : RunRecord} {write : StoreWrite}
    (h : write.Harmless record) (hid : record.repairRunId = other.repairRunId)
    (hstatus : record.status = other.status) : write.Harmless other := by
  unfold StoreWrite.Harmless at *
  rw [← hid, ← hstatus]
  exact h

/-- A terminal status is the last thing that is written. -/
def EndsLast : List StoreWrite → Prop
  | [] => True
  | write :: rest =>
      (∀ repairRunId status, write = .updateRun repairRunId status → status.terminal = true →
        rest = []) ∧ EndsLast rest

/-- An apply of a run that writes nothing, or only the status that the run has. -/
def applySpares (record : RunRecord) (environment : ApplyEnvironment) (flow : ApplyFlow) : Bool :=
  match validatedScope record environment flow with
  | none => true
  | some scope =>
      if flow = .dbCorruption ∧ environment.configured = false then true
      else if !guardPasses record environment flow scope then record.status = .failed
      else flow = .missingAsset ∧ environment.configured = false

/-- No apply names a terminal run, unless it spares it. -/
def SparesTerminal (s : RepairSystem) : RepairEvent → Prop
  | .request (.apply flow repairRunId environment) =>
      ∀ record, s.store.find? repairRunId = some record → record.status.terminal = true →
        applySpares record environment flow = true
  | _ => True

theorem endsLast_journal (entries : List RepairJournalEntry) (repairRunId : PyStr)
    (status : RepairRunStatus) :
    EndsLast (entries.map .appendJournalEntry ++ [.updateRun repairRunId status]) := by
  induction entries with
  | nil => exact ⟨fun _ _ _ _ => rfl, trivial⟩
  | cons entry entries ih => exact ⟨nofun, ih⟩

theorem endsLast_itemWrites (repairRunId : PyStr) (outcomes : List OperationOutcome) :
    EndsLast (itemWrites repairRunId outcomes) :=
  endsLast_journal _ _ _

theorem endsLast_applyWrites (record : RunRecord) (environment : ApplyEnvironment)
    (flow : ApplyFlow) : EndsLast (applyWrites record environment flow) := by
  unfold applyWrites
  split
  · exact trivial
  · split
    · exact trivial
    · split
      · exact ⟨fun _ _ _ _ => rfl, trivial⟩
      · split
        · exact trivial
        · refine ⟨fun repairRunId status hwrite hterminal => ?_, endsLast_itemWrites _ _⟩
          cases hwrite
          cases hterminal

theorem endsLast_writes (store : RepairStore) (request : RepairRequest) :
    EndsLast (request.writes store) := by
  cases request with
  | preview => exact ⟨nofun, trivial⟩
  | apply flow repairRunId environment =>
      simp only [RepairRequest.writes]
      split
      · exact trivial
      · exact endsLast_applyWrites _ _ _
  | restore repairRunId scope planToken configured outcomes =>
      refine ⟨nofun, ?_⟩
      cases configured with
      | false => exact ⟨fun _ _ _ _ => rfl, trivial⟩
      | true => exact endsLast_itemWrites _ _
  | undo =>
      simp only [RepairRequest.writes]
      split
      · exact trivial
      · split
        · exact trivial
        · exact ⟨nofun, endsLast_journal _ _ _⟩

theorem target_journal {repairRunId : PyStr} {status : RepairRunStatus}
    {entries : List RepairJournalEntry}
    (hentries : ∀ entry ∈ entries, entry.repairRunId = repairRunId)
    {write : StoreWrite}
    (hwrite : write ∈ entries.map .appendJournalEntry ++ [.updateRun repairRunId status]) :
    write.target = some repairRunId := by
  rcases List.mem_append.mp hwrite with hentry | hstatus
  · obtain ⟨entry, hmem, rfl⟩ := List.mem_map.mp hentry
    exact congrArg some (hentries entry hmem)
  · rw [List.mem_singleton.mp hstatus]
    rfl

theorem target_itemWrites {repairRunId : PyStr} {outcomes : List OperationOutcome}
    {write : StoreWrite} (hwrite : write ∈ itemWrites repairRunId outcomes) :
    write.target = some repairRunId := by
  refine target_journal (fun entry hentry => ?_) hwrite
  obtain ⟨outcome, -, hjournal⟩ := List.mem_filterMap.mp hentry
  obtain ⟨status, -, rfl⟩ := Option.map_eq_some_iff.mp hjournal
  rfl

theorem target_applyWrites {record : RunRecord} {environment : ApplyEnvironment} {flow : ApplyFlow}
    {write : StoreWrite} (hwrite : write ∈ applyWrites record environment flow) :
    write.target = some record.repairRunId := by
  unfold applyWrites at hwrite
  split at hwrite
  · cases hwrite
  · split at hwrite
    · cases hwrite
    · split at hwrite
      · rw [List.mem_singleton.mp hwrite]
        rfl
      · split at hwrite
        · cases hwrite
        · rcases List.mem_cons.mp hwrite with rfl | hitem
          · rfl
          · exact target_itemWrites hitem

/-- What an apply writes leaves a terminal run as it is exactly when the apply spares it. -/
theorem applyWrites_harmless_iff {record : RunRecord} (environment : ApplyEnvironment)
    (flow : ApplyFlow) (hterminal : record.status.terminal = true) :
    (∀ write ∈ applyWrites record environment flow, write.Harmless record) ↔
      applySpares record environment flow = true := by
  cases hscope : validatedScope record environment flow with
  | none =>
      simp only [applyWrites, applySpares, hscope]
      exact iff_of_true (List.forall_mem_nil _) trivial
  | some scope =>
      simp only [applyWrites, applySpares, hscope]
      by_cases hunreached : flow = .dbCorruption ∧ environment.configured = false
      · rw [if_pos hunreached, if_pos hunreached]
        exact iff_of_true (List.forall_mem_nil _) rfl
      · rw [if_neg hunreached, if_neg hunreached]
        by_cases hrefused : (!guardPasses record environment flow scope) = true
        · rw [if_pos hrefused, if_pos hrefused, decide_eq_true_eq]
          constructor
          · intro h
            exact (h _ List.mem_cons_self rfl).symm
          · intro hfailed write hwrite
            rw [List.mem_singleton.mp hwrite]
            exact fun _ => hfailed.symm
        · rw [if_neg hrefused, if_neg hrefused, decide_eq_true_eq]
          by_cases hunconfigured : flow = .missingAsset ∧ environment.configured = false
          · rw [if_pos hunconfigured]
            exact iff_of_true (List.forall_mem_nil _) hunconfigured
          · rw [if_neg hunconfigured]
            refine iff_of_false (fun h => ?_) hunconfigured
            have hrunning : RepairRunStatus.running = record.status := h _ List.mem_cons_self rfl
            rw [← hrunning] at hterminal
            cases hterminal

/-! ## The invariant -/

/-- What is pending belongs to a run that is still to be created, or spares every terminal
run. -/
inductive SparesRuns (store : RepairStore) (pending : List StoreWrite) : Prop
  | creates {created : RunRecord} {rest : List StoreWrite}
      (hpending : pending = .createRun created :: rest) (hnew : created.status.terminal = false)
      (htarget : ∀ write ∈ rest, write.target = some created.repairRunId)
  | spares (hwritten : ∀ write ∈ pending, write.target ≠ none)
      (hharmless : ∀ record ∈ store.rows, record.status.terminal = true →
        ∀ write ∈ pending, write.Harmless record)

theorem SparesRuns.nil (store : RepairStore) : SparesRuns store [] :=
  .spares (List.forall_mem_nil _) fun _ _ _ => List.forall_mem_nil _

structure Settled (s : RepairSystem) : Prop where
  spares : SparesRuns s.store s.pending
  last : EndsLast s.pending

/-- The terminal runs of a store, as they are kept in another. -/
def KeepsTerminal (store store' : RepairStore) : Prop :=
  ∀ record ∈ store.rows, record.status.terminal = true →
    ∃ kept ∈ store'.rows, kept.repairRunId = record.repairRunId ∧ kept.status = record.status ∧
      kept.journal = record.journal

theorem KeepsTerminal.refl (store : RepairStore) : KeepsTerminal store store :=
  fun record hrecord _ => ⟨record, hrecord, rfl, rfl, rfl⟩

theorem KeepsTerminal.trans {a b c : RepairStore} (hab : KeepsTerminal a b)
    (hbc : KeepsTerminal b c) : KeepsTerminal a c := by
  intro record hrecord hterminal
  obtain ⟨first, hfirst, hid, hstatus, hjournal⟩ := hab record hrecord hterminal
  obtain ⟨second, hsecond, hid', hstatus', hjournal'⟩ :=
    hbc first hfirst (hstatus ▸ hterminal)
  exact ⟨second, hsecond, hid'.trans hid, hstatus'.trans hstatus, hjournal'.trans hjournal⟩

/-- What a request writes. -/
theorem sparesRuns_writes {store : RepairStore} {request : RepairRequest} {s : RepairSystem}
    (hs : s.store = store) (hok : SparesTerminal s (.request request)) :
    SparesRuns store (request.writes store) := by
  subst hs
  cases request with
  | preview => exact .creates rfl rfl (List.forall_mem_nil _)
  | apply flow repairRunId environment =>
      simp only [RepairRequest.writes]
      split
      · exact .nil _
      · next record hrecord =>
          obtain ⟨hmem, hid⟩ := Table.find?_eq_some_iff.mp hrecord
          refine .spares (fun write hwrite => ?_) fun other hother hterminal write hwrite => ?_
          · rw [target_applyWrites hwrite]
            exact Option.some_ne_none _
          · by_cases hsame : other.repairRunId = repairRunId
            · have heq : other = record := s.store.eq_of_key_eq hother hmem (hsame.trans hid.symm)
              subst heq
              exact (applyWrites_harmless_iff environment flow hterminal).mpr
                (hok other hrecord hterminal) write hwrite
            · apply StoreWrite.harmless_of_target
              rw [target_applyWrites hwrite, hid]
              exact fun heq => hsame (Option.some.inj heq).symm
  | restore repairRunId scope planToken configured outcomes =>
      refine .creates rfl rfl fun write hwrite => ?_
      cases configured with
      | false =>
          rw [List.mem_singleton.mp hwrite]
          rfl
      | true => exact target_itemWrites hwrite
  | undo =>
      simp only [RepairRequest.writes]
      split
      · exact .nil _
      · split
        · exact .nil _
        · refine .creates rfl rfl fun write hwrite => target_journal (fun entry hentry => ?_) hwrite
          obtain ⟨index, hindex, rfl⟩ := List.mem_mapIdx.mp hentry
          rfl

section Step

variable {s t : RepairSystem}

/-- A harmless write keeps the run. -/
theorem kept_of_harmless {store store' : RepairStore} {write : StoreWrite}
    (hrun : write.run store = some store') {record : RunRecord} (hrecord : record ∈ store.rows)
    (hharmless : write.Harmless record) :
    ∃ kept ∈ store'.rows, kept.repairRunId = record.repairRunId ∧ kept.status = record.status ∧
      kept.journal = record.journal := by
  cases write with
  | createRun created =>
      refine ⟨record, ?_, rfl, rfl, rfl⟩
      rw [(Table.rows_of_insert? hrun).1]
      exact List.mem_append_left _ hrecord
  | updateRun repairRunId status =>
      cases hrun
      refine ⟨_, List.mem_map_of_mem hrecord, ?_⟩
      by_cases hid : record.repairRunId = repairRunId
      · rw [if_pos (decide_eq_true hid)]
        exact ⟨rfl, hharmless hid.symm, rfl⟩
      · rw [if_neg (by simpa using hid)]
        exact ⟨rfl, rfl, rfl⟩
  | appendJournalEntry entry =>
      cases hrun
      refine ⟨_, List.mem_map_of_mem hrecord, ?_⟩
      rw [if_neg (by simpa using fun heq => hharmless heq.symm)]
      exact ⟨rfl, rfl, rfl⟩

/-- A terminal run was there before, or its status is what was written. -/
theorem terminal_of_write {store store' : RepairStore} {write : StoreWrite}
    (hrun : write.run store = some store') {record : RunRecord} (hrecord : record ∈ store'.rows) :
    (∃ old ∈ store.rows, old.repairRunId = record.repairRunId ∧ old.status = record.status) ∨
      write = .updateRun record.repairRunId record.status ∨ write = .createRun record := by
  cases write with
  | createRun created =>
      rw [(Table.rows_of_insert? hrun).1] at hrecord
      rcases List.mem_append.mp hrecord with hold | hnew
      · exact .inl ⟨record, hold, rfl, rfl⟩
      · exact .inr (.inr (congrArg _ (List.mem_singleton.mp hnew).symm))
  | updateRun repairRunId status =>
      cases hrun
      obtain ⟨old, hold, rfl⟩ := List.mem_map.mp hrecord
      by_cases hid : old.repairRunId = repairRunId
      · subst hid
        rw [if_pos (decide_eq_true rfl)]
        exact .inr (.inl rfl)
      · rw [if_neg (by simpa using hid)]
        exact .inl ⟨old, hold, rfl, rfl⟩
  | appendJournalEntry entry =>
      cases hrun
      obtain ⟨old, hold, rfl⟩ := List.mem_map.mp hrecord
      refine .inl ⟨old, hold, ?_⟩
      split <;> exact ⟨rfl, rfl⟩

theorem Settled.write (h : Settled s) {write : StoreWrite} {rest : List StoreWrite}
    {store : RepairStore} (hpending : s.pending = write :: rest)
    (hrun : write.run s.store = some store) :
    KeepsTerminal s.store store ∧ Settled ⟨store, rest⟩ := by
  obtain ⟨hspares, hlast⟩ := h
  rw [hpending] at hspares hlast
  cases hspares with
  | @creates created others heq hnew htarget =>
      cases heq
      obtain ⟨hrows, hfresh⟩ := Table.rows_of_insert? hrun
      refine ⟨fun record hrecord _ => kept_of_harmless hrun hrecord trivial,
        .spares (fun other hother => ?_) fun record hrecord hterminal other hother => ?_, hlast.2⟩
      · rw [htarget other hother]
        exact Option.some_ne_none _
      · apply StoreWrite.harmless_of_target
        rw [htarget other hother]
        intro heq
        rw [hrows] at hrecord
        rcases List.mem_append.mp hrecord with hold | hcreated
        · exact hfresh record hold (Option.some.inj heq).symm
        · rw [List.mem_singleton.mp hcreated, hnew] at hterminal
          cases hterminal
  | spares hwritten hharmless =>
      refine ⟨fun record hrecord hterminal =>
        kept_of_harmless hrun hrecord (hharmless record hrecord hterminal _ List.mem_cons_self),
        .spares (fun other hother => hwritten other (List.mem_cons_of_mem _ hother))
          fun record hrecord hterminal other hother => ?_, hlast.2⟩
      rcases terminal_of_write hrun hrecord with ⟨old, hold, hid, hstatus⟩ | hupdate | hcreate
      · rw [← hstatus] at hterminal
        have hharmlessOld := hharmless old hold hterminal other (List.mem_cons_of_mem _ hother)
        exact hharmlessOld.congr hid hstatus
      · -- a terminal status is written last
        rw [hlast.1 _ _ hupdate hterminal] at hother
        cases hother
      · rw [hcreate] at hwritten
        exact absurd rfl (hwritten _ List.mem_cons_self)

theorem Settled.step {event : RepairEvent} (h : Settled s) (hok : SparesTerminal s event)
    (hstep : s.step event = some t) : KeepsTerminal s.store t.store ∧ Settled t := by
  cases event with
  | request request =>
      simp only [RepairSystem.step] at hstep
      split at hstep
      · cases hstep
        exact ⟨.refl _, sparesRuns_writes rfl hok, endsLast_writes _ _⟩
      · cases hstep
  | write =>
      simp only [RepairSystem.step] at hstep
      split at hstep
      · cases hstep
      · next write rest hpending =>
          obtain ⟨store, hrun, rfl⟩ := Option.map_eq_some_iff.mp hstep
          exact h.write hpending hrun
  | raise =>
      cases hstep
      exact ⟨.refl _, .nil _, trivial⟩

end Step

/-! ## Whole runs -/

theorem Settled.start : Settled .start :=
  ⟨.nil _, trivial⟩

/-- Once an apply that names a terminal run spares it, no request of any kind changes the
status of a terminal run or adds to its journal. -/
theorem terminal_runs_kept {s t : RepairSystem} {first second : List RepairEvent}
    (hfirst : Steps RepairSystem.step SparesTerminal .start first s)
    (hsecond : Steps RepairSystem.step SparesTerminal s second t) :
    KeepsTerminal s.store t.store := by
  have hsettled : Settled s :=
    hfirst.invariant (fun _ _ _ hok hstep h => (h.step hok hstep).2) .start
  clear hfirst
  induction hsecond with
  | refl s => exact .refl _
  | head hok hstep _ ih =>
      obtain ⟨hkept, hnext⟩ := hsettled.step hok hstep
      exact hkept.trans (ih hnext)

/-! ## A run that is applied twice -/

def removalScope : JsonValue :=
  .obj [(py "domain", .str (py "consistency.missing_asset_references")),
    (py "action", .str (py "preview_remove")), (py "asset_ids", .list [.str (py "a")]),
    (py "select_all", .bool false), (py "limit", .int 100), (py "offset", .int 0)]

/-- An apply at a time when the scan gives this fingerprint for the selected asset. -/
def removalAt (now : Int) (dbFingerprint : PyStr) : ApplyEnvironment where
  digest := fun text => text
  now := now
  configured := true
  dbFingerprint := dbFingerprint
  fileFingerprint := py "f"
  currentIds := []
  preconditions := true
  outcomes := [⟨.removeMissingAssetReference, py "e", some (py "a"), some (py "/a"), .applied⟩]

/-- The asset is removed as it was previewed. -/
def removalRun : List RepairEvent :=
  [.request (.preview (py "r") removalScope
      (createPlanToken (py "t") 0 removalScope (py "present") (py "f"))),
    .write, .request (.apply .missingAsset (py "r") (removalAt 1 (py "present"))), .write, .write,
    .write]

def removed : RepairSystem :=
  Steps.last RepairSystem.step .start removalRun

/-- The run is applied again, when the asset is gone. -/
def removedTwice : RepairSystem :=
  Steps.last RepairSystem.step removed
    [.request (.apply .missingAsset (py "r") (removalAt 2 (py "gone"))), .write]

def sparesTerminal (s : RepairSystem) : RepairEvent → Bool
  | .request (.apply flow repairRunId environment) =>
      (s.store.find? repairRunId).all fun record =>
        !record.status.terminal || applySpares record environment flow
  | _ => true

theorem sparesTerminal_of_check (s : RepairSystem) (event : RepairEvent)
    (h : sparesTerminal s event = true) : SparesTerminal s event := by
  cases event with
  | request request =>
      cases request with
      | apply flow repairRunId environment =>
          intro record hrecord hterminal
          simp only [sparesTerminal, hrecord, Option.all_some, hterminal, Bool.not_true,
            Bool.false_or] at h
          exact h
      | _ => exact trivial
  | _ => exact trivial

/-- The run is applied once, and the removal is previewed again. -/
def previewedAgain (s : RepairSystem) : RepairSystem :=
  Steps.last (checkedStep RepairSystem.step sparesTerminal) s
    [.request (.preview (py "q") removalScope
      (createPlanToken (py "u") 3 removalScope (py "gone") (py "f"))), .write]

def removedInTime : RepairSystem :=
  Steps.last (checkedStep RepairSystem.step sparesTerminal) .start removalRun

theorem terminal_runs_kept_once :
    KeepsTerminal removedInTime.store (previewedAgain removedInTime).store :=
  terminal_runs_kept
    (Steps.of_checked sparesTerminal_of_check (Steps.exec_eq_last (by decide +kernel)))
    (Steps.of_checked sparesTerminal_of_check (Steps.exec_eq_last (by decide +kernel)))

/-- The second apply finds that the asset is gone, and the completed run becomes a failed one. -/
theorem completed_run_fails :
    exec RepairSystem.step .start removalRun = some removed ∧
      exec RepairSystem.step removed
        [.request (.apply .missingAsset (py "r") (removalAt 2 (py "gone"))), .write] =
          some removedTwice ∧
      ¬ KeepsTerminal removed.store removedTwice.store := by
  refine ⟨Steps.exec_eq_last (by decide +kernel), Steps.exec_eq_last (by decide +kernel),
    fun hkept => ?_⟩
  have hcompleted : ∃ record ∈ removed.store.rows, record.status = .completed := by decide +kernel
  have hfailed : ∀ record ∈ removedTwice.store.rows, record.status = .failed := by decide +kernel
  obtain ⟨record, hrecord, hstatus⟩ := hcompleted
  obtain ⟨kept, hmem, -, hsame, -⟩ := hkept record hrecord (by rw [hstatus]; rfl)
  rw [hfailed kept hmem, hstatus] at hsame
  cases hsame

end ImmichDoctor.Repair
