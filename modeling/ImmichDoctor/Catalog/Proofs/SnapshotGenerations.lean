import ImmichDoctor.Catalog.Proofs.StoreInvariant
import ImmichDoctor.Catalog.SessionCreation
/-!
# Generations of concurrent callers

The generations of a root rise with every insert exactly when no call inserts after another
one has inserted for the same root since its read.
-/

namespace ImmichDoctor.Catalog

open ImmichDoctor.Library

/-- A snapshot that is inserted later has the larger generation of its root. -/
def CatalogDb.GenerationsOrdered (db : CatalogDb) : Prop :=
  ∀ storageRootId, (db.generationsOf storageRootId).Pairwise (· < ·)

/-- So no two snapshots of a root share a generation. -/
structure CatalogDb.GenerationsValid (db : CatalogDb) : Prop where
  ordered : db.GenerationsOrdered
  distinct : ∀ a ∈ db.scanSnapshot.rows, ∀ b ∈ db.scanSnapshot.rows,
    a.storageRootId = b.storageRootId → a.generation = b.generation → a = b

/-- The root of the call has no other snapshots than those the call has read of. -/
def InsertsInTurn (s : SharedCatalog) : Instant × CallerEvent → Prop
  | (_, .insertSession caller) => ∀ call, s.calls caller = some call →
      (s.catalog.db.generationsOf call.storageRootId).length = call.known
  | _ => True

/-! ## Generations of one root -/

section Generations

variable {db db' : CatalogDb}

theorem nextGeneration_eq (storageRootId : Nat) :
    db.nextGeneration storageRootId = (db.generationsOf storageRootId).foldr max 0 + 1 :=
  rfl

theorem generationsOf_append {snapshot : ScanSnapshot}
    (hrows : db'.scanSnapshot.rows = db.scanSnapshot.rows ++ [snapshot]) (storageRootId : Nat) :
    db'.generationsOf storageRootId = db.generationsOf storageRootId ++
      if snapshot.storageRootId = storageRootId then [snapshot.generation] else [] := by
  unfold CatalogDb.generationsOf
  rw [hrows, List.filter_append, List.map_append]
  by_cases hroot : snapshot.storageRootId = storageRootId
  · simp [hroot]
  · simp [hroot]

theorem generationsOf_map {f : ScanSnapshot → ScanSnapshot}
    (hrows : db'.scanSnapshot.rows = db.scanSnapshot.rows.map f)
    (hf : ∀ snapshot, (f snapshot).storageRootId = snapshot.storageRootId ∧
      (f snapshot).generation = snapshot.generation) (storageRootId : Nat) :
    db'.generationsOf storageRootId = db.generationsOf storageRootId := by
  unfold CatalogDb.generationsOf
  rw [hrows]
  induction db.scanSnapshot.rows with
  | nil => rfl
  | cons snapshot rows ih =>
      obtain ⟨hroot, hgeneration⟩ := hf snapshot
      by_cases hof : snapshot.storageRootId = storageRootId
      · simp [hroot, hof, hgeneration, ih]
      · simp [hroot, hof, ih]

theorem CatalogDb.GenerationsOrdered.valid (h : db.GenerationsOrdered) : db.GenerationsValid := by
  refine ⟨h, fun a ha b hb hroot hgeneration => ?_⟩
  have hnodup : (db.generationsOf a.storageRootId).Nodup :=
    (h a.storageRootId).imp fun hlt => hlt.ne
  apply List.inj_on_of_nodup_map hnodup
  · exact List.mem_filter.mpr ⟨ha, decide_eq_true rfl⟩
  · exact List.mem_filter.mpr ⟨hb, decide_eq_true hroot.symm⟩
  · exact hgeneration

/-- Only a call of `create_scan_session` adds a generation. -/
theorem generationsOf_run {now : Instant} {op : StoreOp} (h : op.run now db = some db')
    (hcreate : op.isCreate = false) (storageRootId : Nat) :
    db'.generationsOf storageRootId = db.generationsOf storageRootId := by
  rcases scanSnapshot_run h with hsame | ⟨_, _, _, _, _, _, hcreates⟩ | ⟨f, hf, hrows⟩
  · rw [CatalogDb.generationsOf, hsame]
    rfl
  · rw [hcreate] at hcreates
    cases hcreates
  · exact generationsOf_map hrows (fun snapshot => (hf.columns snapshot).2) storageRootId

theorem rows_insertScanSession {startedAt : Instant} {sessionId : SessionId}
    {storageRootId generation : Nat} {maxFiles : Option Int}
    (h : db.insertScanSession startedAt sessionId storageRootId maxFiles generation = some db') :
    db'.storageRoot = db.storageRoot ∧ db'.fileRecord = db.fileRecord ∧
      ∃ snapshot : ScanSnapshot, snapshot.storageRootId = storageRootId ∧
        snapshot.generation = generation ∧ snapshot.status = .running ∧
        db'.scanSnapshot.rows = db.scanSnapshot.rows ++ [snapshot] := by
  simp only [CatalogDb.insertScanSession, Option.bind_eq_bind, Option.bind_eq_some_iff] at h
  obtain ⟨_, _, snapshots, hsnapshots, sessions, _, queue, _, hdb⟩ := h
  cases hdb
  exact ⟨rfl, rfl, _, rfl, rfl, rfl, (Table.rows_of_insert? hsnapshots).1⟩

theorem le_foldr_max {generations : List Nat} {generation : Nat} (h : generation ∈ generations) :
    generation ≤ generations.foldr max 0 := by
  induction generations with
  | nil => cases h
  | cons first rest ih =>
      rw [List.foldr_cons]
      rcases List.mem_cons.mp h with rfl | hrest
      · exact Nat.le_max_left _ _
      · exact (ih hrest).trans (Nat.le_max_right _ _)

theorem foldr_max_lt_iff {generations : List Nat} {bound : Nat} :
    generations.foldr max 0 < bound ↔
      0 < bound ∧ ∀ generation ∈ generations, generation < bound := by
  induction generations with
  | nil => simp
  | cons first rest ih =>
      rw [List.foldr_cons, max_lt_iff, ih, List.forall_mem_cons]
      constructor
      · rintro ⟨hfirst, hpos, hrest⟩
        exact ⟨hpos, hfirst, hrest⟩
      · rintro ⟨hpos, hfirst, hrest⟩
        exact ⟨hfirst, hpos, hrest⟩

/-- A number that was next after the first of the generations is above all of them exactly
when there are no others. -/
theorem pairwise_append_iff {generations : List Nat} {known : Nat}
    (hpos : ∀ generation ∈ generations, 0 < generation) (hknown : known ≤ generations.length) :
    (generations ++ [(generations.take known).foldr max 0 + 1]).Pairwise (· < ·) ↔
      generations.Pairwise (· < ·) ∧ generations.length = known := by
  rw [List.pairwise_append]
  constructor
  · rintro ⟨hordered, -, hbelow⟩
    refine ⟨hordered, ?_⟩
    by_contra hne
    -- a generation that was inserted since is above all that were there at the read
    have hlt : known < generations.length := by omega
    have hsince := hbelow generations[known] (List.getElem_mem hlt) _ (List.mem_singleton.mpr rfl)
    have habove : (generations.take known).foldr max 0 < generations[known] := by
      rw [foldr_max_lt_iff]
      refine ⟨hpos _ (List.getElem_mem hlt), fun generation hmem => ?_⟩
      obtain ⟨index, hindex, rfl⟩ := List.mem_iff_getElem.mp hmem
      rw [List.length_take] at hindex
      rw [List.getElem_take]
      exact List.pairwise_iff_getElem.mp hordered index known _ hlt (by omega)
    omega
  · rintro ⟨hordered, rfl⟩
    refine ⟨hordered, List.pairwise_singleton _ _, fun generation hmem later hlater => ?_⟩
    rw [List.mem_singleton.mp hlater, List.take_length]
    have hle := le_foldr_max hmem
    omega

end Generations

/-! ## Calls -/

/-- What a call has read is still there, with what was inserted since. -/
structure CallsRead (s : SharedCatalog) : Prop where
  positive : ∀ storageRootId, ∀ generation ∈ s.catalog.db.generationsOf storageRootId,
    0 < generation
  known : ∀ caller call, s.calls caller = some call →
    call.known ≤ (s.catalog.db.generationsOf call.storageRootId).length
  read : ∀ caller call, s.calls caller = some call → call.generation =
    ((s.catalog.db.generationsOf call.storageRootId).take call.known).foldr max 0 + 1

section Steps

variable {s t : SharedCatalog} {label : Instant × CallerEvent}

/-- A step without an insert leaves the generations. -/
def KeepsGenerations (s t : SharedCatalog) : Prop :=
  ∀ storageRootId, t.catalog.db.generationsOf storageRootId =
    s.catalog.db.generationsOf storageRootId

theorem CallsRead.kept (h : CallsRead s) (hkept : KeepsGenerations s t)
    (hcalls : ∀ caller call, t.calls caller = some call → s.calls caller = some call ∨
      call.known = (s.catalog.db.generationsOf call.storageRootId).length ∧
        call.generation = s.catalog.db.nextGeneration call.storageRootId) :
    CallsRead t := by
  constructor
  · intro storageRootId
    rw [hkept]
    exact h.positive storageRootId
  · intro caller call hcall
    rw [hkept]
    rcases hcalls caller call hcall with hold | ⟨hknown, -⟩
    · exact h.known caller call hold
    · exact hknown.le
  · intro caller call hcall
    rw [hkept]
    rcases hcalls caller call hcall with hold | ⟨hknown, hread⟩
    · exact h.read caller call hold
    · rw [hread, hknown, List.take_length, nextGeneration_eq]

/-- The insert of a call. -/
theorem generationsOf_insert {call : SessionCall} {db : CatalogDb}
    (hinsert : s.catalog.db.insertScanSession call.startedAt call.sessionId call.storageRootId
      call.maxFiles call.generation = some db) (storageRootId : Nat) :
    db.generationsOf storageRootId = s.catalog.db.generationsOf storageRootId ++
      if call.storageRootId = storageRootId then [call.generation] else [] := by
  obtain ⟨-, -, snapshot, hroot, hgeneration, -, hrows⟩ := rows_insertScanSession hinsert
  rw [generationsOf_append hrows, hroot, hgeneration]

theorem CallsRead.insert (h : CallsRead s) {caller : Nat} {call : SessionCall}
    {db : CatalogDb} {now : Instant} (hcall : s.calls caller = some call)
    (hinsert : s.catalog.db.insertScanSession call.startedAt call.sessionId call.storageRootId
      call.maxFiles call.generation = some db) :
    CallsRead ⟨⟨db, now⟩, Function.update s.calls caller none⟩ ∧
      (db.GenerationsOrdered ↔ s.catalog.db.GenerationsOrdered ∧
        (s.catalog.db.generationsOf call.storageRootId).length = call.known) := by
  have hgenerations := generationsOf_insert hinsert
  have hold : ∀ other pending, Function.update s.calls caller none other = some pending →
      s.calls other = some pending := by
    intro other pending hpending
    rcases of_update (· = some pending) hpending with ⟨-, hnone⟩ | ⟨-, hsome⟩
    · cases hnone
    · exact hsome
  refine ⟨⟨?_, ?_, ?_⟩, ?_⟩
  · intro storageRootId generation hmem
    change generation ∈ db.generationsOf storageRootId at hmem
    rw [hgenerations, List.mem_append] at hmem
    rcases hmem with hbefore | hnew
    · exact h.positive storageRootId generation hbefore
    · split at hnew
      · rw [List.mem_singleton.mp hnew, h.read caller call hcall]
        exact Nat.succ_pos _
      · cases hnew
  · intro other pending hpending
    have hknown := h.known other pending (hold other pending hpending)
    change pending.known ≤ (db.generationsOf pending.storageRootId).length
    rw [hgenerations, List.length_append]
    omega
  · intro other pending hpending
    have hbefore := hold other pending hpending
    change pending.generation =
      ((db.generationsOf pending.storageRootId).take pending.known).foldr max 0 + 1
    rw [hgenerations, List.take_append_of_le_length (h.known other pending hbefore)]
    exact h.read other pending hbefore
  · have hiff := pairwise_append_iff (h.positive call.storageRootId) (h.known caller call hcall)
    rw [← h.read caller call hcall] at hiff
    constructor
    · intro hordered
      have hroot := hordered call.storageRootId
      rw [hgenerations, if_pos rfl, hiff] at hroot
      refine ⟨fun storageRootId => ?_, hroot.2⟩
      have hbefore := hordered storageRootId
      rw [hgenerations] at hbefore
      exact (List.pairwise_append.mp hbefore).1
    · rintro ⟨hordered, hknown⟩ storageRootId
      rw [hgenerations]
      split
      · next hsame =>
          subst hsame
          exact hiff.mpr ⟨hordered _, hknown⟩
      · rw [List.append_nil]
        exact hordered storageRootId

/-- One step keeps the order exactly when its insert is in turn. -/
theorem CallsRead.step (h : CallsRead s) (hstep : s.step label = some t) :
    CallsRead t ∧ (t.catalog.db.GenerationsOrdered ↔
      s.catalog.db.GenerationsOrdered ∧ InsertsInTurn s label) := by
  have hsame : ∀ {u : SharedCatalog}, KeepsGenerations s u →
      (u.catalog.db.GenerationsOrdered ↔ s.catalog.db.GenerationsOrdered ∧ True) := by
    intro u hkept
    rw [and_true]
    exact forall_congr' fun storageRootId => by rw [hkept storageRootId]
  obtain ⟨now, event⟩ := label
  cases event with
  | readGeneration caller sessionId storageRootId maxFiles =>
      simp only [SharedCatalog.step] at hstep
      split at hstep
      · cases hstep
        refine ⟨h.kept (fun _ => rfl) fun other pending hpending => ?_, hsame fun _ => rfl⟩
        rcases of_update (· = some pending) hpending with ⟨-, hnew⟩ | ⟨-, hold⟩
        · cases hnew
          exact .inr ⟨rfl, rfl⟩
        · exact .inl hold
      · cases hstep
  | insertSession caller =>
      simp only [SharedCatalog.step, Option.bind_eq_bind, Option.bind_eq_some_iff] at hstep
      obtain ⟨call, hcall, hstep⟩ := hstep
      split at hstep
      · obtain ⟨db, hdb, hstep⟩ := Option.bind_eq_some_iff.mp hstep
        cases hstep
        obtain ⟨hread, hordered⟩ := @CallsRead.insert _ h _ _ _ now hcall hdb
        refine ⟨hread, hordered.trans (and_congr_right fun _ => ?_)⟩
        constructor
        · intro hknown other hother
          cases hcall.symm.trans hother
          exact hknown
        · exact fun hturn => hturn call hcall
      · cases hstep
  | abandon caller =>
      cases hstep
      refine ⟨h.kept (fun _ => rfl) fun other pending hpending => ?_, hsame fun _ => rfl⟩
      rcases of_update (· = some pending) hpending with ⟨-, hnone⟩ | ⟨-, hold⟩
      · cases hnone
      · exact .inl hold
  | store op =>
      have hstored : ∀ next, s.catalog.step (now, op) = some next → op.isCreate = false →
          CallsRead { s with catalog := next } ∧
            (next.db.GenerationsOrdered ↔ s.catalog.db.GenerationsOrdered ∧ True) := by
        intro next hnext hcreate
        have hrun := (CatalogState.step_eq_some_iff.mp hnext).2.1
        have hkept : KeepsGenerations s { s with catalog := next } := generationsOf_run hrun hcreate
        exact ⟨h.kept hkept fun _ _ hcall => .inl hcall, hsame hkept⟩
      cases op with
      | createScanSession => cases hstep
      | _ =>
          obtain ⟨next, hnext, hstep⟩ := Option.bind_eq_some_iff.mp hstep
          cases hstep
          exact hstored next hnext rfl

/-! ## Runs -/

theorem ordered_iff_of_run {labels : List (Instant × CallerEvent)} (h : CallsRead s)
    (hrun : Steps SharedCatalog.step (fun _ _ => True) s labels t) :
    t.catalog.db.GenerationsOrdered ↔
      s.catalog.db.GenerationsOrdered ∧ Steps SharedCatalog.step InsertsInTurn s labels t := by
  induction hrun with
  | refl s => exact (and_iff_left (.refl s)).symm
  | head _ hstep _ ih =>
      obtain ⟨hread, hordered⟩ := h.step hstep
      rw [ih hread, hordered, and_assoc]
      refine and_congr_right fun _ => ?_
      constructor
      · rintro ⟨hturn, hrest⟩
        exact .head hturn hstep hrest
      · intro hsteps
        cases hsteps with
        | head hturn hfirst hrest =>
            cases hstep.symm.trans hfirst
            exact ⟨hturn, hrest⟩

theorem callsRead_start (clock : Instant) : CallsRead (.start clock) :=
  ⟨fun _ => nofun, nofun, nofun⟩

/-- However the calls interleave, a later snapshot of a root has the larger generation exactly
when no call inserts after another one has inserted for its root since its read. -/
theorem generations_valid_iff {clock : Instant} {labels : List (Instant × CallerEvent)}
    (hrun : Steps SharedCatalog.step (fun _ _ => True) (.start clock) labels t) :
    t.catalog.db.GenerationsValid ↔
      Steps SharedCatalog.step InsertsInTurn (.start clock) labels t := by
  have hvalid : t.catalog.db.GenerationsValid ↔ t.catalog.db.GenerationsOrdered :=
    ⟨fun h => h.ordered, fun h => h.valid⟩
  rw [hvalid, ordered_iff_of_run (callsRead_start clock) hrun]
  refine and_iff_right fun storageRootId => ?_
  exact List.Pairwise.nil

end Steps

/-! ## Two calls at once -/

def insertsInTurn (s : SharedCatalog) : Instant × CallerEvent → Bool
  | (_, .insertSession caller) => (s.calls caller).all fun call =>
      (s.catalog.db.generationsOf call.storageRootId).length = call.known
  | _ => true

theorem insertsInTurn_of_check (s : SharedCatalog) (label : Instant × CallerEvent)
    (h : insertsInTurn s label = true) : InsertsInTurn s label := by
  obtain ⟨now, event⟩ := label
  cases event with
  | insertSession caller =>
      intro call hcall
      simpa [insertsInTurn, hcall] using h
  | _ => exact trivial

def configureUploads : Instant × CallerEvent :=
  (1, .store (.upsertStorageRoot
    ⟨py "uploads", py "immich_uploads_path", py "source", py "/uploads"⟩))

/-- One call after the other. -/
def callsInTurn : List (Instant × CallerEvent) :=
  [configureUploads, (2, .readGeneration 0 (py "a") 1 none), (3, .insertSession 0),
    (4, .readGeneration 1 (py "b") 1 none), (5, .insertSession 1)]

theorem generations_valid_in_turn :
    (Steps.last (checkedStep SharedCatalog.step insertsInTurn) (.start 0)
      callsInTurn).catalog.db.GenerationsValid := by
  have hrun : Steps SharedCatalog.step InsertsInTurn (.start 0) callsInTurn
      (Steps.last (checkedStep SharedCatalog.step insertsInTurn) (.start 0) callsInTurn) :=
    Steps.of_checked insertsInTurn_of_check (Steps.exec_eq_last (by decide))
  exact (generations_valid_iff (hrun.mono fun _ _ _ => trivial)).mpr hrun

/-- Both calls read before one of them inserts. -/
def callsAtOnce : List (Instant × CallerEvent) :=
  [configureUploads, (2, .readGeneration 0 (py "a") 1 none),
    (3, .readGeneration 1 (py "b") 1 none), (4, .insertSession 0), (5, .insertSession 1)]

/-- Both snapshots get generation 1. -/
theorem calls_at_once_share_generation :
    ∃ t, Steps SharedCatalog.step (fun _ _ => True) (.start 0) callsAtOnce t ∧
      ¬ t.catalog.db.GenerationsValid := by
  refine ⟨_, Steps.of_exec (fun _ _ _ => trivial) (Steps.exec_eq_last (by decide)), fun h => ?_⟩
  exact absurd (h.ordered 1) (by decide)

end ImmichDoctor.Catalog
