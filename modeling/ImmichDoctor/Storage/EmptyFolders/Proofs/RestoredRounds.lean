import ImmichDoctor.Storage.EmptyFolders.Proofs.HeldSessions
/-!
# Rounds of quarantine and restore

A quarantine request takes the directories that have nothing in them, so a tree of empty
directories goes in several rounds, the leaves first. Rounds that are restored in the opposite
order leave everything outside of the quarantine as it was, as long as nobody else changes
anything and no call of the file system goes wrong.
-/

namespace ImmichDoctor.Storage

open ImmichDoctor.Library
open ImmichDoctor.Library.FileSystem (Apart SetAside)

/-! ## Rounds -/

/-- Requests of which every quarantine is followed by the restore of its session, with other
rounds in between. The session is new, and its id, which is of hexadecimal digits, has no colon. -/
inductive Rounds (config : EmptyFolderConfig) : EmptyFolderSystem → EmptyFolderSystem → Prop
  | none {s : EmptyFolderSystem} : Rounds config s s
  | followed {s t u : EmptyFolderSystem} (first : Rounds config s t)
      (second : Rounds config t u) : Rounds config s u
  | scanned {s t : EmptyFolderSystem} (scan : s.step config .scan = some t) : Rounds config s t
  | dryRun {s t : EmptyFolderSystem} {sessionId : PyStr} {selection : QuarantineSelection}
      (quarantine : Request config sessionId (.quarantine selection true) s t) :
      Rounds config s t
  | round {s opened closing t : EmptyFolderSystem} {sessionId : PyStr}
      {selection : QuarantineSelection} (digits : 58 ∉ sessionId)
      (fresh : freshSession config s.files sessionId = true)
      (quarantine : Request config sessionId (.quarantine selection false) s opened)
      (inner : Rounds config opened closing)
      (restore : Request config sessionId (.restore sessionId [] true) closing t) :
      Rounds config s t

/-! ## What rounds leave -/

/-- Everything outside of the quarantine stays, the directories of the sessions that were there,
and their items in the index, where nothing new is active. -/
structure Undone (config : EmptyFolderConfig) (before after : Files)
    (index updated : EmptyDirIndex) : Prop where
  read : config.readIndex after = some updated
  outside : ∀ path, Apart config.quarantineRoot.parts path →
    after.lookup path = before.lookup path
  above : ∀ path node, path <+: config.quarantineRoot.parts → before.lookup path = some node →
    after.lookup path = some node
  sessions : ∀ id, before.vacant (config.sessionsRoot.parts ++ [id]) = false →
    ∀ path, config.sessionsRoot.parts ++ [id] <+: path → after.lookup path = before.lookup path
  kept : ∀ item ∈ index.rows, item.Labelled →
    before.vacant (config.sessionsRoot.parts ++ [item.sessionId]) = false → item ∈ updated.rows
  rows : ∀ item ∈ updated.rows, item ∈ index.rows ∨ item.state = .restored

section Rounds

variable {config : EmptyFolderConfig} {before between after : Files}
  {index updated final : EmptyDirIndex} {sessionId : PyStr}

theorem Undone.of_same (hindex : config.readIndex before = some index) :
    Undone config before before index index :=
  ⟨hindex, fun _ _ => rfl, fun _ _ _ h => h, fun _ _ _ _ => rfl, fun _ h _ _ => h,
    fun _ h => .inl h⟩

/-- A session that is there stays there. -/
theorem vacant_congr {path : FsPath}
    (h : ∀ other, path <+: other → after.lookup other = before.lookup other) :
    after.vacant path = before.vacant path := by
  rw [Bool.eq_iff_iff, FileSystem.vacant_iff, FileSystem.vacant_iff]
  exact forall₂_congr fun other hother => by rw [h other hother]

theorem Undone.trans (h : Undone config before between index updated)
    (h' : Undone config between after updated final) :
    Undone config before after index final := by
  have hthere : ∀ id, before.vacant (config.sessionsRoot.parts ++ [id]) = false →
      between.vacant (config.sessionsRoot.parts ++ [id]) = false := fun id hid => by
    rw [vacant_congr (h.sessions id hid), hid]
  refine ⟨h'.read, fun path hpath => (h'.outside path hpath).trans (h.outside path hpath),
    fun path node hpath hnode => h'.above path node hpath (h.above path node hpath hnode),
    fun id hid path hpath => ?_, fun item hitem hlabelled hid => ?_, fun item hitem => ?_⟩
  · rw [h'.sessions id (hthere id hid) path hpath, h.sessions id hid path hpath]
  · exact h'.kept item (h.kept item hitem hlabelled hid) hlabelled (hthere _ hid)
  · rcases h'.rows item hitem with hbetween | hrestored
    · exact h.rows item hbetween
    · exact .inr hrestored

/-- The directory of a session with items is there. -/
theorem Held.there {base : Files} {items : List EmptyDirQuarantineItem}
    (h : Held config base before sessionId items) {item : EmptyDirQuarantineItem}
    (hitem : item ∈ items) :
    before.vacant (config.sessionsRoot.parts ++ [sessionId]) = false := by
  rw [Bool.eq_false_iff, Ne, FileSystem.vacant_iff]
  intro hvacant
  have hdirectory := h.aside.there item.places (List.mem_map_of_mem hitem)
  change before.lookup item.quarantinePath.parts = _ at hdirectory
  rw [hvacant _ (h.items item hitem).1] at hdirectory
  cases hdirectory

/-- A session that was there before another one began is there while it lasts. -/
theorem Held.others_there {base : Files} {items : List EmptyDirQuarantineItem}
    (h : Held config base before sessionId items) {id : PyStr} (hne : id ≠ sessionId)
    (hid : base.vacant (config.sessionsRoot.parts ++ [id]) = false) :
    before.vacant (config.sessionsRoot.parts ++ [id]) = false := by
  rw [vacant_congr (h.others id hne hid), hid]

/-- Rounds in between leave what a session holds. -/
theorem Held.undone {base : Files} {items : List EmptyDirQuarantineItem}
    (h : Held config base before sessionId items)
    (hundone : Undone config before after index updated) :
    Held config base after sessionId items := by
  refine ⟨h.aside.congr hundone.outside hundone.above fun pair hpair rest => ?_,
    fun id hne hid path hpath => ?_, h.items⟩
  · obtain ⟨item, hitem, rfl⟩ := List.mem_map.mp hpair
    exact hundone.sessions sessionId (h.there hitem) _
      ((h.items item hitem).1.trans (List.prefix_append _ _))
  · rw [hundone.sessions id (h.others_there hne hid) path hpath, h.others id hne hid path hpath]

/-- What is in the index and not written again stays. -/
theorem mem_foldl_put_of_mem {items : List EmptyDirQuarantineItem} {item : EmptyDirQuarantineItem}
    (h : item ∈ index.rows)
    (hne : ∀ other ∈ items, item.quarantineItemId ≠ other.quarantineItemId) :
    item ∈ (items.foldl (fun existing item => existing.put item) index).rows := by
  induction items generalizing index with
  | nil => exact h
  | cons first items ih =>
      obtain ⟨hfirst, hrest⟩ := List.forall_mem_cons.mp hne
      exact ih (Table.mem_put.mpr (.inr ⟨h, hfirst⟩)) hrest

/-- Items with ids of their own are all in the index that they are written to. -/
theorem mem_foldl_put_of_pairwise {items : List EmptyDirQuarantineItem}
    (h : items.Pairwise fun a b => a.quarantineItemId ≠ b.quarantineItemId)
    {item : EmptyDirQuarantineItem} (hitem : item ∈ items) :
    item ∈ (items.foldl (fun existing item => existing.put item) index).rows := by
  induction items generalizing index with
  | nil => cases hitem
  | cons first items ih =>
      obtain ⟨hfirst, hrest⟩ := List.pairwise_cons.mp h
      rw [List.foldl_cons]
      rcases List.mem_cons.mp hitem with rfl | hlater
      · exact mem_foldl_put_of_mem (Table.mem_put.mpr (.inl rfl)) hfirst
      · exact ih hrest hlater

theorem Held.ids {base : Files} {items : List EmptyDirQuarantineItem}
    (h : Held config base before sessionId items) :
    items.Pairwise fun a b => a.quarantineItemId ≠ b.quarantineItemId := by
  refine (List.pairwise_map.mp h.aside.places).imp_of_mem fun {a b} ha hb hapart hsame => ?_
  have hplace := (h.items a ha).place_eq (h.items b hb) hsame
  apply hapart.1
  change a.quarantinePath.parts <+: b.quarantinePath.parts
  rw [hplace]

/-- After rounds in between, the active items of a new session are those that it has quarantined. -/
theorem Held.mem_iff_of_undone {base : Files} {items : List EmptyDirQuarantineItem}
    (h : Held config base before sessionId items) (hdigits : 58 ∉ sessionId)
    (hnew : ∀ item ∈ index.rows, item.sessionId ≠ sessionId)
    (hundone : Undone config before after
      (items.foldl (fun existing item => existing.put item) index) updated)
    (item : EmptyDirQuarantineItem) : item ∈ items ↔
      item ∈ updated.rows ∧ item.sessionId = sessionId ∧ item.state = .active := by
  constructor
  · intro hitem
    obtain ⟨hlabelled, hsession, hactive⟩ := (h.items item hitem).labelled hdigits
    refine ⟨hundone.kept item (mem_foldl_put_of_pairwise h.ids hitem) hlabelled ?_,
      hsession, hactive⟩
    rw [hsession]
    exact h.there hitem
  · rintro ⟨hmem, hsession, hactive⟩
    rcases hundone.rows item hmem with hopened | hrestored
    · rcases mem_foldl_put hopened with hitem | hbefore
      · exact hitem
      · exact absurd hsession (hnew item hbefore)
    · rw [hactive] at hrestored
      cases hrestored

/-- A round with others in it. -/
theorem undone_of_round {s opened closing t : EmptyFolderSystem}
    {selection : QuarantineSelection} (hdigits : 58 ∉ sessionId)
    (hfresh : freshSession config s.files sessionId = true)
    (hindex : config.readIndex s.files = some index)
    (hquarantine : Request config sessionId (.quarantine selection false) s opened)
    (hinner : ∀ index, config.readIndex opened.files = some index →
      ∃ updated, Undone config opened.files closing.files index updated)
    (hrestore : Request config sessionId (.restore sessionId [] true) closing t) :
    ∃ updated, Undone config s.files t.files index updated := by
  rw [freshSession, hindex, Option.all_some, Bool.and_eq_true, Bool.and_eq_true,
    List.all_eq_true] at hfresh
  obtain ⟨⟨-, hvacant⟩, hnew⟩ := hfresh
  have hother : ∀ id, s.files.vacant (config.sessionsRoot.parts ++ [id]) = false →
      id ≠ sessionId := by
    rintro id hid rfl
    rw [hvacant] at hid
    cases hid
  obtain ⟨items, hheld, hread⟩ := recorded_of_request hindex hquarantine
  obtain ⟨between, hundone⟩ := hinner _ hread
  have hitems := hheld.mem_iff_of_undone hdigits
    (fun other hother => of_decide_eq_true (hnew other hother)) hundone
  obtain ⟨updated, hlast, hback, hmarked⟩ :=
    returned_of_request hdigits hundone.read (hheld.undone hundone) hitems hrestore
  refine ⟨updated, hlast, fun path hpath => hback.aside.back hpath, hback.aside.above,
    fun id hid => hback.others id (hother id hid) hid, fun item hitem hlabelled hid => ?_,
    fun item hitem => ?_⟩
  · have hne := hother _ hid
    refine hmarked.kept item (hundone.kept item ?_ hlabelled (hheld.others_there hne hid))
      hlabelled hne
    refine mem_foldl_put_of_mem hitem fun other hmem => ?_
    obtain ⟨hlabelled', hsession, -⟩ := (hheld.items other hmem).labelled hdigits
    exact ids_ne_of_sessions hlabelled hlabelled' (hsession ▸ hne)
  · rcases hmarked.rows item hitem with hrestored | ⟨hmem, hpending⟩
    · exact .inr hrestored
    rcases hundone.rows item hmem with hopened | hrestored
    · rcases mem_foldl_put hopened with hnewItem | hbefore
      · obtain ⟨-, hsession, hactive⟩ := (hheld.items item hnewItem).labelled hdigits
        cases hpending hsession hactive
      · exact .inl hbefore
    · exact .inr hrestored

/-- A scan changes nothing. -/
theorem files_of_scan {s t : EmptyFolderSystem} (h : s.step config .scan = some t) :
    t.files = s.files := by
  obtain ⟨files, phase⟩ := s
  cases phase with
  | idle =>
      cases h
      rfl
  | scanning selection dryRun listed => cases h
  | quarantining id pending copied items =>
      cases pending with
      | nil => cases h
      | cons finding rest => cases h
  | restoring pending stage updated =>
      cases pending with
      | nil => cases h
      | cons item rest => cases h
  | deleting pending updated =>
      cases pending with
      | nil => cases h
      | cons item rest => cases h

theorem undone_of_rounds {s t : EmptyFolderSystem} (h : Rounds config s t)
    (hindex : config.readIndex s.files = some index) :
    ∃ updated, Undone config s.files t.files index updated := by
  induction h generalizing index with
  | none => exact ⟨index, .of_same hindex⟩
  | followed first second ihFirst ihSecond =>
      obtain ⟨between, hfirst⟩ := ihFirst hindex
      obtain ⟨updated, hsecond⟩ := ihSecond hfirst.read
      exact ⟨updated, hfirst.trans hsecond⟩
  | scanned hscan =>
      rw [files_of_scan hscan]
      exact ⟨index, .of_same hindex⟩
  | dryRun hquarantine =>
      rw [files_of_dryRun hquarantine]
      exact ⟨index, .of_same hindex⟩
  | round hdigits hfresh hquarantine inner hrestore ih =>
      exact undone_of_round hdigits hfresh hindex hquarantine (fun _ => ih) hrestore

/-- Rounds that are restored in the opposite order, with any number of rounds in and after each
other, leave everything that is neither in the quarantine nor above it as it was, and nothing
active in the index that was not there. -/
theorem rounds_give_back {s t : EmptyFolderSystem} (h : Rounds config s t)
    (hindex : config.readIndex s.files = some index) :
    (∀ path, Apart config.quarantineRoot.parts path →
        t.files.lookup path = s.files.lookup path) ∧
      ∃ updated, config.readIndex t.files = some updated ∧
        ∀ item ∈ updated.rows, item ∈ index.rows ∨ item.state = .restored := by
  obtain ⟨updated, hundone⟩ := undone_of_rounds h hindex
  exact ⟨hundone.outside, updated, hundone.read, hundone.rows⟩

end Rounds

/-! ## A folder in a folder -/

/-- What is checked of an event of a request. -/
def undisturbed (config : EmptyFolderConfig) (sessionId : PyStr) (s : EmptyFolderSystem) :
    EmptyFolderEvent → Bool
  | .select views id => decide (id = sessionId) &&
      match s.phase with
      | .scanning selection _ _ =>
          (selectFindings (scan config.roots (viewOf views)).findings selection).all
            fun finding => decide (Apart config.quarantineRoot.parts finding.absolutePath.parts)
      | _ => true
  | .moveFinding made how _ => made.isNone && decide (how = .renamed ∨ how = .copied)
  | .removeSource kept _ => kept.isNone
  | .recordSession steps fault _ _ => decide (3 ≤ steps) && fault.isNone
  | .checkPaths raises => !raises
  | .moveBack how raises => decide (how = .renamed ∨ how = .copied) && !raises
  | .removeQuarantined kept raises => kept.isNone && !raises
  | .writeIndex fault _ => fault.isNone
  | .list _ _ | .abortScan => true
  | _ => false

theorem completes_of_check {how : MoveHow} (h : how = .renamed ∨ how = .copied) :
    how.Completes := by
  rcases h with rfl | rfl
  · trivial
  · trivial

theorem undisturbed_of_check {config : EmptyFolderConfig} {sessionId : PyStr}
    (s : EmptyFolderSystem) (event : EmptyFolderEvent)
    (h : undisturbed config sessionId s event = true) : Undisturbed config sessionId s event := by
  cases event with
  | select views id =>
      rw [undisturbed, Bool.and_eq_true, decide_eq_true_eq] at h
      refine ⟨h.1, fun selection dryRun listed hphase finding hfinding => ?_⟩
      have hall := h.2
      rw [hphase, List.all_eq_true] at hall
      exact of_decide_eq_true (hall finding hfinding)
  | moveFinding made how mode =>
      rw [undisturbed, Bool.and_eq_true, Option.isNone_iff_eq_none, decide_eq_true_eq] at h
      exact ⟨h.1, completes_of_check h.2⟩
  | removeSource kept mode => exact Option.isNone_iff_eq_none.mp h
  | recordSession steps fault sessionFileId indexFileId =>
      rw [undisturbed, Bool.and_eq_true, Option.isNone_iff_eq_none, decide_eq_true_eq] at h
      exact h
  | checkPaths raises => exact (Bool.not_eq_true' raises).mp h
  | moveBack how raises =>
      rw [undisturbed, Bool.and_eq_true, decide_eq_true_eq, Bool.not_eq_true'] at h
      exact ⟨completes_of_check h.1, h.2⟩
  | removeQuarantined kept raises =>
      rw [undisturbed, Bool.and_eq_true, Option.isNone_iff_eq_none, Bool.not_eq_true'] at h
      exact h
  | writeIndex fault fileId => exact Option.isNone_iff_eq_none.mp h
  | list path view => trivial
  | abortScan => trivial
  | removeItem kept => trivial
  | _ => cases h

/-- Where the events of a request for the session lead. -/
def afterRequest (sessionId : PyStr) (s : EmptyFolderSystem) (first : EmptyFolderEvent)
    (events : List EmptyFolderEvent) : EmptyFolderSystem :=
  Steps.last (checkedStep (EmptyFolderSystem.step uploadsConfig)
    (undisturbed uploadsConfig sessionId)) ((s.step uploadsConfig first).getD s) events

theorem request_of_check {sessionId : PyStr} {s : EmptyFolderSystem} {first : EmptyFolderEvent}
    {events : List EmptyFolderEvent} (hidle : s.phase.isIdle = true)
    (hfirst : (s.step uploadsConfig first).isSome = true)
    (hruns : (exec (checkedStep (EmptyFolderSystem.step uploadsConfig)
      (undisturbed uploadsConfig sessionId)) ((s.step uploadsConfig first).getD s)
      events).isSome = true)
    (hdone : (afterRequest sessionId s first events).phase.isIdle = true) :
    Request uploadsConfig sessionId first s (afterRequest sessionId s first events) := by
  obtain ⟨started, hstarted⟩ := Option.isSome_iff_exists.mp hfirst
  refine ⟨EmptyFolderPhase.isIdle_iff.mp hidle, EmptyFolderPhase.isIdle_iff.mp hdone,
    started, events, hstarted, ?_⟩
  have hsteps := Steps.of_checked undisturbed_of_check (Steps.exec_eq_last hruns)
  rw [afterRequest]
  rw [hstarted, Option.getD_some] at hsteps ⊢
  exact hsteps

/-- `/up/a` has nothing in it but the empty `/up/a/b`. -/
def nestedFolders : EmptyFolderSystem where
  files := ⟨[([], .directory), ([py "up"], .directory), ([py "up", py "a"], .directory),
    ([py "up", py "a", py "b"], .directory), ([py "q"], .directory)], by decide⟩
  phase := .idle

def outerView : DirectoryView :=
  ⟨none, none, .directory (py "b") none none .nil .nil⟩

def nestedView : DirectoryView :=
  ⟨none, none, .directory (py "a") none none outerView.entries .nil⟩

/-- The inner folder is quarantined on another device. -/
def innerQuarantined : EmptyFolderSystem :=
  afterRequest (py "1") nestedFolders (.quarantine ⟨[], [], true⟩ false)
    [.list (.parse (py "/up/a/b")) emptyView, .list (.parse (py "/up/a")) outerView,
      .list (.parse (py "/up")) nestedView, .select [(py "uploads", .inr nestedView)] (py "1"),
      .moveFinding none .copied none, .removeSource none (some 448), .recordSession 3 none 1 2]

/-- Then the outer folder is empty too. -/
def outerQuarantined : EmptyFolderSystem :=
  afterRequest (py "2") innerQuarantined (.quarantine ⟨[], [], true⟩ false)
    [.list (.parse (py "/up/a")) emptyView, .list (.parse (py "/up")) uploadsView,
      .select [(py "uploads", .inr uploadsView)] (py "2"), .moveFinding none .renamed (some 448),
      .recordSession 3 none 3 4]

def outerRestored : EmptyFolderSystem :=
  afterRequest (py "2") outerQuarantined (.restore (py "2") [] true)
    [.checkPaths false, .moveBack .renamed false, .writeIndex none 5]

def innerRestored : EmptyFolderSystem :=
  afterRequest (py "1") outerRestored (.restore (py "1") [] true)
    [.checkPaths false, .moveBack .copied false, .removeQuarantined none false,
      .writeIndex none 6]

/-- Both folders are gone in between, and both come back. -/
theorem rounds_give_back_nested :
    outerQuarantined.files.lookup [py "up", py "a"] = none ∧
      (∀ path, Apart uploadsConfig.quarantineRoot.parts path →
        innerRestored.files.lookup path = nestedFolders.files.lookup path) ∧
      ∃ updated, uploadsConfig.readIndex innerRestored.files = some updated ∧
        ∀ item ∈ updated.rows, item ∈ (Table.empty : EmptyDirIndex).rows ∨
          item.state = .restored := by
  have houter : Rounds uploadsConfig innerQuarantined outerRestored :=
    .round (by decide) (by decide +kernel)
      (request_of_check (by decide +kernel) (by decide +kernel) (by decide +kernel)
        (by decide +kernel))
      .none
      (request_of_check (by decide +kernel) (by decide +kernel) (by decide +kernel)
        (by decide +kernel))
  have hrounds : Rounds uploadsConfig nestedFolders innerRestored :=
    .round (by decide) (by decide +kernel)
      (request_of_check (by decide +kernel) (by decide +kernel) (by decide +kernel)
        (by decide +kernel))
      houter
      (request_of_check (by decide +kernel) (by decide +kernel) (by decide +kernel)
        (by decide +kernel))
  exact ⟨by decide +kernel, rounds_give_back hrounds rfl⟩

end ImmichDoctor.Storage
