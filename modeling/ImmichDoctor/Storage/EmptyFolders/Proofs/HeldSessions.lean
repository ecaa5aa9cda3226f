import ImmichDoctor.Library.SetAside
import ImmichDoctor.Storage.EmptyFolders.Proofs.IndexAgreement
/-!
# Requests that nothing disturbs

As long as nobody else changes anything and no call of the file system goes wrong, a quarantine
request has its items in their places and in the index when it ends, and a restore of the session
puts all that the session still holds back to where it was.
-/

namespace ImmichDoctor.Storage

open ImmichDoctor.Library
open ImmichDoctor.Library.FileSystem (Apart Bare Below Relocated SetAside)

/-! ## Requests that nothing disturbs -/

/-- The move is complete in one way or the other. -/
def MoveHow.Completes : MoveHow → Prop
  | .renamed | .copied => True
  | .cutOff _ | .refused => False

/-- Within a request for the session nobody else changes anything and no call goes wrong, and
what is quarantined is neither in the quarantine nor above it. -/
def Undisturbed (config : EmptyFolderConfig) (sessionId : PyStr) (s : EmptyFolderSystem) :
    EmptyFolderEvent → Prop
  | .createFile _ _ | .createDirectory _ | .scan | .quarantine _ _ | .restore _ _ _
  | .delete _ _ _ => False
  | .select views id => id = sessionId ∧
      ∀ selection dryRun listed, s.phase = .scanning selection dryRun listed →
        ∀ finding ∈ selectFindings (scan config.roots (viewOf views)).findings selection,
          Apart config.quarantineRoot.parts finding.absolutePath.parts
  | .moveFinding made how _ => made = none ∧ how.Completes
  | .removeSource kept _ => kept = none
  | .recordSession steps fault _ _ => 3 ≤ steps ∧ fault = none
  | .checkPaths raises => raises = false
  | .moveBack how metadataRaises => how.Completes ∧ metadataRaises = false
  | .removeQuarantined kept metadataRaises => kept = none ∧ metadataRaises = false
  | .writeIndex fault _ => fault = none
  | .list _ _ | .abortScan | .removeItem _ => True

/-- A request from its start to its end. -/
def Request (config : EmptyFolderConfig) (sessionId : PyStr) (first : EmptyFolderEvent)
    (s t : EmptyFolderSystem) : Prop :=
  s.phase = .idle ∧ t.phase = .idle ∧ ∃ started events, s.step config first = some started ∧
    Steps (EmptyFolderSystem.step config) (Undisturbed config sessionId) started events t

/-! ## What a scan finds -/

section Scans

variable {config : EmptyFolderConfig} {files : Files} {listed : List (PurePath × DirectoryView)}
  {views : List (PyStr × RootView)}

/-- What reaches a directory reaches the one above it. -/
theorem DirectoryView.reach_above {view reached : DirectoryView} {names : List PyStr}
    {name : PyStr} (h : view.reach (names ++ [name]) = some reached) :
    ∃ above, view.reach names = some above := by
  induction names generalizing view with
  | nil => exact ⟨view, rfl⟩
  | cons first names ih =>
      rw [List.cons_append, reach] at h
      rw [reach]
      split at h
      · cases h
      · next herror =>
          obtain ⟨below, hchild, hreach⟩ := Option.bind_eq_some_iff.mp h
          rw [if_neg herror, hchild]
          exact ih hreach

/-- A directory without entries that was listed has no names in it. -/
theorem names_of_shows {path : FsPath} {view : DirectoryView}
    (h : view.shows files path = true) (hvacant : view.Vacant) :
    files.lookup path = some .directory ∧ files.names path = [] := by
  obtain ⟨herror, hentries⟩ := hvacant
  rw [DirectoryView.shows, herror, hentries, Bool.and_eq_true, Bool.and_eq_true] at h
  obtain ⟨⟨hdirectory, -⟩, hnames⟩ := h
  refine ⟨FileSystem.isDirectory_iff.mp hdirectory, ?_⟩
  rw [Option.isSome_none, Bool.false_or, List.all_eq_true] at hnames
  refine List.eq_nil_iff_forall_not_mem.mpr fun name hname => ?_
  have hlisted := hnames name hname
  rw [Listing.names, List.contains_nil] at hlisted
  cases hlisted

/-- The directory above one that was walked was walked too. -/
theorem walked_above (hviews : viewsListed config listed views = true)
    {root : PyStr × PurePath} (hroot : root ∈ config.roots) {walked : PurePath × DirectoryView}
    (hwalked : walked ∈ walkOf (viewOf views) root)
    (hrelative : ScannedRoot.relativePath ⟨root.1, root.2⟩ walked.1 ≠ []) :
    ∃ above ∈ walkOf (viewOf views) root, above.1.parts = walked.1.parts.dropLast := by
  have hview := List.all_eq_true.mp hviews root hroot
  unfold walkOf at hwalked ⊢
  split at hwalked
  · cases hwalked
  · next directory hdirectory =>
      rw [hdirectory, Bool.and_eq_true] at hview
      obtain ⟨names, hreach, hpath⟩ := (DirectoryView.mem_walk_iff hview.1).mp hwalked
      have hvalid := (DirectoryView.valid_of_reach hview.1 hreach).1
      have hne : names ≠ [] := by
        rintro rfl
        rw [hpath] at hrelative
        exact hrelative ((relativePath_pathBelow hvalid).mpr rfl)
      obtain ⟨init, name, rfl⟩ : ∃ init name, names = init ++ [name] :=
        ⟨_, _, (List.dropLast_append_getLast hne).symm⟩
      obtain ⟨above, habove⟩ := DirectoryView.reach_above hreach
      refine ⟨(pathBelow root.2 init, above),
        (DirectoryView.mem_walk_iff hview.1).mpr ⟨init, habove, rfl⟩, ?_⟩
      rw [hpath, parts_pathBelow hvalid, parts_pathBelow fun other hother =>
        hvalid other (List.mem_append_left _ hother), ← List.append_assoc, List.dropLast_concat]

/-- What is found by a scan of these files is an empty directory in another directory. -/
theorem bare_of_found (hviews : viewsListed config listed views = true)
    (hlisted : ∀ walked ∈ listed, walked.2.shows files walked.1.parts = true)
    {finding : EmptyDirectoryFinding} (h : finding ∈ (scan config.roots (viewOf views)).findings)
    (hapart : Apart config.quarantineRoot.parts finding.absolutePath.parts) :
    Bare config.quarantineRoot.parts files finding.absolutePath.parts ∧
      58 ∉ finding.rootSlug := by
  obtain ⟨root, hroot, walked, hwalked, hvacant, hrelative, rfl⟩ := mem_findings.mp h
  have hall := (listed_of_walkOf hviews hroot).1
  obtain ⟨hdirectory, hnames⟩ := names_of_shows (hlisted walked (hall walked hwalked)) hvacant
  obtain ⟨above, habove, hparts⟩ := walked_above hviews hroot hwalked hrelative
  refine ⟨⟨hapart, hdirectory, fun rest hrest => ?_, ?_⟩, ?_⟩
  · cases hlookup : files.lookup (walked.1.parts ++ rest) with
    | none => exact hlookup
    | some node =>
        have hsame := FileSystem.eq_of_names_nil hnames (List.prefix_append _ _) hlookup
        exact absurd (List.append_right_eq_self.mp hsame) hrest
  · have hshown := hlisted above (hall above habove)
    rw [DirectoryView.shows, Bool.and_eq_true, Bool.and_eq_true, FileSystem.isDirectory_iff,
      hparts] at hshown
    exact Option.isSome_iff_exists.mpr ⟨_, hshown.1.1⟩
  · have hslugs : ∀ slug ∈ knownSlugs, 58 ∉ slug := by decide
    exact hslugs _ ((slugs_configuredRoots config.storage).subset
      (List.mem_map_of_mem (mem_roots hroot)))

end Scans

/-! ## Moves that are complete -/

section Moves

variable {files : Files} {source destination : FsPath}

/-- Nothing is moved when there is nothing to move. -/
theorem beginMove_missing (how : MoveHow) (hnone : files.lookup destination = none)
    (hsource : files.lookup source = none) :
    beginMove files how source destination = (files, .failed) := by
  rcases beginMove_cases how hnone with heq | ⟨hsome, -⟩
  · exact heq
  · rw [hsource] at hsome
    cases hsome

/-- A directory is moved to a place where nothing is. -/
theorem beginMove_complete {how : MoveHow} (hhow : how.Completes)
    (hvacant : files.vacant destination = true) (hsource : (files.lookup source).isSome = true)
    (hapart : Apart source destination) :
    beginMove files how source destination = (files.moveTree source destination, .moved) ∨
      beginMove files how source destination =
        (files.copyTree source destination fun _ => true, .copied) := by
  have hnone := FileSystem.vacant_iff.mp hvacant destination List.prefix_rfl
  have hdestination : files.realDestination source destination = some destination := by
    unfold FileSystem.realDestination
    rw [if_neg]
    rw [FileSystem.isDirectory_iff, hnone]
    exact (Option.some_ne_none _).symm
  have hclear : ¬ ((files.lookup source).isNone = true ∨ ¬ Apart source destination ∨
      files.isDirectory source = true ∧ files.vacant destination = false) := by
    rintro (hmissing | hnot | ⟨-, hoccupied⟩)
    · rw [Option.isNone_iff_eq_none] at hmissing
      rw [hmissing] at hsource
      cases hsource
    · exact hnot hapart
    · rw [hvacant] at hoccupied
      cases hoccupied
  have hne : ¬ (source = destination ∧ (files.lookup source).isSome = true) := fun hsame =>
    hapart.1 (hsame.1 ▸ List.prefix_rfl)
  unfold beginMove
  rw [if_neg hne, hdestination]
  dsimp only
  rw [if_neg hclear]
  cases how with
  | renamed => exact .inl rfl
  | copied => exact .inr rfl
  | cutOff left => exact hhow.elim
  | refused => exact hhow.elim

end Moves

/-! ## The items of a session -/

def EmptyDirQuarantineItem.places (item : EmptyDirQuarantineItem) : FsPath × FsPath :=
  (item.originalPath.parts, item.quarantinePath.parts)

/-- The id of the item is made of what it says about itself. -/
def EmptyDirQuarantineItem.Labelled (item : EmptyDirQuarantineItem) : Prop :=
  58 ∉ item.sessionId ∧ item.quarantineItemId =
    colonJoined (colonJoined item.sessionId item.rootSlug) item.relativePath

/-- The item of a directory that was quarantined in the session. -/
def OfSession (config : EmptyFolderConfig) (sessionId : PyStr) (item : EmptyDirQuarantineItem) :
    Prop :=
  (config.sessionsRoot.parts ++ [sessionId] <+: item.quarantinePath.parts) ∧
    ∃ finding mode, item = config.quarantinedItem sessionId finding mode ∧ 58 ∉ finding.rootSlug

section Items

variable {config : EmptyFolderConfig} {sessionId : PyStr} {a b : EmptyDirQuarantineItem}

/-- A text without a colon ends at the first one. -/
theorem colonJoined_inj {slug other path rest : PyStr} (hslug : 58 ∉ slug) (hother : 58 ∉ other)
    (h : colonJoined slug path = colonJoined other rest) : slug = other ∧ path = rest := by
  have hends : ∀ tail : PyStr, ∀ c ∈ (58 :: tail).head?, ¬ c ≠ 58 := by
    intro tail c hc hne
    exact hne (Option.some.inj hc).symm
  obtain ⟨hsame, htail⟩ := PyStr.append_inj_of_forall (p := (· ≠ 58))
    (fun c hc heq => hslug (heq ▸ hc)) (fun c hc heq => hother (heq ▸ hc)) (hends path)
    (hends rest) h
  exact ⟨hsame, (List.cons.inj htail).2⟩

theorem colonJoined_assoc (first second third : PyStr) :
    colonJoined (colonJoined first second) third =
      colonJoined first (colonJoined second third) :=
  List.append_assoc _ _ _

/-- Items of different sessions have different ids. -/
theorem ids_ne_of_sessions (ha : a.Labelled) (hb : b.Labelled) (hne : a.sessionId ≠ b.sessionId) :
    a.quarantineItemId ≠ b.quarantineItemId := by
  rw [ha.2, hb.2, colonJoined_assoc, colonJoined_assoc]
  exact fun hsame => hne (colonJoined_inj ha.1 hb.1 hsame).1

/-- Items of a session with one id are in one place. -/
theorem OfSession.place_eq (ha : OfSession config sessionId a) (hb : OfSession config sessionId b)
    (hsame : a.quarantineItemId = b.quarantineItemId) : a.quarantinePath = b.quarantinePath := by
  obtain ⟨-, finding, mode, rfl, hslug⟩ := ha
  obtain ⟨-, other, mode', rfl, hslug'⟩ := hb
  change colonJoined (colonJoined sessionId _) _ = colonJoined (colonJoined sessionId _) _ at hsame
  rw [colonJoined_assoc, colonJoined_assoc] at hsame
  have htail := (List.cons.inj (List.append_cancel_left hsame)).2
  obtain ⟨hroot, hpath⟩ := colonJoined_inj hslug hslug' htail
  simp only [EmptyFolderConfig.quarantinedItem, EmptyFolderConfig.quarantineDestination, hroot,
    hpath]

theorem OfSession.labelled (h : OfSession config sessionId a) (hdigits : 58 ∉ sessionId) :
    a.Labelled ∧ a.sessionId = sessionId ∧ a.state = .active := by
  obtain ⟨-, finding, mode, rfl, -⟩ := h
  exact ⟨⟨hdigits, rfl⟩, rfl, rfl⟩

end Items

/-! ## What a session holds -/

/-- Since the files were `base`, these items of the session were moved to their places, and the
other sessions that were there have kept what they had. -/
structure Held (config : EmptyFolderConfig) (base files : Files) (sessionId : PyStr)
    (items : List EmptyDirQuarantineItem) : Prop where
  aside : SetAside config.quarantineRoot.parts base files
    (items.map EmptyDirQuarantineItem.places)
  others : ∀ id ≠ sessionId, base.vacant (config.sessionsRoot.parts ++ [id]) = false →
    ∀ path, config.sessionsRoot.parts ++ [id] <+: path → files.lookup path = base.lookup path
  items : ∀ item ∈ items, OfSession config sessionId item

/-- A session in its loop, with the findings that are pending. -/
structure Opened (config : EmptyFolderConfig) (base : Files) (index : EmptyDirIndex)
    (sessionId : PyStr) (files : Files) (pending : List EmptyDirectoryFinding)
    (items : List EmptyDirQuarantineItem) : Prop where
  read : config.readIndex files = some index
  held : Held config base files sessionId items
  bare : ∀ finding ∈ pending,
    Bare config.quarantineRoot.parts base finding.absolutePath.parts ∧ 58 ∉ finding.rootSlug
  placed : ∀ finding ∈ pending, config.sessionsRoot.parts ++ [sessionId] <+:
    (config.quarantineDestination sessionId finding).parts
  free : ∀ finding ∈ pending,
    files.vacant (config.quarantineDestination sessionId finding).parts = true
  apart : pending.Pairwise fun a b => Apart (config.quarantineDestination sessionId a).parts
    (config.quarantineDestination sessionId b).parts
  items : ∀ finding ∈ pending, ∀ item ∈ items, Apart item.quarantinePath.parts
    (config.quarantineDestination sessionId finding).parts

section Sessions

variable {config : EmptyFolderConfig} {base files files' : Files} {index : EmptyDirIndex}
  {sessionId : PyStr} {finding : EmptyDirectoryFinding} {rest : List EmptyDirectoryFinding}
  {items : List EmptyDirQuarantineItem} {path : FsPath}

theorem below_of_session (h : config.sessionsRoot.parts ++ [sessionId] <+: path) :
    Below config.quarantineRoot.parts path := by
  rw [parts_sessionsRoot, List.append_assoc] at h
  refine ⟨(List.prefix_append _ _).trans h, fun habove => ?_⟩
  have hlong := h.length_le
  have hshort := habove.length_le
  simp only [List.length_append, List.length_cons, List.length_nil] at hlong
  omega

theorem below_indexFile : Below config.quarantineRoot.parts config.indexFile := by
  refine ⟨quarantineRoot_above_indexFile, fun habove => ?_⟩
  have hshort := habove.length_le
  rw [parts_indexFile, List.length_append, List.length_singleton] at hshort
  omega

theorem below_sessionFile : Below config.quarantineRoot.parts (config.sessionFile sessionId) := by
  refine ⟨quarantineRoot_above_sessionFile sessionId, fun habove => ?_⟩
  have hshort := habove.length_le
  rw [parts_sessionFile, List.length_append, List.length_cons] at hshort
  omega

/-- The directories of different sessions are apart. -/
theorem session_away {id other : PyStr} (hne : id ≠ other)
    (h : config.sessionsRoot.parts ++ [other] <+: path) :
    ¬ config.sessionsRoot.parts ++ [id] <+: path := fun hbelow =>
  (apart_of_sessions hne hbelow h).1 List.prefix_rfl

/-- Something new on the way to a path away from the items and the other sessions. -/
theorem Held.widened (h : Held config base files sessionId items) {target : FsPath}
    (htarget : Below config.quarantineRoot.parts target)
    (hitems : ∀ item ∈ items, ¬ item.quarantinePath.parts <+: target)
    (hothers : ∀ id ≠ sessionId, ¬ config.sessionsRoot.parts ++ [id] <+: target)
    (hkept : ∀ path node, path ≠ target → files.lookup path = some node →
      files'.lookup path = some node)
    (hsame : ∀ path, ¬ path <+: target → files'.lookup path = files.lookup path) :
    Held config base files' sessionId items := by
  refine ⟨h.aside.congr (fun path hpath => ?_) (fun path node hpath hnode => ?_)
    (fun pair hpair rest => ?_), fun id hid hthere path hpath => ?_, h.items⟩
  · exact hsame path fun hway => (htarget.apart hpath).2 hway
  · exact hkept path node (fun heq => htarget.proper (heq ▸ hpath)) hnode
  · obtain ⟨item, hitem, rfl⟩ := List.mem_map.mp hpair
    exact hsame _ fun hway => hitems item hitem ((List.prefix_append _ _).trans hway)
  · rw [hsame path fun hway => hothers id hid (hpath.trans hway)]
    exact h.others id hid hthere path hpath

/-- The directories on the way to the first finding's place are made. -/
theorem Opened.made (h : Opened config base index sessionId files (finding :: rest) items)
    (made : Option Nat) :
    Opened config base index sessionId (makeDirectories files made
      (config.quarantineDestination sessionId finding).parts.dropLast).1 (finding :: rest)
      items := by
  obtain ⟨paths, hpaths, hwidens⟩ := @makeDirectories_widens files made
    (config.quarantineDestination sessionId finding).parts.dropLast
  have hplaced := h.placed finding List.mem_cons_self
  have hbelow := below_of_session hplaced
  have hway : ∀ path, ¬ path <+: (config.quarantineDestination sessionId finding).parts →
      (makeDirectories files made
        (config.quarantineDestination sessionId finding).parts.dropLast).1.lookup path =
      files.lookup path := fun path hpath =>
    hwidens.lookup fun hmem => hpath ((hpaths path hmem).trans (List.dropLast_prefix _))
  refine { h with read := ?_, held := ?_, free := fun other hother => ?_ }
  · rw [← h.read]
    refine readIndex_of_lookup (hway _ fun habove => ?_)
    have hsessions := (List.prefix_append _ _).trans hplaced
    rcases List.prefix_or_prefix_of_prefix habove hsessions with hfirst | hfirst
    · rw [parts_indexFile, parts_sessionsRoot, List.prefix_append_right_inj] at hfirst
      revert hfirst
      decide
    · exact sessionsRoot_away_indexFile hfirst
  · exact h.held.widened hbelow
      (fun item hitem => (h.items finding List.mem_cons_self item hitem).1)
      (fun id hid => session_away hid hplaced)
      (fun path node _ hnode => hwidens.kept path node hnode)
      hway
  · have hfree := FileSystem.vacant_iff.mp (h.free other hother)
    rw [FileSystem.vacant_iff]
    intro path hpath
    rw [hwidens.lookup, hfree path hpath]
    -- nothing is made at the place of a finding
    intro hmem
    have hshort := hpath.trans (hpaths path hmem)
    rcases List.mem_cons.mp hother with rfl | hlater
    · have hlength := hshort.length_le
      have hlong := hplaced.length_le
      rw [List.length_append, List.length_singleton] at hlong
      rw [List.length_dropLast] at hlength
      omega
    · exact ((List.pairwise_cons.mp h.apart).1 other hlater).2
        (hshort.trans (List.dropLast_prefix _))

theorem Opened.skip (h : Opened config base index sessionId files (finding :: rest) items) :
    Opened config base index sessionId files rest items :=
  { h with
    bare := fun other hother => h.bare other (List.mem_cons_of_mem _ hother)
    placed := fun other hother => h.placed other (List.mem_cons_of_mem _ hother)
    free := fun other hother => h.free other (List.mem_cons_of_mem _ hother)
    apart := (List.pairwise_cons.mp h.apart).2
    items := fun other hother => h.items other (List.mem_cons_of_mem _ hother) }

/-- The first finding is in its place. -/
theorem Opened.taken (h : Opened config base index sessionId files (finding :: rest) items)
    (hthere : (files.lookup finding.absolutePath.parts).isSome = true)
    (hmoved : Relocated finding.absolutePath.parts
      (config.quarantineDestination sessionId finding).parts files files') (mode : Option Nat) :
    Opened config base index sessionId files' rest
      (items ++ [config.quarantinedItem sessionId finding mode]) := by
  obtain ⟨hbare, hslug⟩ := h.bare finding List.mem_cons_self
  have hplaced := h.placed finding List.mem_cons_self
  have hbelow := below_of_session hplaced
  have hplaces := h.items finding List.mem_cons_self
  have hfirst := (List.pairwise_cons.mp h.apart).1
  have hsource : ∀ path, config.quarantineRoot.parts <+: path →
      ¬ finding.absolutePath.parts <+: path := fun path hpath => hbare.apart.not_below hpath
  have hkept : ∀ path, config.quarantineRoot.parts <+: path →
      ¬ (config.quarantineDestination sessionId finding).parts <+: path →
      files'.lookup path = files.lookup path := fun path hpath =>
    hmoved.same path (hsource path hpath)
  have haside := h.held.aside.take hbare hbelow (fun pair hpair => by
    obtain ⟨item, hitem, rfl⟩ := List.mem_map.mp hpair
    exact hplaces item hitem) hthere hmoved
  refine ⟨?_, ⟨?_, fun id hid hknown path hpath => ?_, fun item hitem => ?_⟩,
    h.skip.bare, h.skip.placed, fun other hother => ?_, h.skip.apart,
    fun other hother item hitem => ?_⟩
  · rw [← h.read]
    refine readIndex_of_lookup (hkept _ quarantineRoot_above_indexFile fun habove => ?_)
    exact sessionsRoot_away_indexFile (((List.prefix_append _ _).trans hplaced).trans habove)
  · rw [List.map_append, List.map_singleton]
    exact haside
  · rw [hkept path (below_of_session hpath).below fun hother =>
      session_away hid (hplaced.trans hother) hpath]
    exact h.held.others id hid hknown path hpath
  · rcases List.mem_append.mp hitem with hbefore | hnew
    · exact h.held.items item hbefore
    · rw [List.mem_singleton.mp hnew]
      exact ⟨hplaced, finding, mode, rfl, hslug⟩
  · have hfree := FileSystem.vacant_iff.mp (h.skip.free other hother)
    have hroot := (below_of_session (h.skip.placed other hother)).below
    rw [FileSystem.vacant_iff]
    intro path hpath
    rw [hkept path (hroot.trans hpath) ((hfirst other hother).symm.not_below hpath),
      hfree path hpath]
  · rcases List.mem_append.mp hitem with hbefore | hnew
    · exact h.skip.items other hother item hbefore
    · rw [List.mem_singleton.mp hnew]
      exact hfirst other hother

end Sessions

/-! ## A quarantine request -/

/-- The session is over, and its items are in the index. -/
structure Recorded (config : EmptyFolderConfig) (base : Files) (index : EmptyDirIndex)
    (sessionId : PyStr) (files : Files) (items : List EmptyDirQuarantineItem) : Prop where
  held : Held config base files sessionId items
  read : config.readIndex files =
    some (items.foldl (fun existing item => existing.put item) index)

/-- The first finding was copied to its place and is still where it was. -/
def CopiedFirst (config : EmptyFolderConfig) (base : Files) (index : EmptyDirIndex)
    (sessionId : PyStr) (files : Files) (pending : List EmptyDirectoryFinding)
    (items : List EmptyDirQuarantineItem) : Prop :=
  ∃ before finding rest, pending = finding :: rest ∧
    Opened config base index sessionId before pending items ∧
    (before.lookup finding.absolutePath.parts).isSome = true ∧
    files = before.copyTree finding.absolutePath.parts
      (config.quarantineDestination sessionId finding).parts fun _ => true

/-- The invariant of a quarantine request that started with the files `base`. -/
def QuarantineKept (config : EmptyFolderConfig) (base : Files) (index : EmptyDirIndex)
    (sessionId : PyStr) (files : Files) : EmptyFolderPhase → Prop
  | .idle => ∃ items, Recorded config base index sessionId files items
  | .scanning _ _ listed =>
      files = base ∧ ∀ walked ∈ listed, walked.2.shows base walked.1.parts = true
  | .quarantining id pending copied items => id = sessionId ∧
      if copied then CopiedFirst config base index sessionId files pending items
      else Opened config base index sessionId files pending items
  | .restoring _ _ _ | .deleting _ _ => False

section Quarantine

variable {config : EmptyFolderConfig} {base files : Files} {index : EmptyDirIndex}
  {sessionId : PyStr} {t : EmptyFolderSystem} {event : EmptyFolderEvent}
  {items : List EmptyDirQuarantineItem}

theorem held_nil (config : EmptyFolderConfig) (base : Files) (sessionId : PyStr) :
    Held config base base sessionId [] :=
  ⟨FileSystem.setAside_nil _ _, fun _ _ _ _ _ => rfl, List.forall_mem_nil _⟩

/-- The findings that a new session starts with. -/
theorem opened_of_fresh {listed : List (PurePath × DirectoryView)}
    {views : List (PyStr × RootView)} {selection : QuarantineSelection}
    (hindex : config.readIndex base = some index)
    (hlisted : ∀ walked ∈ listed, walked.2.shows base walked.1.parts = true)
    (hviews : viewsListed config listed views = true)
    (hfresh : freshSession config base sessionId = true)
    (hapart : ∀ finding ∈ selectFindings (scan config.roots (viewOf views)).findings selection,
      Apart config.quarantineRoot.parts finding.absolutePath.parts) :
    Opened config base index sessionId base
      (selectFindings (scan config.roots (viewOf views)).findings selection) [] := by
  rw [freshSession, Bool.and_eq_true, Bool.and_eq_true] at hfresh
  obtain ⟨⟨hvalid, hvacant⟩, -⟩ := hfresh
  have hplaced : ∀ finding ∈ selectFindings (scan config.roots (viewOf views)).findings selection,
      config.sessionsRoot.parts ++ [sessionId] <+:
        (config.quarantineDestination sessionId finding).parts := by
    intro finding hfinding
    have hmem := (List.mem_filter.mp hfinding).1
    rw [(findings_scan _ _).1.mem_iff, List.mem_flatMap] at hmem
    obtain ⟨root, hroot, hfound⟩ := hmem
    obtain ⟨names, -, hplace⟩ := places_of_found hviews hvalid hroot hfound
    rw [hplace]
    exact ⟨root.1 :: names, List.append_assoc _ _ _⟩
  refine ⟨hindex, held_nil config base sessionId, fun finding hfinding => ?_, hplaced,
    fun finding hfinding => ?_, destinations_apart hviews hvalid selection,
    fun _ _ => List.forall_mem_nil _⟩
  · exact bare_of_found hviews hlisted (List.mem_filter.mp hfinding).1 (hapart finding hfinding)
  · rw [FileSystem.vacant_iff] at hvacant ⊢
    exact fun path hbelow => hvacant path ((hplaced finding hfinding).trans hbelow)

theorem scanStep_undisturbed {selection : QuarantineSelection} {dryRun : Bool}
    {listed : List (PurePath × DirectoryView)} (hindex : config.readIndex base = some index)
    (h : QuarantineKept config base index sessionId files (.scanning selection dryRun listed))
    (hok : Undisturbed config sessionId ⟨files, .scanning selection dryRun listed⟩ event)
    (hstep : scanStep config files selection dryRun listed event = some t) :
    QuarantineKept config base index sessionId t.files t.phase := by
  obtain ⟨rfl, hlisted⟩ := h
  have hnothing : ∃ items, Recorded config files index sessionId files items :=
    ⟨[], held_nil config files sessionId, hindex⟩
  cases event with
  | list path view =>
      simp only [scanStep] at hstep
      split at hstep
      · next hshows =>
          cases hstep
          refine ⟨rfl, fun walked hwalked => ?_⟩
          rcases List.mem_append.mp hwalked with hbefore | hnew
          · exact hlisted walked hbefore
          · rw [List.mem_singleton.mp hnew]
            exact hshows
      · cases hstep
  | abortScan =>
      cases hstep
      exact hnothing
  | select views id =>
      obtain ⟨rfl, hapart⟩ := hok
      simp only [scanStep] at hstep
      split at hstep
      · next hviews =>
          split at hstep
          · cases hstep
            exact hnothing
          · split at hstep
            · next hfresh =>
                cases hstep
                exact ⟨rfl, opened_of_fresh hindex hlisted hviews hfresh
                  (hapart selection dryRun listed rfl)⟩
            · cases hstep
      · cases hstep
  | _ => cases hstep

theorem quarantineStep_undisturbed {finding : EmptyDirectoryFinding}
    {rest : List EmptyDirectoryFinding} {copied : Bool} {items : List EmptyDirQuarantineItem}
    {id : PyStr}
    (h : QuarantineKept config base index sessionId files
      (.quarantining id (finding :: rest) copied items))
    (hok : Undisturbed config sessionId
      ⟨files, .quarantining id (finding :: rest) copied items⟩ event)
    (hstep : quarantineStep config files id finding rest copied items event = some t) :
    QuarantineKept config base index sessionId t.files t.phase := by
  obtain ⟨rfl, h⟩ := h
  cases event with
  | moveFinding made how mode =>
      obtain ⟨rfl, hhow⟩ := hok
      simp only [quarantineStep] at hstep
      split at hstep
      · cases hstep
      next hcopied =>
        rw [if_neg hcopied] at h
        have hmade := h.made none
        have hbare := (h.bare finding List.mem_cons_self).1
        have hplaced := h.placed finding List.mem_cons_self
        have hapart := ((below_of_session hplaced).apart hbare.apart).symm
        have hfree := hmade.free finding List.mem_cons_self
        revert hstep
        generalize (makeDirectories files none
          (config.quarantineDestination id finding).parts.dropLast).1 = prepared at hmade hfree ⊢
        intro hstep
        split at hstep
        · cases hstep
          exact ⟨rfl, hmade.skip⟩
        by_cases hthere : (prepared.lookup finding.absolutePath.parts).isSome = true
        · rcases beginMove_complete hhow hfree hthere hapart with heq | heq
          · rw [heq] at hstep
            cases hstep
            exact ⟨rfl, hmade.taken hthere (FileSystem.relocated_moveTree prepared hapart) mode⟩
          · rw [heq] at hstep
            cases hstep
            exact ⟨rfl, prepared, finding, rest, rfl, hmade, hthere, rfl⟩
        · have hnone := FileSystem.vacant_iff.mp hfree _ List.prefix_rfl
          rw [beginMove_missing how hnone (Option.not_isSome_iff_eq_none.mp hthere)] at hstep
          cases hstep
          exact ⟨rfl, hmade.skip⟩
  | removeSource kept mode =>
      obtain rfl := hok
      simp only [quarantineStep] at hstep
      split at hstep
      · cases hstep
      next hcopied =>
        rw [Bool.not_eq_true', Bool.not_eq_false] at hcopied
        rw [if_pos hcopied] at h
        obtain ⟨before, first, others, heq, hopened, hthere, rfl⟩ := h
        cases heq
        have hbare := (hopened.bare finding List.mem_cons_self).1
        have hplaced := hopened.placed finding List.mem_cons_self
        have hapart := ((below_of_session hplaced).apart hbare.apart).symm
        cases hstep
        exact ⟨rfl, hopened.taken hthere (FileSystem.relocated_copyTree before hapart) mode⟩
  | _ => cases hstep

/-- What is there stays when a session file is written, but for that file. -/
theorem kept_writeSession {files' : Files} {steps fileId : Nat} {path : FsPath}
    {node : FsNode FileData}
    (h : config.writeSession files steps sessionId fileId = some files')
    (hpath : path ≠ config.sessionFile sessionId) (hnode : files.lookup path = some node) :
    files'.lookup path = some node := by
  revert hnode
  refine foldlM_kept (R := fun a b : Files => a.lookup path = some node →
    b.lookup path = some node) (fun _ h => h) (fun h h' hnode => h' (h hnode))
    (fun operation hoperation a b hstep hnode => ?_) h
  have hmem := List.mem_of_mem_take hoperation
  simp only [List.mem_cons, List.not_mem_nil, or_false] at hmem
  rcases hmem with rfl | rfl | rfl
  · exact (FileSystem.widens_foldlM_mkdir hstep).1.kept path node hnode
  · exact (FileSystem.widens_foldlM_mkdir hstep).1.kept path node hnode
  · rw [(lookup_writeText hstep).2 path hpath, hnode]

/-- What is there stays when the index is written, but for the index. -/
theorem kept_writeIndex {files' : Files} {fileId : Nat} {updated : EmptyDirIndex} {path : FsPath}
    {node : FsNode FileData}
    (h : config.writeIndex files none fileId updated = some files')
    (hpath : path ≠ config.indexFile) (hnode : files.lookup path = some node) :
    files'.lookup path = some node := by
  obtain ⟨made, hmade, hwritten⟩ := Option.bind_eq_some_iff.mp h
  rw [(lookup_writeText hwritten).2 path hpath]
  exact (FileSystem.widens_foldlM_mkdir hmade).1.kept path node hnode

/-- The session file and the index are written beside what is held. -/
theorem Held.written (h : Held config base files sessionId items) {files' : Files}
    {target : FsPath} (htarget : Below config.quarantineRoot.parts target)
    (haway : ¬ config.sessionsRoot.parts <+: target)
    (hkept : ∀ path node, path ≠ target → files.lookup path = some node →
      files'.lookup path = some node)
    (hsame : ∀ path, ¬ path <+: target → files'.lookup path = files.lookup path) :
    Held config base files' sessionId items :=
  h.widened htarget
    (fun item hitem hway => haway
      (((List.prefix_append _ _).trans (h.items item hitem).1).trans hway))
    (fun _ _ hway => haway ((List.prefix_append _ _).trans hway)) hkept hsame

theorem Held.writtenIndex (h : Held config base files sessionId items) {files' : Files}
    {fileId : Nat} {updated : EmptyDirIndex}
    (hwritten : config.writeIndex files none fileId updated = some files') :
    Held config base files' sessionId items ∧ config.readIndex files' = some updated := by
  refine ⟨h.written below_indexFile sessionsRoot_away_indexFile
    (fun path node hpath hnode => kept_writeIndex hwritten hpath hnode)
    (fun path hpath => lookup_writeIndex hwritten hpath), ?_⟩
  rcases readIndex_writeIndex hwritten (by simp) with ⟨-, hread⟩ | ⟨hfault, -⟩
  · exact hread
  · cases hfault

theorem recordStep_undisturbed {id : PyStr} {copied : Bool} {items : List EmptyDirQuarantineItem}
    (h : QuarantineKept config base index sessionId files (.quarantining id [] copied items))
    (hok : Undisturbed config sessionId ⟨files, .quarantining id [] copied items⟩ event)
    (hstep : recordStep config files id items event = some t) :
    QuarantineKept config base index sessionId t.files t.phase := by
  obtain ⟨rfl, h⟩ := h
  have hopened : Opened config base index id files [] items := by
    cases copied with
    | false => exact h
    | true =>
        obtain ⟨before, finding, rest, heq, -⟩ := h
        cases heq
  cases event with
  | recordSession steps fault sessionFileId indexFileId =>
      obtain ⟨hsteps, rfl⟩ := hok
      obtain ⟨written, hsession, hstep⟩ := Option.bind_eq_some_iff.mp hstep
      have hheld := hopened.held.written below_sessionFile (sessionsRoot_away_sessionFile id)
        (fun path node hpath hnode => kept_writeSession hsession hpath hnode)
        (fun path hpath => lookup_writeSession hsession hpath)
      have hread : config.readIndex written = some index := by
        rw [← hopened.read]
        exact readIndex_of_lookup (lookup_writeSession hsession (indexFile_away_sessionFile id))
      rw [if_neg (by omega)] at hstep
      simp only [hread] at hstep
      obtain ⟨final, hfinal, hstep⟩ := Option.bind_eq_some_iff.mp hstep
      cases hstep
      obtain ⟨hlast, hindex⟩ := hheld.writtenIndex hfinal
      exact ⟨items, hlast, hindex⟩
  | _ => cases hstep

/-- Within a request no other one starts. -/
theorem idle_undisturbed (hok : Undisturbed config sessionId ⟨files, .idle⟩ event)
    (hstep : (⟨files, .idle⟩ : EmptyFolderSystem).step config event = some t) : False := by
  cases event with
  | createFile path fileId => exact hok
  | createDirectory path => exact hok
  | scan => exact hok
  | quarantine selection dryRun => exact hok
  | restore id paths restoreAll => exact hok
  | delete id paths deleteAll => exact hok
  | _ => cases hstep

/-- A step of the system that is none of someone else is one of the request. -/
theorem step_undisturbed {phase : EmptyFolderPhase}
    (hok : Undisturbed config sessionId ⟨files, phase⟩ event)
    (hstep : (⟨files, phase⟩ : EmptyFolderSystem).step config event = some t) :
    phase.step config files event = some t := by
  cases event with
  | createFile path fileId => exact hok.elim
  | createDirectory path => exact hok.elim
  | _ => exact hstep

theorem quarantineKept_step {s : EmptyFolderSystem} (hindex : config.readIndex base = some index)
    (hok : Undisturbed config sessionId s event) (hstep : s.step config event = some t)
    (h : QuarantineKept config base index sessionId s.files s.phase) :
    QuarantineKept config base index sessionId t.files t.phase := by
  obtain ⟨files, phase⟩ := s
  cases phase with
  | idle => exact (idle_undisturbed hok hstep).elim
  | scanning selection dryRun listed =>
      exact scanStep_undisturbed hindex h hok (step_undisturbed hok hstep)
  | quarantining id pending copied items =>
      cases pending with
      | nil => exact recordStep_undisturbed h hok (step_undisturbed hok hstep)
      | cons finding rest => exact quarantineStep_undisturbed h hok (step_undisturbed hok hstep)
  | restoring pending stage updated => exact h.elim
  | deleting pending updated => exact h.elim

/-- A quarantine request ends with its items in their places and in the index. -/
theorem recorded_of_request {s : EmptyFolderSystem} {selection : QuarantineSelection}
    {dryRun : Bool} (hindex : config.readIndex s.files = some index)
    (h : Request config sessionId (.quarantine selection dryRun) s t) :
    ∃ items, Recorded config s.files index sessionId t.files items := by
  obtain ⟨hidle, hdone, started, events, hstart, hrun⟩ := h
  obtain ⟨files, phase⟩ := s
  cases hidle
  cases hstart
  have hkept : QuarantineKept config files index sessionId t.files t.phase :=
    hrun.invariant (P := fun s : EmptyFolderSystem =>
        QuarantineKept config files index sessionId s.files s.phase)
      (fun _ _ _ hok hstep h => quarantineKept_step hindex hok hstep h)
      ⟨rfl, List.forall_mem_nil _⟩
  rw [hdone] at hkept
  exact hkept

/-- A dry run changes nothing. -/
theorem files_of_dryRun {s : EmptyFolderSystem} {selection : QuarantineSelection}
    (h : Request config sessionId (.quarantine selection true) s t) : t.files = s.files := by
  obtain ⟨hidle, -, started, events, hstart, hrun⟩ := h
  obtain ⟨files, phase⟩ := s
  cases hidle
  cases hstart
  suffices hkept : t.files = files ∧
      (t.phase = .idle ∨ ∃ listed, t.phase = .scanning selection true listed) from hkept.1
  refine hrun.invariant (P := fun s : EmptyFolderSystem => s.files = files ∧
    (s.phase = .idle ∨ ∃ listed, s.phase = .scanning selection true listed))
    (fun s event t hok hstep h => ?_) ⟨rfl, .inr ⟨[], rfl⟩⟩
  obtain ⟨sfiles, phase⟩ := s
  obtain ⟨hfiles, hidle | ⟨listed, hscanning⟩⟩ := h
  · cases hidle
    exact (idle_undisturbed hok hstep).elim
  · cases hscanning
    have hstep := step_undisturbed hok hstep
    cases event with
    | list path view =>
        simp only [EmptyFolderPhase.step, scanStep] at hstep
        split at hstep
        · cases hstep
          exact ⟨hfiles, .inr ⟨_, rfl⟩⟩
        · cases hstep
    | abortScan =>
        cases hstep
        exact ⟨hfiles, .inl rfl⟩
    | select views id =>
        simp only [EmptyFolderPhase.step, scanStep, Bool.or_true, if_true] at hstep
        split at hstep
        · cases hstep
          exact ⟨hfiles, .inl rfl⟩
        · cases hstep
    | _ => cases hstep

end Quarantine

/-! ## A restore request -/

/-- The index that a restore of the session is going to write, while these items are pending. -/
structure Marked (sessionId : PyStr) (index updated : EmptyDirIndex)
    (pending : List EmptyDirQuarantineItem) : Prop where
  kept : ∀ item ∈ index.rows, item.Labelled → item.sessionId ≠ sessionId → item ∈ updated.rows
  rows : ∀ item ∈ updated.rows, item.state = .restored ∨ item ∈ index.rows ∧
    (item.sessionId = sessionId → item.state = .active → item ∈ pending)

/-- The first item was copied back and is still in quarantine. -/
def CopiedBack (config : EmptyFolderConfig) (base : Files) (index : EmptyDirIndex)
    (sessionId : PyStr) (files : Files) (pending : List EmptyDirQuarantineItem) : Prop :=
  ∃ before item rest, pending = item :: rest ∧ config.readIndex before = some index ∧
    Held config base before sessionId pending ∧
    files = before.copyTree item.quarantinePath.parts item.originalPath.parts fun _ => true

/-- The invariant of a restore of the session, which has the directories of `base`. -/
def RestoreKept (config : EmptyFolderConfig) (base : Files) (index : EmptyDirIndex)
    (sessionId : PyStr) (files : Files) : EmptyFolderPhase → Prop
  | .idle => ∃ updated, config.readIndex files = some updated ∧
      Held config base files sessionId [] ∧ Marked sessionId index updated []
  | .restoring pending stage updated => Marked sessionId index updated pending ∧
      if stage = .remove then CopiedBack config base index sessionId files pending
      else config.readIndex files = some index ∧ Held config base files sessionId pending
  | .scanning _ _ _ | .quarantining _ _ _ _ | .deleting _ _ => False

section Restore

variable {config : EmptyFolderConfig} {base files files' : Files} {index updated : EmptyDirIndex}
  {sessionId : PyStr} {t : EmptyFolderSystem} {event : EmptyFolderEvent}
  {item : EmptyDirQuarantineItem} {rest items : List EmptyDirQuarantineItem}

theorem Held.perm (h : Held config base files sessionId items)
    {other : List EmptyDirQuarantineItem} (hperm : items.Perm other) :
    Held config base files sessionId other :=
  ⟨h.aside.perm (hperm.map _), h.others, fun item hitem => h.items item (hperm.mem_iff.mpr hitem)⟩

/-- The item in quarantine and its old place are apart. -/
theorem Held.first_apart (h : Held config base files sessionId (item :: rest)) :
    Apart item.quarantinePath.parts item.originalPath.parts := by
  have hbare := h.aside.bare item.places List.mem_cons_self
  exact (h.aside.below item.places List.mem_cons_self).apart hbare.apart

/-- There is nothing at the old place of an item. -/
theorem Held.first_vacant (h : Held config base files sessionId (item :: rest)) :
    files.vacant item.originalPath.parts = true := by
  rw [FileSystem.vacant_iff]
  rintro _ ⟨tail, rfl⟩
  have hmem : item.places ∈ (item :: rest).map EmptyDirQuarantineItem.places := List.mem_cons_self
  exact h.aside.home_free hmem tail

/-- The first item is where it was. -/
theorem Held.putBack (h : Held config base files sessionId (item :: rest))
    (hmoved : Relocated item.quarantinePath.parts item.originalPath.parts files files') :
    Held config base files' sessionId rest ∧
      config.readIndex files' = config.readIndex files := by
  have hhome : Apart config.quarantineRoot.parts item.originalPath.parts :=
    (h.aside.bare item.places List.mem_cons_self).apart
  have hplaced := (h.items item List.mem_cons_self).1
  have hsame : ∀ path, config.quarantineRoot.parts <+: path →
      ¬ item.quarantinePath.parts <+: path → files'.lookup path = files.lookup path :=
    fun path hpath haway => hmoved.same path haway (hhome.not_below hpath)
  refine ⟨⟨h.aside.putBack hmoved, fun id hid hknown path hpath => ?_,
    fun other hother => h.items other (List.mem_cons_of_mem _ hother)⟩, ?_⟩
  · rw [hsame path (below_of_session hpath).below fun hbelow =>
      session_away hid (hplaced.trans hbelow) hpath]
    exact h.others id hid hknown path hpath
  · refine readIndex_of_lookup (hsame _ quarantineRoot_above_indexFile fun hbelow => ?_)
    exact sessionsRoot_away_indexFile (((List.prefix_append _ _).trans hplaced).trans hbelow)

theorem Marked.put (h : Marked sessionId index updated (item :: rest)) (hdigits : 58 ∉ sessionId)
    (hitem : OfSession config sessionId item) :
    Marked sessionId index (updated.put { item with state := .restored }) rest := by
  obtain ⟨hlabelled, hsession, -⟩ := hitem.labelled hdigits
  refine ⟨fun other hother hother' hne => ?_, fun other hother => ?_⟩
  · refine Table.mem_put.mpr (.inr ⟨h.kept other hother hother' hne, ?_⟩)
    exact ids_ne_of_sessions hother' hlabelled (hsession ▸ hne)
  · rcases Table.mem_put.mp hother with rfl | ⟨hbefore, hid⟩
    · exact .inl rfl
    rcases h.rows other hbefore with hrestored | ⟨hindex, hpending⟩
    · exact .inl hrestored
    refine .inr ⟨hindex, fun hsame hactive => ?_⟩
    rcases List.mem_cons.mp (hpending hsame hactive) with rfl | hlater
    · exact absurd rfl hid
    · exact hlater

/-- The restore goes on once the first item is where it was. -/
theorem RestoreKept.next (hdigits : 58 ∉ sessionId)
    (hmarked : Marked sessionId index updated (item :: rest))
    (hread : config.readIndex files = some index)
    (hheld : Held config base files sessionId (item :: rest))
    (hmoved : Relocated item.quarantinePath.parts item.originalPath.parts files files') :
    RestoreKept config base index sessionId files'
      (.restoring rest .check (updated.put { item with state := .restored })) := by
  obtain ⟨hnext, hindex⟩ := hheld.putBack hmoved
  exact ⟨hmarked.put hdigits (hheld.items item List.mem_cons_self), hindex.trans hread, hnext⟩

theorem restoreStep_undisturbed {stage : RestoreStage} (hdigits : 58 ∉ sessionId)
    (h : RestoreKept config base index sessionId files (.restoring (item :: rest) stage updated))
    (hok : Undisturbed config sessionId ⟨files, .restoring (item :: rest) stage updated⟩ event)
    (hstep : restoreStep files item rest stage updated event = some t) :
    RestoreKept config base index sessionId t.files t.phase := by
  obtain ⟨hmarked, h⟩ := h
  cases event with
  | checkPaths raises =>
      obtain rfl := hok
      simp only [restoreStep] at hstep
      split at hstep
      · cases hstep
      next hstage =>
        rw [not_not] at hstage
        subst hstage
        obtain ⟨hread, hheld⟩ := h
        have hparent : (files.lookup item.originalPath.parts.dropLast).isSome = true :=
          hheld.aside.parent_there List.mem_cons_self
        have hfree : files.lookup item.originalPath.parts = none :=
          FileSystem.vacant_iff.mp hheld.first_vacant _ List.prefix_rfl
        rw [if_neg Bool.false_ne_true, if_neg] at hstep
        · cases hstep
          exact ⟨hmarked, hread, hheld⟩
        · rw [hfree, Option.isSome_none, Bool.or_false, Option.isNone_iff_eq_none]
          intro hnone
          rw [hnone] at hparent
          cases hparent
  | moveBack how metadataRaises =>
      obtain ⟨hhow, rfl⟩ := hok
      simp only [restoreStep] at hstep
      split at hstep
      · cases hstep
      next hstage =>
        rw [not_not] at hstage
        subst hstage
        obtain ⟨hread, hheld⟩ := h
        have hthere : files.lookup item.quarantinePath.parts = some .directory :=
          hheld.aside.there item.places List.mem_cons_self
        have hsome : (files.lookup item.quarantinePath.parts).isSome = true := by
          rw [hthere]
          rfl
        have hapart := hheld.first_apart
        rcases beginMove_complete hhow hheld.first_vacant hsome hapart with heq | heq
        · rw [heq] at hstep
          cases hstep
          have hmoved := FileSystem.relocated_moveTree files hapart
          exact RestoreKept.next hdigits hmarked hread hheld hmoved
        · rw [heq] at hstep
          cases hstep
          exact ⟨hmarked, files, item, rest, rfl, hread, hheld, rfl⟩
  | removeQuarantined kept metadataRaises =>
      obtain ⟨rfl, rfl⟩ := hok
      simp only [restoreStep] at hstep
      split at hstep
      · cases hstep
      next hstage =>
        rw [not_not] at hstage
        subst hstage
        obtain ⟨before, first, others, heq, hread, hheld, rfl⟩ := h
        cases heq
        cases hstep
        have hmoved := FileSystem.relocated_copyTree before hheld.first_apart
        exact RestoreKept.next hdigits hmarked hread hheld hmoved
  | _ => cases hstep

theorem restoreKept_step {s : EmptyFolderSystem} (hdigits : 58 ∉ sessionId)
    (hok : Undisturbed config sessionId s event) (hstep : s.step config event = some t)
    (h : RestoreKept config base index sessionId s.files s.phase) :
    RestoreKept config base index sessionId t.files t.phase := by
  obtain ⟨files, phase⟩ := s
  have hphase := fun hnot => @step_undisturbed config files sessionId t event phase hnot hstep
  cases phase with
  | idle => exact (idle_undisturbed hok hstep).elim
  | scanning selection dryRun listed => exact h.elim
  | quarantining id pending copied items => exact h.elim
  | deleting pending updated => exact h.elim
  | restoring pending stage updated =>
      cases pending with
      | cons item rest => exact restoreStep_undisturbed hdigits h hok (hphase hok)
      | nil =>
          obtain ⟨hmarked, h⟩ := h
          have hheld : config.readIndex files = some index ∧
              Held config base files sessionId [] := by
            split at h
            · obtain ⟨before, item, rest, heq, -⟩ := h
              cases heq
            · exact h
          have hstep := hphase hok
          cases event with
          | writeIndex fault fileId =>
              obtain rfl := hok
              obtain ⟨written, hwritten, hstep⟩ := Option.bind_eq_some_iff.mp hstep
              cases hstep
              obtain ⟨hlast, hread⟩ := hheld.2.writtenIndex hwritten
              exact ⟨updated, hread, hlast, hmarked⟩
          | _ => cases hstep

/-- What is selected of a session are its active items. -/
theorem mem_selected {item : EmptyDirQuarantineItem} :
    item ∈ selectQuarantineItems index sessionId [] true ↔
      item ∈ index.rows ∧ item.sessionId = sessionId ∧ item.state = .active := by
  unfold selectQuarantineItems
  simp only [List.mem_filter, List.mem_insertionSort, Bool.true_or, and_true, Bool.and_eq_true,
    decide_eq_true_eq]

theorem nodup_selected : (selectQuarantineItems index sessionId [] true).Nodup := by
  have hrows : index.rows.Nodup := List.Nodup.of_map _ index.unique
  unfold selectQuarantineItems
  exact ((List.perm_insertionSort _ _).symm.nodup (hrows.filter _)).filter _

theorem Held.nodup (h : Held config base files sessionId items) : items.Nodup :=
  List.Nodup.of_map _ (List.Nodup.of_map _ h.aside.homes)

/-- A restore of the items that are held puts all of them back. -/
theorem returned_of_request {s : EmptyFolderSystem} (hdigits : 58 ∉ sessionId)
    (hindex : config.readIndex s.files = some index)
    (hheld : Held config base s.files sessionId items)
    (hitems : ∀ item, item ∈ items ↔
      item ∈ index.rows ∧ item.sessionId = sessionId ∧ item.state = .active)
    (h : Request config sessionId (.restore sessionId [] true) s t) :
    ∃ updated, config.readIndex t.files = some updated ∧
      Held config base t.files sessionId [] ∧ Marked sessionId index updated [] := by
  obtain ⟨hidle, hdone, started, events, hstart, hrun⟩ := h
  obtain ⟨files, phase⟩ := s
  cases hidle
  change config.readIndex files = some index at hindex
  have hperm : items.Perm (selectQuarantineItems index sessionId [] true) :=
    (List.perm_ext_iff_of_nodup hheld.nodup nodup_selected).mpr fun item => by
      rw [hitems item, mem_selected]
  have hmarked : Marked sessionId index index (selectQuarantineItems index sessionId [] true) :=
    ⟨fun item hitem _ _ => hitem, fun item hitem => .inr ⟨hitem, fun hsession hactive =>
      mem_selected.mpr ⟨hitem, hsession, hactive⟩⟩⟩
  have hselected := hheld.perm hperm
  have hkept : RestoreKept config base index sessionId started.files started.phase := by
    simp only [EmptyFolderSystem.step, EmptyFolderPhase.step, startStep, hindex] at hstart
    split at hstart
    · next hnone =>
        rw [hnone] at hmarked hselected
        cases hstart
        exact ⟨index, hindex, hselected, hmarked⟩
    · cases hstart
      exact ⟨hmarked, hindex, hselected⟩
  have hend : RestoreKept config base index sessionId t.files t.phase :=
    hrun.invariant (P := fun s : EmptyFolderSystem =>
        RestoreKept config base index sessionId s.files s.phase)
      (fun _ _ _ hok hstep h => restoreKept_step hdigits hok hstep h) hkept
  rw [hdone] at hend
  exact hend

end Restore

end ImmichDoctor.Storage
