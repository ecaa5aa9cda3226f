import ImmichDoctor.Storage.EmptyFolders.Proofs.FileSafety
import ImmichDoctor.Storage.EmptyFolders.Proofs.SessionPaths
/-!
# The index and the quarantined directories

The index is written once at the end of a request, after all its moves or removals. It
agrees with the file system as long as no request that has moved something back or removed
something goes wrong before that write, and none quarantines what is in quarantine.
-/

namespace ImmichDoctor.Storage

open ImmichDoctor.Library
open ImmichDoctor.Library.FileSystem (Apart)

/-! ## What the calls leave alone -/

section Calls

variable {files : Files}

/-- Directories are made on the way to a path only. -/
theorem makeDirectories_widens (made : Option Nat) (path : FsPath) :
    ∃ paths, (∀ other ∈ paths, other <+: path) ∧
      FileSystem.Widens paths files (makeDirectories files made path).1 := by
  have hinits : ∀ other ∈ path.inits.tail, other <+: path := fun other hother =>
    (List.mem_inits other path).mp (List.mem_of_mem_tail hother)
  unfold makeDirectories
  split
  · split
    · exact ⟨[], List.forall_mem_nil _, .refl _ _⟩
    · next hmade => exact ⟨_, hinits, (FileSystem.widens_foldlM_mkdir hmade).1⟩
  · next made =>
      cases hmade : (path.inits.tail.take made).foldlM FileSystem.mkdir files with
      | none => exact ⟨[], List.forall_mem_nil _, .refl _ _⟩
      | some files' =>
          exact ⟨_, fun other hother => hinits other (List.mem_of_mem_take hother),
            (FileSystem.widens_foldlM_mkdir hmade).1⟩

theorem lookup_makeDirectories (made : Option Nat) {path other : FsPath}
    (h : ¬ other <+: path) :
    (makeDirectories files made path).1.lookup other = files.lookup other := by
  obtain ⟨paths, hpaths, hwidens⟩ := @makeDirectories_widens files made path
  exact hwidens.lookup fun hmem => h (hpaths other hmem)

/-- What `shutil.move` does where nothing stands at the destination. -/
theorem beginMove_cases (how : MoveHow) {source destination : FsPath}
    (hnone : files.lookup destination = none) :
    beginMove files how source destination = (files, .failed) ∨
      ((files.lookup source).isSome = true ∧ Apart source destination ∧
        (files.isDirectory source = true → files.vacant destination = true) ∧
        (beginMove files how source destination = (files.moveTree source destination, .moved) ∨
          beginMove files how source destination =
            (files.copyTree source destination fun _ => true, .copied) ∨
          ∃ kept, beginMove files how source destination =
            (files.copyTree source destination kept, .failed))) := by
  have hdestination : files.realDestination source destination = some destination := by
    unfold FileSystem.realDestination
    rw [if_neg]
    rw [FileSystem.isDirectory_iff, hnone]
    exact (Option.some_ne_none _).symm
  unfold beginMove
  rw [if_neg]
  · rw [hdestination]
    dsimp only
    split
    · exact .inl rfl
    · next hclear =>
        simp only [not_or, not_and, Bool.not_eq_false, Option.isNone_iff_eq_none, not_not]
          at hclear
        obtain ⟨hsome, hapart, hvacant⟩ := hclear
        have hsome' : (files.lookup source).isSome = true := Option.isSome_iff_ne_none.mpr hsome
        cases how with
        | renamed => exact .inr ⟨hsome', hapart, hvacant, .inl rfl⟩
        | copied => exact .inr ⟨hsome', hapart, hvacant, .inr (.inl rfl)⟩
        | cutOff left => exact .inr ⟨hsome', hapart, hvacant, .inr (.inr ⟨_, rfl⟩)⟩
        | refused => exact .inl rfl
  · rintro ⟨rfl, hsome⟩
    rw [hnone] at hsome
    cases hsome

/-- Away from the destination a path stays as it is, or is gone with the source. -/
theorem lookup_beginMove (how : MoveHow) {source destination path : FsPath}
    (hnone : files.lookup destination = none) (hpath : ¬ destination <+: path) :
    (beginMove files how source destination).1.lookup path = files.lookup path ∨
      source <+: path ∧ Apart source destination ∧
        (beginMove files how source destination).1.lookup path = none := by
  rcases beginMove_cases how hnone with heq | ⟨-, hapart, -, heq | heq | ⟨kept, heq⟩⟩
  · rw [heq]
    exact .inl rfl
  · rw [heq]
    by_cases hbelow : source <+: path
    · exact .inr ⟨hbelow, hapart, FileSystem.lookup_moveTree_source files hapart hbelow⟩
    · exact .inl (FileSystem.lookup_moveTree_of_not_below files hbelow hpath)
  · rw [heq]
    exact .inl (FileSystem.lookup_copyTree_of_not_below files _ hpath)
  · rw [heq]
    exact .inl (FileSystem.lookup_copyTree_of_not_below files _ hpath)

/-- Only a move that is complete takes anything away. -/
theorem lookup_beginMove_kept (how : MoveHow) {source destination path : FsPath}
    (hnone : files.lookup destination = none) (hpath : ¬ destination <+: path)
    (hresult : (beginMove files how source destination).2 ≠ .moved) :
    (beginMove files how source destination).1.lookup path = files.lookup path := by
  rcases beginMove_cases how hnone with heq | ⟨-, -, -, heq | heq | ⟨kept, heq⟩⟩
  · rw [heq]
  · rw [heq] at hresult
    exact absurd rfl hresult
  · rw [heq]
    exact FileSystem.lookup_copyTree_of_not_below files _ hpath
  · rw [heq]
    exact FileSystem.lookup_copyTree_of_not_below files _ hpath

/-- A move or a complete copy puts the source at its destination. -/
theorem lookup_destination (how : MoveHow) {source destination : FsPath}
    (hnone : files.lookup destination = none)
    (hresult : (beginMove files how source destination).2 ≠ .failed) :
    (files.lookup source).isSome = true ∧ Apart source destination ∧
      (beginMove files how source destination).1.lookup destination = files.lookup source ∧
      ((beginMove files how source destination).2 = .moved →
        (beginMove files how source destination).1.lookup source = none) := by
  rcases beginMove_cases how hnone with heq | ⟨hsome, hapart, -, heq | heq | ⟨kept, heq⟩⟩
  · rw [heq] at hresult
    exact absurd rfl hresult
  · rw [heq]
    refine ⟨hsome, hapart, ?_, fun _ =>
      FileSystem.lookup_moveTree_source files hapart List.prefix_rfl⟩
    have hmoved := FileSystem.lookup_moveTree_destination files hapart []
    rwa [List.append_nil, List.append_nil] at hmoved
  · rw [heq]
    refine ⟨hsome, hapart, ?_, fun hmoved => by cases hmoved⟩
    have hcopied := @FileSystem.lookup_copyTree_destination _ _ _ source destination files
      (fun _ => true) []
    rwa [List.append_nil, List.append_nil, if_pos rfl] at hcopied
  · rw [heq] at hresult
    exact absurd rfl hresult

theorem lookup_removeDirectory (kept : Option (List FsPath)) {path other : FsPath}
    (h : ¬ path <+: other) :
    (removeDirectory files kept path).1.lookup other = files.lookup other := by
  unfold removeDirectory
  cases kept with
  | none => rw [FileSystem.lookup_removeTree, if_neg h]
  | some kept => rw [FileSystem.lookup_keep, if_pos (by simp [h])]

/-- A directory that was removed is gone, and one that was not is still there. -/
theorem lookup_removed (kept : Option (List FsPath)) (path : FsPath) :
    (removeDirectory files kept path).1.lookup path =
      if (removeDirectory files kept path).2 then none else files.lookup path := by
  unfold removeDirectory
  cases kept with
  | none => rw [FileSystem.lookup_removeTree, if_pos List.prefix_rfl, if_pos rfl]
  | some kept =>
      rw [FileSystem.lookup_keep, if_pos (by simp), if_neg Bool.false_ne_true]

theorem isDirectory_congr {files' : Files} {path : FsPath}
    (h : files'.lookup path = files.lookup path) :
    files'.isDirectory path = files.isDirectory path := by
  unfold FileSystem.isDirectory
  rw [h]

theorem isDirectory_of_lookup_none {path : FsPath} (h : files.lookup path = none) :
    files.isDirectory path = false := by
  unfold FileSystem.isDirectory
  rw [h]

end Calls

/-! ## What the writes leave alone -/

section Writes

variable {config : EmptyFolderConfig} {files files' : Files} {fileId : Nat}

theorem quarantineRoot_above_indexFile : config.quarantineRoot.parts <+: config.indexFile := by
  rw [parts_indexFile]
  exact List.prefix_append _ _

theorem quarantineRoot_above_sessionFile (sessionId : PyStr) :
    config.quarantineRoot.parts <+: config.sessionFile sessionId := by
  rw [parts_sessionFile]
  exact List.prefix_append _ _

theorem indexFile_away_sessionFile (sessionId : PyStr) :
    ¬ config.indexFile <+: config.sessionFile sessionId := by
  rw [parts_indexFile, parts_sessionFile, List.prefix_append_right_inj, List.cons_prefix_cons]
  exact fun h => absurd h.1 (by decide)

/-- A write of the session changes what is on the way to its file. -/
theorem lookup_writeSession {steps : Nat} {sessionId : PyStr}
    (h : config.writeSession files steps sessionId fileId = some files') {path : FsPath}
    (hpath : ¬ path <+: config.sessionFile sessionId) :
    files'.lookup path = files.lookup path := by
  refine foldlM_kept (R := fun a b : Files => b.lookup path = a.lookup path)
    (fun _ => rfl) (fun h h' => h'.trans h) (fun operation hoperation a b hstep => ?_) h
  have hmem := List.mem_of_mem_take hoperation
  simp only [List.mem_cons, List.not_mem_nil, or_false] at hmem
  rcases hmem with rfl | rfl | rfl
  · exact FileSystem.lookup_mkdirs hstep fun hbelow =>
      hpath (hbelow.trans (quarantineRoot_above_sessionFile sessionId))
  · exact FileSystem.lookup_mkdirs hstep fun hbelow => hpath (hbelow.trans (List.dropLast_prefix _))
  · exact (lookup_writeText hstep).2 path fun heq => hpath (heq ▸ List.prefix_rfl)

/-- A write of the index that is not cut off changes what is on the way to the index. -/
theorem lookup_writeIndex {fault : Option WriteFault} {index : EmptyDirIndex}
    (h : config.writeIndex files fault fileId index = some files') {path : FsPath}
    (hpath : ¬ path <+: config.indexFile) : files'.lookup path = files.lookup path := by
  have hwrite : ∀ content,
      ((files.mkdirs config.quarantineRoot.parts).bind fun made =>
        writeText made config.indexFile fileId content) = some files' →
      files'.lookup path = files.lookup path := by
    intro content hsome
    obtain ⟨made, hmade, hwritten⟩ := Option.bind_eq_some_iff.mp hsome
    rw [(lookup_writeText hwritten).2 path fun heq => hpath (heq ▸ List.prefix_rfl)]
    exact FileSystem.lookup_mkdirs hmade fun hbelow => hpath
      (hbelow.trans quarantineRoot_above_indexFile)
  unfold EmptyFolderConfig.writeIndex at h
  split at h
  · cases h
    rfl
  · exact hwrite _ h
  · exact hwrite _ h

/-- The index that was written is read. -/
theorem readIndex_writeIndex {fault : Option WriteFault} {index : EmptyDirIndex}
    (h : config.writeIndex files fault fileId index = some files') (hfault : fault ≠ some .cutOff) :
    fault = none ∧ config.readIndex files' = some index ∨
      fault = some .unwritten ∧ files' = files := by
  unfold EmptyFolderConfig.writeIndex at h
  split at h
  · cases h
    exact .inr ⟨rfl, rfl⟩
  · exact absurd rfl hfault
  · obtain ⟨made, hmade, hwritten⟩ := Option.bind_eq_some_iff.mp h
    obtain ⟨⟨id, hlookup, -⟩, -⟩ := lookup_writeText hwritten
    refine .inl ⟨rfl, ?_⟩
    rw [EmptyFolderConfig.readIndex, hlookup]

end Writes

/-! ## Agreement -/

/-- The index can be read, and its active items are those with a directory in quarantine. -/
def IndexAgrees (config : EmptyFolderConfig) (files : Files) : Prop :=
  ∃ index, config.readIndex files = some index ∧ ∀ item ∈ index.rows,
    item.state = .active ↔ files.isDirectory item.quarantinePath.parts = true

theorem readIndex_of_lookup {config : EmptyFolderConfig} {files files' : Files}
    (h : files'.lookup config.indexFile = files.lookup config.indexFile) :
    config.readIndex files' = config.readIndex files := by
  unfold EmptyFolderConfig.readIndex
  rw [h]

/-- An index with items is in the file. -/
theorem exists_indexFile {config : EmptyFolderConfig} {files : Files} {index : EmptyDirIndex}
    (h : config.readIndex files = some index) (hrows : index.rows ≠ []) :
    ∃ node, files.lookup config.indexFile = some node := by
  cases hlookup : files.lookup config.indexFile with
  | some node => exact ⟨node, rfl⟩
  | none =>
      rw [EmptyFolderConfig.readIndex, hlookup] at h
      cases h
      exact absurd rfl hrows

/-- The index that the running request is going to write. -/
def EmptyFolderPhase.updated : EmptyFolderPhase → Option EmptyDirIndex
  | .restoring _ _ updated | .deleting _ updated => some updated
  | _ => none

/-- Nobody else changes anything, no quarantine request selects what lies in the directory
of the sessions, the metadata of a restored directory can be set, no write of the index is
cut off, and a request that has changed the state of an item gets to write the index. -/
def KeepsIndex (config : EmptyFolderConfig) (s : EmptyFolderSystem) : EmptyFolderEvent → Prop
  | .createFile _ _ | .createDirectory _ => False
  | .select views _ => ∀ selection dryRun listed, s.phase = .scanning selection dryRun listed →
      ∀ finding ∈ selectFindings (scan config.roots (viewOf views)).findings selection,
        ¬ config.sessionsRoot.parts <+: finding.absolutePath.parts
  | .moveBack _ metadataRaises | .removeQuarantined _ metadataRaises => metadataRaises = false
  | .checkPaths raises => raises = true → s.phase.updated = config.readIndex s.files
  | .recordSession _ fault _ _ => fault ≠ some .cutOff
  | .writeIndex fault _ => fault ≠ some .cutOff ∧
      (fault = some .unwritten → s.phase.updated = config.readIndex s.files)
  | _ => True

/-- Items that agree with the file system, each at a place of its own in its session, which
came from outside of the sessions. -/
structure Agreed (config : EmptyFolderConfig) (files : Files)
    (items : List EmptyDirQuarantineItem) : Prop where
  agree : ∀ item ∈ items,
    item.state = .active ↔ files.isDirectory item.quarantinePath.parts = true
  placed : ∀ item ∈ items,
    config.sessionsRoot.parts ++ [item.sessionId] <+: item.quarantinePath.parts
  original : ∀ item ∈ items, Apart item.originalPath.parts config.sessionsRoot.parts
  apart : ∀ a ∈ items, ∀ b ∈ items, a = b ∨ Apart a.quarantinePath.parts b.quarantinePath.parts

section Agreed

variable {config : EmptyFolderConfig} {files files' : Files} {items : List EmptyDirQuarantineItem}

theorem Agreed.mono (h : Agreed config files items) {fewer : List EmptyDirQuarantineItem}
    (hsub : ∀ item ∈ fewer, item ∈ items) : Agreed config files fewer :=
  ⟨fun item hitem => h.agree item (hsub item hitem),
    fun item hitem => h.placed item (hsub item hitem),
    fun item hitem => h.original item (hsub item hitem),
    fun a ha b hb => h.apart a (hsub a ha) b (hsub b hb)⟩

theorem Agreed.congr (h : Agreed config files items)
    (hsame : ∀ item ∈ items, files'.lookup item.quarantinePath.parts =
      files.lookup item.quarantinePath.parts) : Agreed config files' items :=
  { h with
    agree := fun item hitem => by
      rw [isDirectory_congr (hsame item hitem)]
      exact h.agree item hitem }

theorem Agreed.in_sessions (h : Agreed config files items) {item : EmptyDirQuarantineItem}
    (hitem : item ∈ items) : config.sessionsRoot.parts <+: item.quarantinePath.parts :=
  (List.prefix_append _ _).trans (h.placed item hitem)

end Agreed

/-! ## Quarantining -/

theorem apart_of_sessions {base : FsPath} {a b : PyStr} {left right : FsPath}
    (hne : a ≠ b) (ha : base ++ [a] <+: left) (hb : base ++ [b] <+: right) : Apart left right := by
  obtain ⟨restA, rfl⟩ := ha
  obtain ⟨restB, rfl⟩ := hb
  rw [List.append_assoc, List.append_assoc, apart_append_iff]
  exact apart_cons_of_ne hne

/-- What the move of a directory may do away from its destination: it makes directories on
the way there, and the source may be gone. -/
def MoveFrame (source destination : FsPath) (files files' : Files) : Prop :=
  ∀ path, ¬ destination <+: path →
    files'.lookup path = files.lookup path ∨
    path <+: destination ∧ files.lookup path = none ∧ files'.lookup path = some .directory ∨
    source <+: path ∧ Apart source destination ∧ files'.lookup path = none

section Frames

variable {files files' files'' : Files} {source destination : FsPath}

theorem moveFrame_makeDirectories (made : Option Nat) :
    MoveFrame source destination files
      (makeDirectories files made destination.dropLast).1 := by
  intro path _
  obtain ⟨paths, hpaths, hwidens⟩ := @makeDirectories_widens files made destination.dropLast
  cases hbefore : files.lookup path with
  | some node => exact .inl (hwidens.kept path node hbefore)
  | none =>
      cases hafter : (makeDirectories files made destination.dropLast).1.lookup path with
      | none => exact .inl rfl
      | some node =>
          rcases hwidens.new path node hafter with hold | ⟨hmem, rfl⟩
          · rw [hbefore] at hold
            cases hold
          · exact .inr (.inl ⟨(hpaths path hmem).trans (List.dropLast_prefix _), rfl, rfl⟩)

theorem moveFrame_beginMove (how : MoveHow) (hnone : files.lookup destination = none) :
    MoveFrame source destination files (beginMove files how source destination).1 := by
  intro path hpath
  rcases lookup_beginMove how hnone hpath with hsame | hgone
  · exact .inl hsame
  · exact .inr (.inr hgone)

theorem moveFrame_removeDirectory (kept : Option (List FsPath))
    (hapart : Apart source destination) :
    MoveFrame source destination files (removeDirectory files kept source).1 := by
  intro path _
  by_cases hbelow : source <+: path
  · unfold removeDirectory
    cases kept with
    | none =>
        refine .inr (.inr ⟨hbelow, hapart, ?_⟩)
        rw [FileSystem.lookup_removeTree, if_pos hbelow]
    | some kept =>
        dsimp only
        rw [FileSystem.lookup_keep]
        split
        · exact .inl rfl
        · exact .inr (.inr ⟨hbelow, hapart, rfl⟩)
  · exact .inl (lookup_removeDirectory kept hbelow)

theorem MoveFrame.trans (h : MoveFrame source destination files files')
    (h' : MoveFrame source destination files' files'') :
    MoveFrame source destination files files'' := by
  intro path hpath
  rcases h' path hpath with hsame | ⟨hway, hnone, hdirectory⟩ | hgone
  · rw [hsame]
    exact h path hpath
  · rcases h path hpath with hsame | ⟨-, -, hmade⟩ | ⟨hbelow, hapart, -⟩
    · exact .inr (.inl ⟨hway, hsame ▸ hnone, hdirectory⟩)
    · rw [hmade] at hnone
      cases hnone
    · exact absurd (hbelow.trans hway) hapart.1
  · exact .inr (.inr hgone)

end Frames

/-- A quarantine request in its loop. -/
structure Quarantining (config : EmptyFolderConfig) (files : Files) (sessionId : PyStr)
    (pending : List EmptyDirectoryFinding) (copied : Bool) (index : EmptyDirIndex)
    (items : List EmptyDirQuarantineItem) : Prop where
  agreed : Agreed config files (index.rows ++ items)
  fresh : ∀ item ∈ index.rows, item.sessionId ≠ sessionId
  outside : ∀ finding ∈ pending, ¬ config.sessionsRoot.parts <+: finding.absolutePath.parts
  directory : ∀ finding ∈ pending, ∀ node,
    files.lookup finding.absolutePath.parts = some node → node = .directory
  placed : ∀ finding ∈ pending, config.sessionsRoot.parts ++ [sessionId] <+:
    (config.quarantineDestination sessionId finding).parts
  free : ∀ finding ∈ (if copied then pending.tail else pending),
    files.vacant (config.quarantineDestination sessionId finding).parts = true
  apart : pending.Pairwise fun a b => Apart (config.quarantineDestination sessionId a).parts
    (config.quarantineDestination sessionId b).parts
  items : ∀ finding ∈ pending, ∀ item ∈ items,
    Apart (config.quarantineDestination sessionId finding).parts item.quarantinePath.parts
  copy : copied = true → ∀ finding ∈ pending.head?,
    Apart finding.absolutePath.parts (config.quarantineDestination sessionId finding).parts ∧
      files.isDirectory (config.quarantineDestination sessionId finding).parts = true

section Quarantining

variable {config : EmptyFolderConfig} {files files' : Files} {sessionId : PyStr}
  {finding : EmptyDirectoryFinding} {rest : List EmptyDirectoryFinding} {copied : Bool}
  {index : EmptyDirIndex} {items : List EmptyDirQuarantineItem}

theorem in_sessions_of_placed {path : FsPath}
    (h : config.sessionsRoot.parts ++ [sessionId] <+: path) :
    config.sessionsRoot.parts <+: path :=
  (List.prefix_append _ _).trans h

/-- A source that is moved into the sessions is not above what is in them. -/
theorem not_above_sessions {source destination path : FsPath}
    (houtside : ¬ config.sessionsRoot.parts <+: source)
    (hdestination : config.sessionsRoot.parts <+: destination)
    (hapart : Apart source destination) (hpath : config.sessionsRoot.parts <+: path) :
    ¬ source <+: path := by
  intro hbelow
  rcases List.prefix_or_prefix_of_prefix hbelow hpath with habove | hinside
  · exact hapart.1 (habove.trans hdestination)
  · exact houtside hinside

/-- The places of the items stay as they are while the first of the findings is moved. -/
theorem Quarantining.lookup_item
    (h : Quarantining config files sessionId (finding :: rest) copied index items)
    (hframe : MoveFrame finding.absolutePath.parts
      (config.quarantineDestination sessionId finding).parts files files')
    {item : EmptyDirQuarantineItem} (hitem : item ∈ index.rows ++ items) :
    files'.lookup item.quarantinePath.parts = files.lookup item.quarantinePath.parts := by
  have hplaced := h.placed finding List.mem_cons_self
  have hapart : Apart (config.quarantineDestination sessionId finding).parts
      item.quarantinePath.parts := by
    rcases List.mem_append.mp hitem with hold | hnew
    · exact apart_of_sessions (h.fresh item hold).symm hplaced (h.agreed.placed item hitem)
    · exact h.items finding List.mem_cons_self item hnew
  rcases hframe _ hapart.1 with hsame | ⟨hway, -⟩ | ⟨hbelow, hmoved, -⟩
  · exact hsame
  · exact absurd hway hapart.2
  · exact absurd hbelow (not_above_sessions (h.outside finding List.mem_cons_self)
      (in_sessions_of_placed hplaced) hmoved (h.agreed.in_sessions hitem))

/-- The index stays where it is. -/
theorem Quarantining.readIndex_congr
    (h : Quarantining config files sessionId (finding :: rest) copied index items)
    (hindex : config.readIndex files = some index)
    (hframe : MoveFrame finding.absolutePath.parts
      (config.quarantineDestination sessionId finding).parts files files') :
    config.readIndex files' = some index := by
  have hsessions := in_sessions_of_placed (h.placed finding List.mem_cons_self)
  have haway : ¬ (config.quarantineDestination sessionId finding).parts <+: config.indexFile :=
    fun hbelow => sessionsRoot_away_indexFile (hsessions.trans hbelow)
  have hsame : files'.lookup config.indexFile = files.lookup config.indexFile := by
    rcases hframe _ haway with hsame | ⟨hway, -⟩ | ⟨hbelow, hapart, hgone⟩
    · exact hsame
    · exfalso
      have hroots := List.prefix_or_prefix_of_prefix hway hsessions
      rw [parts_indexFile, parts_sessionsRoot, List.prefix_append_right_inj,
        List.prefix_append_right_inj] at hroots
      revert hroots
      decide
    · -- the source is the index file itself, where there is no directory
      have hroot : config.quarantineRoot.parts <+:
          (config.quarantineDestination sessionId finding).parts := by
        refine List.IsPrefix.trans ?_ hsessions
        rw [parts_sessionsRoot]
        exact List.prefix_append _ _
      rw [parts_indexFile, List.prefix_concat_iff] at hbelow
      rcases hbelow with heq | habove
      · rw [hgone]
        rw [← parts_indexFile] at heq
        cases hbefore : files.lookup config.indexFile with
        | none => rfl
        | some node =>
            have hdirectory := h.directory finding List.mem_cons_self node (heq ▸ hbefore)
            rw [EmptyFolderConfig.readIndex, hbefore, hdirectory] at hindex
            cases hindex
      · exact absurd (habove.trans hroot) hapart.1
  rw [readIndex_of_lookup hsame, hindex]

/-- Where a finding was, there is a directory or nothing. -/
theorem Quarantining.directory_of_frame
    (h : Quarantining config files sessionId (finding :: rest) copied index items)
    (hframe : MoveFrame finding.absolutePath.parts
      (config.quarantineDestination sessionId finding).parts files files')
    {other : EmptyDirectoryFinding} (hother : other ∈ finding :: rest) {node : FsNode FileData}
    (hnode : files'.lookup other.absolutePath.parts = some node) : node = .directory := by
  have hin := in_sessions_of_placed (h.placed finding List.mem_cons_self)
  have haway : ¬ (config.quarantineDestination sessionId finding).parts <+:
      other.absolutePath.parts := fun hbelow => h.outside other hother (hin.trans hbelow)
  rcases hframe _ haway with hsame | ⟨-, -, hmade⟩ | ⟨-, -, hgone⟩
  · exact h.directory other hother node (hsame ▸ hnode)
  · rw [hmade] at hnode
    exact (Option.some.inj hnode).symm
  · rw [hgone] at hnode
    cases hnode

/-- What is pending after the first finding. -/
theorem Quarantining.tail
    (h : Quarantining config files sessionId (finding :: rest) copied index items)
    (hframe : MoveFrame finding.absolutePath.parts
      (config.quarantineDestination sessionId finding).parts files files') :
    Quarantining config files' sessionId rest false index items := by
  obtain ⟨hfirst, hapart⟩ := List.pairwise_cons.mp h.apart
  have hrest : ∀ other ∈ rest, other ∈ finding :: rest := fun _ => List.mem_cons_of_mem finding
  refine
    { agreed := h.agreed.congr fun item hitem => h.lookup_item hframe hitem
      fresh := h.fresh
      outside := fun other hother => h.outside other (hrest other hother)
      directory := fun other hother _ => h.directory_of_frame hframe (hrest other hother)
      placed := fun other hother => h.placed other (hrest other hother)
      free := fun other hother => ?_
      apart := hapart
      items := fun other hother => h.items other (hrest other hother)
      copy := nofun }
  have hfree : files.vacant (config.quarantineDestination sessionId other).parts = true := by
    apply h.free
    split
    · exact hother
    · exact hrest other hother
  rw [FileSystem.vacant_iff] at hfree ⊢
  intro path hbelow
  have hdisjoint := hfirst other hother
  rcases hframe path (hdisjoint.symm.not_below hbelow) with hsame | ⟨hway, -⟩ | ⟨-, -, hgone⟩
  · exact hsame.trans (hfree path hbelow)
  · exact absurd (hbelow.trans hway) hdisjoint.2
  · exact hgone

/-- Nothing stands at the destination when the directories on the way are made. -/
theorem Quarantining.destination_free
    (h : Quarantining config files sessionId (finding :: rest) false index items)
    (made : Option Nat) :
    (makeDirectories files made
        (config.quarantineDestination sessionId finding).parts.dropLast).1.lookup
      (config.quarantineDestination sessionId finding).parts = none := by
  have hfree := h.free finding List.mem_cons_self
  have hlong := (h.placed finding List.mem_cons_self).length_le
  rw [lookup_makeDirectories, FileSystem.vacant_iff.mp hfree _ List.prefix_rfl]
  intro hbelow
  have hshort := hbelow.length_le
  rw [List.length_append, List.length_singleton] at hlong
  rw [List.length_dropLast] at hshort
  omega

/-- The first finding was moved: it becomes an item. -/
theorem Quarantining.moved
    (h : Quarantining config files sessionId (finding :: rest) copied index items)
    (hframe : MoveFrame finding.absolutePath.parts
      (config.quarantineDestination sessionId finding).parts files files')
    (hapart : Apart finding.absolutePath.parts
      (config.quarantineDestination sessionId finding).parts)
    (hdirectory : files'.isDirectory (config.quarantineDestination sessionId finding).parts = true)
    (mode : Option Nat) :
    Quarantining config files' sessionId rest false index
      (items ++ [config.quarantinedItem sessionId finding mode]) := by
  have hrest := h.tail hframe
  have hplaced := h.placed finding List.mem_cons_self
  have hin := in_sessions_of_placed hplaced
  have hfirst := (List.pairwise_cons.mp h.apart).1
  have hold : ∀ item ∈ index.rows ++ items,
      Apart (config.quarantineDestination sessionId finding).parts item.quarantinePath.parts := by
    intro item hitem
    rcases List.mem_append.mp hitem with hindex | hnew
    · exact apart_of_sessions (h.fresh item hindex).symm hplaced (h.agreed.placed item hitem)
    · exact h.items finding List.mem_cons_self item hnew
  have hnew : ∀ item ∈ index.rows ++ (items ++ [config.quarantinedItem sessionId finding mode]),
      item ∈ index.rows ++ items ∨ item = config.quarantinedItem sessionId finding mode := by
    intro item hitem
    rw [← List.append_assoc, List.mem_append, List.mem_singleton] at hitem
    exact hitem
  refine
    { hrest with
      agreed := ⟨fun item hitem => ?_, fun item hitem => ?_, fun item hitem => ?_,
        fun a ha b hb => ?_⟩
      items := fun other hother item hitem => ?_ }
  · rcases hnew item hitem with hbefore | rfl
    · exact hrest.agreed.agree item hbefore
    · exact iff_of_true rfl hdirectory
  · rcases hnew item hitem with hbefore | rfl
    · exact hrest.agreed.placed item hbefore
    · exact hplaced
  · rcases hnew item hitem with hbefore | rfl
    · exact hrest.agreed.original item hbefore
    · exact ⟨fun habove => hapart.1 (habove.trans hin), h.outside finding List.mem_cons_self⟩
  · rcases hnew a ha with hbefore | rfl
    · rcases hnew b hb with hbefore' | rfl
      · exact hrest.agreed.apart a hbefore b hbefore'
      · exact .inr (hold a hbefore).symm
    · rcases hnew b hb with hbefore' | rfl
      · exact .inr (hold b hbefore')
      · exact .inl rfl
  · rcases List.mem_append.mp hitem with hbefore | hadded
    · exact hrest.items other hother item hbefore
    · rw [List.mem_singleton.mp hadded]
      exact (hfirst other hother).symm

/-- The first finding was copied: its destination is taken. -/
theorem Quarantining.stays_copied
    (h : Quarantining config files sessionId (finding :: rest) copied index items)
    (hframe : MoveFrame finding.absolutePath.parts
      (config.quarantineDestination sessionId finding).parts files files')
    (hapart : Apart finding.absolutePath.parts
      (config.quarantineDestination sessionId finding).parts)
    (hdirectory : files'.isDirectory
      (config.quarantineDestination sessionId finding).parts = true) :
    Quarantining config files' sessionId (finding :: rest) true index items := by
  have hrest := h.tail hframe
  refine
    { hrest with
      outside := h.outside
      directory := fun other hother _ => h.directory_of_frame hframe hother
      placed := h.placed
      free := hrest.free
      apart := h.apart
      items := h.items
      copy := fun _ head hhead => ?_ }
  cases hhead
  exact ⟨hapart, hdirectory⟩

end Quarantining

/-! ## Restoring and deleting -/

/-- A restore or a deletion in its loop, with the index it is going to write. -/
structure Transitioning (config : EmptyFolderConfig) (files : Files)
    (pending : List EmptyDirQuarantineItem) (updated : EmptyDirIndex) : Prop where
  agreed : Agreed config files updated.rows
  active : ∀ item ∈ pending, item ∈ updated.rows ∧ item.state = .active
  distinct : pending.Pairwise fun a b => a.quarantineItemId ≠ b.quarantineItemId

section Transitioning

variable {config : EmptyFolderConfig} {files files' : Files} {item : EmptyDirQuarantineItem}
  {rest : List EmptyDirQuarantineItem} {updated : EmptyDirIndex}

/-- The first item stays as it is. -/
theorem Transitioning.skip (h : Transitioning config files (item :: rest) updated)
    (hsame : ∀ other ∈ updated.rows, files'.lookup other.quarantinePath.parts =
      files.lookup other.quarantinePath.parts) :
    Transitioning config files' rest updated :=
  ⟨h.agreed.congr hsame, fun other hother => h.active other (List.mem_cons_of_mem _ hother),
    (List.pairwise_cons.mp h.distinct).2⟩

/-- The first item is in quarantine no longer. -/
theorem Transitioning.ended (h : Transitioning config files (item :: rest) updated)
    {state : EmptyDirState} (hstate : state ≠ .active)
    (hsame : ∀ other ∈ updated.rows, other ≠ item →
      files'.lookup other.quarantinePath.parts = files.lookup other.quarantinePath.parts)
    (hgone : files'.lookup item.quarantinePath.parts = none) :
    Transitioning config files' rest (updated.put { item with state := state }) := by
  obtain ⟨hitem, -⟩ := h.active item List.mem_cons_self
  obtain ⟨hfirst, hdistinct⟩ := List.pairwise_cons.mp h.distinct
  have hrows : ∀ other ∈ (updated.put { item with state := state }).rows,
      other = { item with state := state } ∨ other ∈ updated.rows ∧ other ≠ item := by
    intro other hother
    rcases Table.mem_put.mp hother with rfl | ⟨hold, hid⟩
    · exact .inl rfl
    · exact .inr ⟨hold, fun heq => hid (heq ▸ rfl)⟩
  have hapart : ∀ other ∈ updated.rows, other ≠ item →
      Apart item.quarantinePath.parts other.quarantinePath.parts := fun other hother hne =>
    (h.agreed.apart item hitem other hother).resolve_left hne.symm
  refine ⟨⟨fun other hother => ?_, fun other hother => ?_, fun other hother => ?_,
    fun a ha b hb => ?_⟩, fun other hother => ?_, hdistinct⟩
  · rcases hrows other hother with rfl | ⟨hold, hne⟩
    · refine iff_of_false hstate ?_
      rw [Bool.not_eq_true]
      exact isDirectory_of_lookup_none hgone
    · rw [isDirectory_congr (hsame other hold hne)]
      exact h.agreed.agree other hold
  · rcases hrows other hother with rfl | ⟨hold, -⟩
    · exact h.agreed.placed item hitem
    · exact h.agreed.placed other hold
  · rcases hrows other hother with rfl | ⟨hold, -⟩
    · exact h.agreed.original item hitem
    · exact h.agreed.original other hold
  · rcases hrows a ha with rfl | ⟨holdA, hneA⟩
    · rcases hrows b hb with rfl | ⟨holdB, hneB⟩
      · exact .inl rfl
      · exact .inr (hapart b holdB hneB)
    · rcases hrows b hb with rfl | ⟨holdB, hneB⟩
      · exact .inr (hapart a holdA hneA).symm
      · exact h.agreed.apart a holdA b holdB
  · obtain ⟨hold, hactive⟩ := h.active other (List.mem_cons_of_mem _ hother)
    exact ⟨Table.mem_put.mpr (.inr ⟨hold, fun heq => hfirst other hother heq.symm⟩), hactive⟩

/-- The other items are neither at nor below the place of the first one. -/
theorem Transitioning.not_below (h : Transitioning config files (item :: rest) updated)
    {other : EmptyDirQuarantineItem} (hother : other ∈ updated.rows) (hne : other ≠ item) :
    ¬ item.quarantinePath.parts <+: other.quarantinePath.parts :=
  ((h.agreed.apart item (h.active item List.mem_cons_self).1 other hother).resolve_left
    hne.symm).1

/-- No item is at or below the original place of another one. -/
theorem Transitioning.not_original (h : Transitioning config files (item :: rest) updated)
    {path : FsPath} (hpath : config.sessionsRoot.parts <+: path) :
    ¬ item.originalPath.parts <+: path :=
  (h.agreed.original item (h.active item List.mem_cons_self).1).symm.not_below hpath

/-- The index file is not at or below the place of an item. -/
theorem Transitioning.not_indexFile (h : Transitioning config files (item :: rest) updated) :
    ¬ item.quarantinePath.parts <+: config.indexFile := fun hbelow =>
  sessionsRoot_away_indexFile
    ((h.agreed.in_sessions (h.active item List.mem_cons_self).1).trans hbelow)

/-- Nor is it at or below the original place, when there is a file and nothing is there. -/
theorem Transitioning.original_away (h : Transitioning config files (item :: rest) updated)
    {node : FsNode FileData} (hnode : files.lookup config.indexFile = some node)
    (hnone : files.lookup item.originalPath.parts = none) :
    ¬ item.originalPath.parts <+: config.indexFile := by
  intro hbelow
  rw [parts_indexFile, List.prefix_concat_iff, ← parts_indexFile] at hbelow
  rcases hbelow with heq | habove
  · rw [heq, hnode] at hnone
    cases hnone
  · refine h.not_original List.prefix_rfl (habove.trans ?_)
    rw [parts_sessionsRoot]
    exact List.prefix_append _ _

/-- The directory of the first item is removed. -/
theorem Transitioning.removed (h : Transitioning config files (item :: rest) updated)
    (kept : Option (List FsPath)) :
    (removeDirectory files kept item.quarantinePath.parts).1.lookup config.indexFile =
        files.lookup config.indexFile ∧
      ((removeDirectory files kept item.quarantinePath.parts).2 = false →
        Transitioning config (removeDirectory files kept item.quarantinePath.parts).1 rest
          updated) ∧
      ((removeDirectory files kept item.quarantinePath.parts).2 = true →
        ∀ state ≠ EmptyDirState.active,
          Transitioning config (removeDirectory files kept item.quarantinePath.parts).1 rest
            (updated.put { item with state := state })) := by
  have hitem := @lookup_removed files kept item.quarantinePath.parts
  refine ⟨lookup_removeDirectory kept h.not_indexFile, fun hfailed => ?_,
    fun hremoved state hstate => ?_⟩
  · refine h.skip fun other hother => ?_
    by_cases hsame : other = item
    · rw [hsame, hitem, hfailed]
      rfl
    · exact lookup_removeDirectory kept (h.not_below hother hsame)
  · refine h.ended hstate (fun other hother hne => ?_) ?_
    · exact lookup_removeDirectory kept (h.not_below hother hne)
    · rw [hitem, hremoved]
      rfl

end Transitioning

/-- The findings that a fresh session starts with. -/
theorem quarantining_of_fresh {config : EmptyFolderConfig} {files : Files} {index : EmptyDirIndex}
    {listed : List (PurePath × DirectoryView)} {views : List (PyStr × RootView)}
    {sessionId : PyStr} {selection : QuarantineSelection}
    (hindex : config.readIndex files = some index) (hagreed : Agreed config files index.rows)
    (hlisted : ∀ walked ∈ listed, files.isDirectory walked.1.parts = true)
    (hviews : viewsListed config listed views = true)
    (hfresh : freshSession config files sessionId = true)
    (houtside : ∀ finding ∈ selectFindings (scan config.roots (viewOf views)).findings selection,
      ¬ config.sessionsRoot.parts <+: finding.absolutePath.parts) :
    Quarantining config files sessionId
      (selectFindings (scan config.roots (viewOf views)).findings selection) false index [] := by
  simp only [freshSession, hindex, Option.all_some, Bool.and_eq_true, List.all_eq_true,
    decide_eq_true_eq] at hfresh
  obtain ⟨⟨hvalid, hvacant⟩, hrows⟩ := hfresh
  have hplaced : ∀ finding ∈ selectFindings (scan config.roots (viewOf views)).findings selection,
      config.sessionsRoot.parts ++ [sessionId] <+:
        (config.quarantineDestination sessionId finding).parts := by
    intro finding hfinding
    have hmem := (List.mem_filter.mp hfinding).1
    rw [(findings_scan _ _).1.mem_iff, List.mem_flatMap] at hmem
    obtain ⟨root, hroot, hfound⟩ := hmem
    obtain ⟨names, -, hplace⟩ := places_of_found hviews hvalid hroot hfound
    rw [hplace]
    exact ⟨root.1 :: names, List.append_assoc _ _ _⟩
  refine
    { agreed := hagreed.mono fun item hitem => List.append_nil index.rows ▸ hitem
      fresh := hrows
      outside := houtside
      directory := fun finding hfinding node hnode => ?_
      placed := hplaced
      free := fun finding hfinding => ?_
      apart := destinations_apart hviews hvalid selection
      items := fun _ _ => List.forall_mem_nil _
      copy := by simp }
  · obtain ⟨root, hroot, walked, hwalked, -, -, rfl⟩ :=
      mem_findings.mp (List.mem_filter.mp hfinding).1
    have hdirectory := hlisted walked ((listed_of_walkOf hviews hroot).1 walked hwalked)
    rw [FileSystem.isDirectory_iff] at hdirectory
    exact Option.some.inj (hnode.symm.trans hdirectory)
  · rw [FileSystem.vacant_iff] at hvacant ⊢
    exact fun path hbelow => hvacant path ((hplaced finding hfinding).trans hbelow)

/-- What a restore or a deletion starts with. -/
theorem transitioning_of_selected {config : EmptyFolderConfig} {files : Files}
    {index : EmptyDirIndex} {sessionId : PyStr} {paths : List PyStr} {selectAll : Bool}
    (h : Agreed config files index.rows) :
    Transitioning config files (selectQuarantineItems index sessionId paths selectAll) index := by
  refine ⟨h, fun item hitem => mem_of_selectQuarantineItems hitem, ?_⟩
  have hrows := List.pairwise_map.mp index.unique
  unfold selectQuarantineItems
  exact ((List.perm_insertionSort _ _).symm.pairwise (hrows.filter _) fun hne => hne.symm).filter _

/-! ## Steps -/

/-- The invariant of a run. -/
def PhaseKept (config : EmptyFolderConfig) (files : Files) (index : EmptyDirIndex) :
    EmptyFolderPhase → Prop
  | .idle => Agreed config files index.rows
  | .scanning _ _ listed => Agreed config files index.rows ∧
      ∀ walked ∈ listed, files.isDirectory walked.1.parts = true
  | .quarantining sessionId pending copied items =>
      Quarantining config files sessionId pending copied index items
  | .restoring pending stage updated => Transitioning config files pending updated ∧
      index.rows ≠ [] ∧
      (stage = .move → ∀ item ∈ pending.head?, files.lookup item.originalPath.parts = none)
  | .deleting pending updated => Transitioning config files pending updated

def IndexKept (config : EmptyFolderConfig) (s : EmptyFolderSystem) : Prop :=
  ∃ index, config.readIndex s.files = some index ∧ PhaseKept config s.files index s.phase

section Steps

variable {config : EmptyFolderConfig} {files : Files} {t : EmptyFolderSystem}
  {event : EmptyFolderEvent}

theorem quarantineStep_kept {sessionId : PyStr} {finding : EmptyDirectoryFinding}
    {rest : List EmptyDirectoryFinding} {copied : Bool} {items : List EmptyDirQuarantineItem}
    (h : IndexKept config ⟨files, .quarantining sessionId (finding :: rest) copied items⟩)
    (hstep : quarantineStep config files sessionId finding rest copied items event = some t) :
    IndexKept config t := by
  obtain ⟨index, hindex, hkept⟩ := h
  change config.readIndex files = some index at hindex
  change Quarantining config files sessionId (finding :: rest) copied index items at hkept
  cases event with
  | moveFinding made how mode =>
      simp only [quarantineStep] at hstep
      split at hstep
      · cases hstep
      · next hcopied =>
          rw [Bool.not_eq_true] at hcopied
          subst hcopied
          have hprepared := @moveFrame_makeDirectories files finding.absolutePath.parts
            (config.quarantineDestination sessionId finding).parts made
          split at hstep
          · cases hstep
            exact ⟨index, hkept.readIndex_congr hindex hprepared, hkept.tail hprepared⟩
          · have hnone := hkept.destination_free made
            have hmoved := hprepared.trans (moveFrame_beginMove how hnone)
            have hdirectory : (beginMove (makeDirectories files made
                  (config.quarantineDestination sessionId finding).parts.dropLast).1 how
                  finding.absolutePath.parts
                  (config.quarantineDestination sessionId finding).parts).2 ≠ .failed →
                Apart finding.absolutePath.parts
                    (config.quarantineDestination sessionId finding).parts ∧
                  (beginMove (makeDirectories files made
                    (config.quarantineDestination sessionId finding).parts.dropLast).1 how
                    finding.absolutePath.parts
                    (config.quarantineDestination sessionId finding).parts).1.isDirectory
                    (config.quarantineDestination sessionId finding).parts = true := by
              intro hresult
              obtain ⟨hsome, hapart, hlookup, -⟩ :=
                @lookup_destination _ how finding.absolutePath.parts _ hnone hresult
              obtain ⟨node, hnode⟩ := Option.isSome_iff_exists.mp hsome
              refine ⟨hapart, ?_⟩
              rw [FileSystem.isDirectory_iff, hlookup, hnode,
                hkept.directory_of_frame hprepared List.mem_cons_self hnode]
            split at hstep
            · cases hstep
              exact ⟨index, hkept.readIndex_congr hindex hmoved, hkept.tail hmoved⟩
            · next hresult =>
                obtain ⟨hapart, hthere⟩ := hdirectory (by rw [hresult]; simp)
                cases hstep
                exact ⟨index, hkept.readIndex_congr hindex hmoved,
                  hkept.stays_copied hmoved hapart hthere⟩
            · next hresult =>
                obtain ⟨hapart, hthere⟩ := hdirectory (by rw [hresult]; simp)
                cases hstep
                exact ⟨index, hkept.readIndex_congr hindex hmoved,
                  hkept.moved hmoved hapart hthere mode⟩
  | removeSource kept mode =>
      simp only [quarantineStep] at hstep
      split at hstep
      · cases hstep
      · next hcopied =>
          rw [Bool.not_eq_true', Bool.not_eq_false] at hcopied
          obtain ⟨hapart, hdirectory⟩ := hkept.copy hcopied finding rfl
          have hframe := @moveFrame_removeDirectory files _ _ kept hapart
          have hstill : (removeDirectory files kept finding.absolutePath.parts).1.isDirectory
              (config.quarantineDestination sessionId finding).parts = true := by
            rw [isDirectory_congr (lookup_removeDirectory kept hapart.1)]
            exact hdirectory
          cases hstep
          refine ⟨index, hkept.readIndex_congr hindex hframe, ?_⟩
          cases (removeDirectory files kept finding.absolutePath.parts).2 with
          | true => exact hkept.moved hframe hapart hstill mode
          | false => exact hkept.tail hframe
  | _ => cases hstep

theorem scanStep_kept {selection : QuarantineSelection} {dryRun : Bool}
    {listed : List (PurePath × DirectoryView)}
    (h : IndexKept config ⟨files, .scanning selection dryRun listed⟩)
    (hok : KeepsIndex config ⟨files, .scanning selection dryRun listed⟩ event)
    (hstep : scanStep config files selection dryRun listed event = some t) :
    IndexKept config t := by
  obtain ⟨index, hindex, hagreed, hlisted⟩ := h
  cases event with
  | list path view =>
      simp only [scanStep] at hstep
      split at hstep
      · next hshows =>
          cases hstep
          refine ⟨index, hindex, hagreed, fun walked hwalked => ?_⟩
          rcases List.mem_append.mp hwalked with hold | hnew
          · exact hlisted walked hold
          · rw [List.mem_singleton.mp hnew]
            rw [DirectoryView.shows, Bool.and_eq_true, Bool.and_eq_true] at hshows
            exact hshows.1.1
      · cases hstep
  | abortScan =>
      cases hstep
      exact ⟨index, hindex, hagreed⟩
  | select views sessionId =>
      simp only [scanStep] at hstep
      split at hstep
      · next hviews =>
          split at hstep
          · cases hstep
            exact ⟨index, hindex, hagreed⟩
          · split at hstep
            · next hfresh =>
                cases hstep
                exact ⟨index, hindex, quarantining_of_fresh hindex hagreed hlisted hviews hfresh
                  (hok selection dryRun listed rfl)⟩
            · cases hstep
      · cases hstep
  | _ => cases hstep

theorem startStep_kept (h : IndexKept config ⟨files, .idle⟩)
    (hstep : startStep config files event = some t) : IndexKept config t := by
  obtain ⟨index, hindex, hagreed⟩ := h
  change config.readIndex files = some index at hindex
  cases event with
  | scan =>
      cases hstep
      exact ⟨index, hindex, hagreed⟩
  | quarantine selection dryRun =>
      cases hstep
      exact ⟨index, hindex, hagreed, List.forall_mem_nil _⟩
  | restore sessionId paths restoreAll =>
      simp only [startStep, hindex] at hstep
      split at hstep
      · cases hstep
        exact ⟨index, hindex, hagreed⟩
      · next hselected =>
          cases hstep
          have hchosen := @transitioning_of_selected _ _ _ sessionId paths restoreAll hagreed
          refine ⟨index, hindex, hchosen, fun hnil => ?_, by simp⟩
          obtain ⟨item, rest, heq⟩ := List.exists_cons_of_ne_nil hselected
          rw [heq] at hchosen
          have hmem := (hchosen.active item List.mem_cons_self).1
          rw [hnil] at hmem
          cases hmem
  | delete sessionId paths deleteAll =>
      simp only [startStep, hindex] at hstep
      split at hstep
      · cases hstep
        exact ⟨index, hindex, hagreed⟩
      · cases hstep
        exact ⟨index, hindex, transitioning_of_selected hagreed⟩
  | _ => cases hstep

theorem restoreStep_kept {item : EmptyDirQuarantineItem} {rest : List EmptyDirQuarantineItem}
    {stage : RestoreStage} {updated : EmptyDirIndex}
    (h : IndexKept config ⟨files, .restoring (item :: rest) stage updated⟩)
    (hok : KeepsIndex config ⟨files, .restoring (item :: rest) stage updated⟩ event)
    (hstep : restoreStep files item rest stage updated event = some t) :
    IndexKept config t := by
  obtain ⟨index, hindex, hkept, hrows, hfree⟩ := h
  change config.readIndex files = some index at hindex
  cases event with
  | checkPaths raises =>
      simp only [restoreStep] at hstep
      split at hstep
      · cases hstep
      · split at hstep
        · next hraises =>
            -- the restore ends here, and the index is not written
            cases hstep
            have hsame : some updated = config.readIndex files := hok hraises
            rw [hindex, Option.some.injEq] at hsame
            exact ⟨index, hindex, hsame ▸ hkept.agreed⟩
        · split at hstep
          · cases hstep
            exact ⟨index, hindex, hkept.skip fun _ _ => rfl, hrows, by simp⟩
          · next hclear =>
              cases hstep
              refine ⟨index, hindex, hkept, hrows, fun _ head hhead => ?_⟩
              rw [List.head?_cons, Option.mem_some_iff] at hhead
              rw [Bool.or_eq_true, not_or, Option.not_isSome_iff_eq_none] at hclear
              exact hhead ▸ hclear.2
  | moveBack how metadataRaises =>
      simp only [restoreStep] at hstep
      split at hstep
      · cases hstep
      · next hstage =>
          have hmetadata : metadataRaises = false := hok
          have hnone := hfree (not_not.mp hstage) item rfl
          obtain ⟨node, hnode⟩ := exists_indexFile hindex hrows
          have hindex' : config.readIndex (beginMove files how item.quarantinePath.parts
              item.originalPath.parts).1 = some index := by
            rw [← hindex]
            apply readIndex_of_lookup
            refine (lookup_beginMove how hnone (hkept.original_away hnode hnone)).resolve_right ?_
            exact fun hgone => hkept.not_indexFile hgone.1
          have haway : ∀ other ∈ updated.rows,
              ¬ item.originalPath.parts <+: other.quarantinePath.parts := fun other hother =>
            hkept.not_original (hkept.agreed.in_sessions hother)
          have hstays : (beginMove files how item.quarantinePath.parts
                item.originalPath.parts).2 ≠ .moved → ∀ other ∈ updated.rows,
              (beginMove files how item.quarantinePath.parts
                item.originalPath.parts).1.lookup other.quarantinePath.parts =
              files.lookup other.quarantinePath.parts := fun hresult other hother =>
            lookup_beginMove_kept how hnone (haway other hother) hresult
          split at hstep
          · next hresult =>
              cases hstep
              exact ⟨index, hindex', hkept.skip (hstays (by rw [hresult]; simp)), hrows,
                by simp⟩
          · next hresult =>
              cases hstep
              exact ⟨index, hindex', ⟨hkept.agreed.congr (hstays (by rw [hresult]; simp)),
                hkept.active, hkept.distinct⟩, hrows, by simp⟩
          · next hresult =>
              obtain ⟨updated', hupdated, hstep⟩ := Option.bind_eq_some_iff.mp hstep
              rw [hmetadata] at hupdated
              cases hupdated
              cases hstep
              refine ⟨index, hindex', hkept.ended (by simp) (fun other hother hne => ?_) ?_, hrows,
                by simp⟩
              · refine (lookup_beginMove how hnone (haway other hother)).resolve_right ?_
                exact fun hgone => hkept.not_below hother hne hgone.1
              · have hmoved := @lookup_destination _ how item.quarantinePath.parts _ hnone
                  (by rw [hresult]; simp)
                exact hmoved.2.2.2 hresult
  | removeQuarantined kept metadataRaises =>
      simp only [restoreStep] at hstep
      split at hstep
      · cases hstep
      · have hmetadata : metadataRaises = false := hok
        obtain ⟨hfile, hfailed, hremoved⟩ := hkept.removed kept
        have hindex' := (readIndex_of_lookup hfile).trans hindex
        split at hstep
        · next hresult =>
            rw [Bool.not_eq_true'] at hresult
            cases hstep
            exact ⟨index, hindex', hfailed hresult, hrows, by simp⟩
        · next hresult =>
            rw [Bool.not_eq_true', Bool.not_eq_false] at hresult
            obtain ⟨updated', hupdated, hstep⟩ := Option.bind_eq_some_iff.mp hstep
            rw [hmetadata] at hupdated
            cases hupdated
            cases hstep
            exact ⟨index, hindex', hremoved hresult .restored (by simp), hrows, by simp⟩
  | _ => cases hstep

theorem deleteStep_kept {item : EmptyDirQuarantineItem} {rest : List EmptyDirQuarantineItem}
    {updated : EmptyDirIndex}
    (h : IndexKept config ⟨files, .deleting (item :: rest) updated⟩)
    (hstep : deleteStep files item rest updated event = some t) : IndexKept config t := by
  obtain ⟨index, hindex, hkept⟩ := h
  change config.readIndex files = some index at hindex
  change Transitioning config files (item :: rest) updated at hkept
  cases event with
  | removeItem kept =>
      simp only [deleteStep] at hstep
      split at hstep
      · obtain ⟨hfile, hfailed, hremoved⟩ := hkept.removed kept
        cases hstep
        refine ⟨index, (readIndex_of_lookup hfile).trans hindex, ?_⟩
        cases hresult : (removeDirectory files kept item.quarantinePath.parts).2 with
        | true => exact hremoved hresult .deleted (by simp)
        | false => exact hfailed hresult
      · cases hstep
        exact ⟨index, hindex, hkept.skip fun _ _ => rfl⟩
  | _ => cases hstep

theorem recordStep_kept {sessionId : PyStr} {copied : Bool} {items : List EmptyDirQuarantineItem}
    (h : IndexKept config ⟨files, .quarantining sessionId [] copied items⟩)
    (hok : KeepsIndex config ⟨files, .quarantining sessionId [] copied items⟩ event)
    (hstep : recordStep config files sessionId items event = some t) : IndexKept config t := by
  obtain ⟨index, hindex, hkept⟩ := h
  change config.readIndex files = some index at hindex
  change Quarantining config files sessionId [] copied index items at hkept
  cases event with
  | recordSession steps fault sessionFileId indexFileId =>
      have hfault : fault ≠ some .cutOff := hok
      obtain ⟨written, hsession, hstep⟩ := Option.bind_eq_some_iff.mp hstep
      have hread : config.readIndex written = some index := by
        rw [← hindex]
        exact readIndex_of_lookup
          (lookup_writeSession hsession (indexFile_away_sessionFile sessionId))
      have hagreed : Agreed config written (index.rows ++ items) :=
        hkept.agreed.congr fun item hitem => lookup_writeSession hsession fun hbelow =>
          sessionsRoot_away_sessionFile sessionId ((hkept.agreed.in_sessions hitem).trans hbelow)
      have hold : Agreed config written index.rows :=
        hagreed.mono fun item hitem => List.mem_append_left _ hitem
      split at hstep
      · cases hstep
        exact ⟨index, hread, hold⟩
      · simp only [hread] at hstep
        obtain ⟨final, hfinal, hstep⟩ := Option.bind_eq_some_iff.mp hstep
        cases hstep
        rcases readIndex_writeIndex hfinal hfault with ⟨-, hfinalIndex⟩ | ⟨-, rfl⟩
        · have hnew : Agreed config written
              (items.foldl (fun existing item => existing.put item) index).rows :=
            hagreed.mono fun item hitem =>
              List.mem_append.mpr (mem_foldl_put hitem).symm
          refine ⟨_, hfinalIndex, hnew.congr fun item hitem => ?_⟩
          exact lookup_writeIndex hfinal fun hbelow =>
            sessionsRoot_away_indexFile ((hnew.in_sessions hitem).trans hbelow)
        · exact ⟨index, hread, hold⟩
  | _ => cases hstep

theorem finishStep_kept {phase : EmptyFolderPhase} {updated index : EmptyDirIndex}
    (hindex : config.readIndex files = some index) (hagreed : Agreed config files updated.rows)
    (hphase : phase.updated = some updated) (hok : KeepsIndex config ⟨files, phase⟩ event)
    (hstep : finishStep config files updated event = some t) : IndexKept config t := by
  cases event with
  | writeIndex fault fileId =>
      obtain ⟨hfault, hunwritten⟩ := hok
      obtain ⟨written, hwritten, hstep⟩ := Option.bind_eq_some_iff.mp hstep
      cases hstep
      rcases readIndex_writeIndex hwritten hfault with ⟨-, hread⟩ | ⟨hnot, rfl⟩
      · refine ⟨updated, hread, hagreed.congr fun item hitem => ?_⟩
        exact lookup_writeIndex hwritten fun hbelow =>
          sessionsRoot_away_indexFile ((hagreed.in_sessions hitem).trans hbelow)
      · have hsame : phase.updated = config.readIndex written := hunwritten hnot
        rw [hphase, hindex, Option.some.injEq] at hsame
        exact ⟨index, hindex, hsame ▸ hagreed⟩
  | _ => cases hstep

/-! ## Runs -/

theorem IndexKept.phaseStep {s : EmptyFolderSystem} (h : IndexKept config s)
    (hok : KeepsIndex config s event) (hstep : s.phase.step config s.files event = some t) :
    IndexKept config t := by
  obtain ⟨files, phase⟩ := s
  cases phase with
  | idle => exact startStep_kept h hstep
  | scanning selection dryRun listed => exact scanStep_kept h hok hstep
  | quarantining sessionId pending copied items =>
      cases pending with
      | nil => exact recordStep_kept h hok hstep
      | cons finding rest => exact quarantineStep_kept h hstep
  | restoring pending stage updated =>
      cases pending with
      | nil =>
          obtain ⟨index, hindex, hkept, -⟩ := h
          exact finishStep_kept hindex hkept.agreed rfl hok hstep
      | cons item rest => exact restoreStep_kept h hok hstep
  | deleting pending updated =>
      cases pending with
      | nil =>
          obtain ⟨index, hindex, hkept⟩ := h
          exact finishStep_kept hindex hkept.agreed rfl hok hstep
      | cons item rest => exact deleteStep_kept h hstep

theorem IndexKept.step {s : EmptyFolderSystem} (h : IndexKept config s)
    (hok : KeepsIndex config s event) (hstep : s.step config event = some t) :
    IndexKept config t := by
  cases event with
  | createFile path fileId => exact hok.elim
  | createDirectory path => exact hok.elim
  | _ => exact h.phaseStep hok hstep

/-- Before the first request there is no item. -/
theorem indexKept_start {s : EmptyFolderSystem} (hidle : s.phase = .idle)
    (hindex : s.files.lookup config.indexFile = none) : IndexKept config s := by
  refine ⟨.empty, ?_, ?_⟩
  · rw [EmptyFolderConfig.readIndex, hindex]
  · rw [hidle]
    exact ⟨List.forall_mem_nil _, List.forall_mem_nil _, List.forall_mem_nil _,
      List.forall_mem_nil _⟩

/-- After any sequence of requests that nothing keeps from writing what they have done, the
active items are those with a directory in quarantine. -/
theorem index_agrees (config : EmptyFolderConfig) {start t : EmptyFolderSystem}
    {events : List EmptyFolderEvent} (hidle : start.phase = .idle)
    (hindex : start.files.lookup config.indexFile = none)
    (hrun : Steps (EmptyFolderSystem.step config) (KeepsIndex config) start events t)
    (hend : t.phase = .idle) : IndexAgrees config t.files := by
  obtain ⟨index, hread, hkept⟩ : IndexKept config t :=
    hrun.invariant (fun _ _ _ hok hstep hkept => hkept.step hok hstep)
      (indexKept_start hidle hindex)
  rw [hend] at hkept
  exact ⟨index, hread, hkept.agree⟩

end Steps

/-! ## A restore whose metadata cannot be set -/

/-- What is in quarantine goes back. -/
def restoreFolder (metadataRaises : Bool) : List EmptyFolderEvent :=
  [.restore (py "s") [] true, .checkPaths false, .moveBack .renamed metadataRaises,
    .writeIndex none 3]

/-- The empty folder is quarantined with its mode. -/
def quarantineFolderMode : List EmptyFolderEvent :=
  [.quarantine ⟨[], [], true⟩ false, .list (.parse (py "/up/a")) emptyView,
    .list (.parse (py "/up")) uploadsView, .select [(py "uploads", .inr uploadsView)] (py "s"),
    .moveFinding none .renamed (some 448), .recordSession 3 none 1 2]

def keepsIndex (config : EmptyFolderConfig) (s : EmptyFolderSystem) : EmptyFolderEvent → Bool
  | .createFile _ _ | .createDirectory _ => false
  | .select views _ =>
      match s.phase with
      | .scanning selection _ _ =>
          (selectFindings (scan config.roots (viewOf views)).findings selection).all
            fun finding => !decide (config.sessionsRoot.parts <+: finding.absolutePath.parts)
      | _ => true
  | .moveBack _ raises | .removeQuarantined _ raises | .checkPaths raises => !raises
  | .recordSession _ fault _ _ | .writeIndex fault _ => fault.isNone
  | _ => true

theorem keepsIndex_of_check {config : EmptyFolderConfig} (s : EmptyFolderSystem)
    (event : EmptyFolderEvent) (h : keepsIndex config s event = true) :
    KeepsIndex config s event := by
  cases event with
  | createFile path fileId => cases h
  | createDirectory path => cases h
  | select views sessionId =>
      intro selection dryRun listed hphase finding hfinding
      simp only [keepsIndex, hphase, List.all_eq_true] at h
      simpa using h finding hfinding
  | checkPaths raises =>
      rintro rfl
      cases h
  | moveBack how raises => simpa [KeepsIndex, keepsIndex] using h
  | removeQuarantined kept raises => simpa [KeepsIndex, keepsIndex] using h
  | recordSession steps fault sessionFileId indexFileId =>
      rw [KeepsIndex, Option.isNone_iff_eq_none.mp h]
      exact nofun
  | writeIndex fault fileId =>
      rw [KeepsIndex, Option.isNone_iff_eq_none.mp h]
      exact ⟨nofun, nofun⟩
  | _ => exact trivial

def indexAgrees (config : EmptyFolderConfig) (files : Files) : Bool :=
  (config.readIndex files).any fun index => index.rows.all fun item =>
    decide (item.state = .active) == files.isDirectory item.quarantinePath.parts

theorem indexAgrees_iff {config : EmptyFolderConfig} {files : Files} :
    indexAgrees config files = true ↔ IndexAgrees config files := by
  unfold indexAgrees IndexAgrees
  simp only [Option.any_eq_true, List.all_eq_true, beq_iff_eq]
  refine exists_congr fun index => and_congr_right fun _ => forall₂_congr fun item _ => ?_
  rw [Bool.eq_iff_iff, decide_eq_true_eq]

def EmptyFolderPhase.isIdle : EmptyFolderPhase → Bool
  | .idle => true
  | _ => false

theorem EmptyFolderPhase.isIdle_iff {phase : EmptyFolderPhase} :
    phase.isIdle = true ↔ phase = .idle := by
  cases phase <;> simp [isIdle]

/-- The folder is quarantined and restored. -/
theorem index_agrees_restored :
    IndexAgrees uploadsConfig (Steps.last (checkedStep (EmptyFolderSystem.step uploadsConfig)
      (keepsIndex uploadsConfig)) emptyUploadFolder
      (quarantineFolderMode ++ restoreFolder false)).files :=
  index_agrees uploadsConfig rfl rfl
    (Steps.of_checked keepsIndex_of_check (Steps.exec_eq_last (by decide +kernel)))
    (EmptyFolderPhase.isIdle_iff.mp (by decide +kernel))

/-- The folder is back in its place, its mode cannot be set, and its item stays active. -/
theorem restored_item_stays_active :
    ∃ t, Steps (EmptyFolderSystem.step uploadsConfig) (fun _ _ => True) emptyUploadFolder
        (quarantineFolderMode ++ restoreFolder true) t ∧
      t.phase = .idle ∧ ¬ IndexAgrees uploadsConfig t.files := by
  refine ⟨_, Steps.of_exec (fun _ _ _ => trivial) (Steps.exec_eq_last (by decide +kernel)), ?_, ?_⟩
  · exact EmptyFolderPhase.isIdle_iff.mp (by decide +kernel)
  · rw [← indexAgrees_iff]
    decide +kernel

end ImmichDoctor.Storage
