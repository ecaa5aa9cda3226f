import ImmichDoctor.Catalog.QuarantineRuns
/-!
# The custody of quarantined files

In a run whose steps are clear every active item has its own path in the quarantine, where the
content of its source stands, and no step loses a file but the one of an item it deletes. A
second finding of the same name is moved over the first.
-/

namespace ImmichDoctor.Catalog

open ImmichDoctor.Library

/-! ## The index -/

section Index

variable {s : QuarantineState} {lines : List IndexLine} {item other : QuarantineItem}

theorem loadQuarantineIndex_item : loadQuarantineIndex (lines ++ [.item item]) =
    (loadQuarantineIndex lines).map (·.put item) := by
  unfold loadQuarantineIndex
  rw [List.foldlM_append, Option.map_eq_bind]
  rfl

theorem loadQuarantineIndex_torn : loadQuarantineIndex (lines ++ [.torn]) = none := by
  unfold loadQuarantineIndex
  rw [List.foldlM_append]
  exact Option.bind_eq_none_iff.mpr fun _ _ => rfl

theorem activeItems_torn : activeItems ⟨s.files, s.index ++ [.torn]⟩ = [] := by
  unfold activeItems
  rw [loadQuarantineIndex_torn]

/-- After a line for an item the others are active as they were. -/
theorem mem_activeItems_item {files : FileSystem PyStr Nat} :
    other ∈ activeItems ⟨files, lines ++ [.item item]⟩ ↔
      (loadQuarantineIndex lines).isSome = true ∧ other = item ∧ item.state = .active ∨
        other ∈ activeItems ⟨files, lines⟩ ∧ other.quarantineItemId ≠ item.quarantineItemId := by
  unfold activeItems
  rw [loadQuarantineIndex_item]
  cases loadQuarantineIndex lines with
  | none => simp
  | some latest =>
      simp only [Option.map_some, List.mem_filter, Table.mem_put, decide_eq_true_eq,
        Option.isSome_some, true_and]
      constructor
      · rintro ⟨rfl | ⟨hmem, hne⟩, hactive⟩
        · exact .inl ⟨rfl, hactive⟩
        · exact .inr ⟨⟨hmem, hactive⟩, hne⟩
      · rintro (⟨rfl, hactive⟩ | ⟨⟨hmem, hactive⟩, hne⟩)
        · exact ⟨.inl rfl, hactive⟩
        · exact ⟨.inr ⟨hmem, hne⟩, hactive⟩

/-- An item of the index has a line. -/
theorem mem_index_of_load {latest : Table QuarantineItem QuarantineItem.quarantineItemId}
    (h : loadQuarantineIndex lines = some latest) (hitem : item ∈ latest.rows) :
    .item item ∈ lines := by
  induction lines using List.reverseRecOn generalizing latest with
  | nil =>
      cases h
      cases hitem
  | append_singleton lines line ih =>
      cases line with
      | torn =>
          rw [loadQuarantineIndex_torn] at h
          cases h
      | item last =>
          rw [loadQuarantineIndex_item] at h
          obtain ⟨before, hbefore, rfl⟩ := Option.map_eq_some_iff.mp h
          rcases Table.mem_put.mp hitem with rfl | ⟨hmem, -⟩
          · exact List.mem_append_right _ (List.mem_singleton.mpr rfl)
          · exact List.mem_append_left _ (ih hbefore hmem)

theorem mem_index_of_active (h : item ∈ activeItems s) : .item item ∈ s.index := by
  unfold activeItems at h
  cases hload : loadQuarantineIndex s.index with
  | none =>
      rw [hload] at h
      cases h
  | some latest =>
      rw [hload] at h
      exact mem_index_of_load hload (List.mem_filter.mp h).1

end Index

/-! ## What a step does -/

section Effects

variable {settings : QuarantineSettings} {s : QuarantineState}

/-- The index has got a line that is cut off, or the line of an item. -/
def LineAdded (item : QuarantineItem) (before after : List IndexLine) : Prop :=
  after = before ++ [IndexLine.torn] ∨ after = before ++ [IndexLine.item item]

theorem append_cases (faults : ItemFaults) (item : QuarantineItem) (s : QuarantineState) :
    (appendQuarantineItem faults item s).1.index = s.index ∧ faults.recordRaises = true ∧
        faults.writesIndex = false ∨
      LineAdded item s.index (appendQuarantineItem faults item s).1.index := by
  unfold appendQuarantineItem ItemFaults.recordRaises ItemFaults.writesIndex
  cases hrun : faults.runItems with
  | true => exact .inl ⟨rfl, rfl, rfl⟩
  | false =>
      cases hindex : faults.index with
      | none => exact .inr (.inr rfl)
      | some fault =>
          cases fault with
          | unwritten => exact .inl ⟨rfl, rfl, rfl⟩
          | torn => exact .inr (.inl rfl)
          | written => exact .inr (.inr rfl)

theorem quarantinedItem_fields {payload : FindingPayload} {itemId : PyStr}
    {source destination : FsPath} {item : QuarantineItem}
    (h : quarantinedItem payload itemId source destination = some item) :
    item.quarantineItemId = itemId ∧ item.quarantinePath = destination ∧ item.state = .active := by
  unfold quarantinedItem at h
  split at h
  · cases h
    exact ⟨rfl, rfl, rfl⟩
  · cases h
  · cases h
    exact ⟨rfl, rfl, rfl⟩

theorem moveFinding_cases (payload : FindingPayload) (itemId : PyStr) (faults : ItemFaults)
    (source destination : FsPath) :
    (moveFinding payload itemId faults source destination s).1.files =
        (moveFile s.files faults.move source destination).1 ∧
      ((moveFinding payload itemId faults source destination s).1.index = s.index ∨
        (moveFile s.files faults.move source destination).2 = true ∧
          ∃ item, quarantinedItem payload itemId source destination = some item ∧
            LineAdded item s.index
              (moveFinding payload itemId faults source destination s).1.index) := by
  unfold moveFinding
  cases hmoved : (moveFile s.files faults.move source destination).2 with
  | false => simp [hmoved]
  | true =>
      simp only [hmoved, Bool.not_true, Bool.false_eq_true, if_false]
      cases hitem : quarantinedItem payload itemId source destination with
      | none => exact ⟨rfl, .inl rfl⟩
      | some item =>
          refine ⟨append_files _ _ _, ?_⟩
          rcases append_cases faults item
            { s with files := (moveFile s.files faults.move source destination).1 } with
            ⟨hsame, -, -⟩ | hadded
          · exact .inl hsame
          · exact .inr ⟨trivial, item, rfl, hadded⟩

/-- A clear restore that gets to its move either leaves the item as it was or records it. -/
theorem restoreItem_cases (item : QuarantineItem) (faults : ItemFaults)
    (hclear : (ItemRequest.restore item faults).Clear settings s) :
    (restoreItem item faults s).1 = s ∨
      (s.files.lookup item.quarantinePath).isSome = true ∧
        s.files.lookup item.sourcePath = none ∧
        (restoreItem item faults s).1.files =
          (moveFile s.files faults.move item.quarantinePath item.sourcePath).1 ∧
        ((restoreItem item faults s).1.index = s.index ∧
            (moveFile s.files faults.move item.quarantinePath item.sourcePath).2 = false ∨
          LineAdded { item with state := .restored } s.index
            (restoreItem item faults s).1.index) := by
  simp only [ItemRequest.Clear, ItemRequest.raisesLate] at hclear
  unfold restoreItem
  by_cases hstops : (faults.pathExists || (s.files.lookup item.quarantinePath).isNone ||
      (s.files.lookup item.sourcePath).isSome) = true
  · rw [if_pos hstops]
    exact .inl rfl
  · rw [if_neg hstops]
    simp only [Bool.or_eq_true, not_or, Bool.not_eq_true] at hstops
    obtain ⟨⟨hexists, hfound⟩, hfree⟩ := hstops
    have hsource : (s.files.lookup item.quarantinePath).isSome = true := by simpa using hfound
    have hnone : s.files.lookup item.sourcePath = none := by simpa using hfree
    right
    cases hmoved : (moveFile s.files faults.move item.quarantinePath item.sourcePath).2 with
    | false => simp [hmoved, hsource, hnone]
    | true =>
        simp only [hmoved, Bool.not_true, Bool.false_eq_true, if_false]
        refine ⟨hsource, hnone, append_files _ _ _, .inr ?_⟩
        rcases append_cases faults { item with state := .restored }
          { s with files := (moveFile s.files faults.move item.quarantinePath item.sourcePath).1 }
          with ⟨-, hraises, hunwritten⟩ | hadded
        · simp [hexists, hsource, hnone, hmoved, hraises, hunwritten] at hclear
        · exact hadded

/-- A clear deletion either leaves the item as it was or records it. -/
theorem deleteItem_cases (item : QuarantineItem) (faults : ItemFaults)
    (hclear : (ItemRequest.delete item faults).Clear settings s) :
    ((deleteItem item faults s).1.files = s.files ∨
        (deleteItem item faults s).1.files =
          (deleteFile s.files faults.delete item.quarantinePath).1) ∧
      ((deleteItem item faults s).1.index = s.index ∧
          (deleteItem item faults s).1.files.lookup item.quarantinePath =
            s.files.lookup item.quarantinePath ∨
        LineAdded { item with state := .deleted, restorable := false } s.index
          (deleteItem item faults s).1.index) := by
  simp only [ItemRequest.Clear, ItemRequest.raisesLate] at hclear
  unfold deleteItem
  cases hexists : faults.pathExists with
  | true => exact ⟨.inl rfl, .inl ⟨rfl, rfl⟩⟩
  | false =>
      simp only [Bool.false_eq_true, if_false]
      by_cases hfound : (s.files.lookup item.quarantinePath).isSome = true
      · simp only [if_pos hfound]
        cases hdone : (deleteFile s.files faults.delete item.quarantinePath).2 with
        | false => simp [(lookup_deleteFile hfound).mpr hdone]
        | true =>
            simp only [Bool.not_true, Bool.false_eq_true, if_false]
            refine ⟨.inr (append_files _ _ _), .inr ?_⟩
            rcases append_cases faults { item with state := .deleted, restorable := false }
              { s with files := (deleteFile s.files faults.delete item.quarantinePath).1 }
              with ⟨-, hraises, hunwritten⟩ | hadded
            · simp [hexists, hfound, hdone, hraises, hunwritten] at hclear
            · exact hadded
      · simp only [if_neg hfound, Bool.not_true, Bool.false_eq_true, if_false]
        refine ⟨.inl (append_files _ _ _), ?_⟩
        rcases append_cases faults { item with state := .deleted, restorable := false } s
          with ⟨hsame, -, -⟩ | hadded
        · exact .inl ⟨hsame, by rw [append_files]⟩
        · exact .inr hadded

end Effects

/-! ## One item -/

section Items

variable {settings : QuarantineSettings} {s s' : QuarantineState} {c c' : CustodyState}
  {item other : QuarantineItem}

structure Custody (settings : QuarantineSettings) (c : CustodyState) : Prop where
  grounded : c.state.files.Grounded
  kept : c.InCustody settings

theorem activeItems_congr (h : s'.index = s.index) : activeItems s' = activeItems s := by
  unfold activeItems
  rw [h]

/-- After an item is recorded the others that are active were active. -/
theorem mem_activeItems_added (h : LineAdded item s.index s'.index)
    (hother : other ∈ activeItems s') :
    other ∈ activeItems s ∧ other.quarantineItemId ≠ item.quarantineItemId ∨
      other = item ∧ item.state = .active := by
  obtain ⟨files, index⟩ := s
  obtain ⟨files', index'⟩ := s'
  rcases h with rfl | rfl
  · rw [activeItems_torn (s := ⟨files', index⟩)] at hother
    cases hother
  · rcases mem_activeItems_item.mp hother with ⟨-, heq, hactive⟩ | hbefore
    · exact .inr ⟨heq, hactive⟩
    · exact .inl hbefore

theorem inside_added {root : FsPath} {before after : List IndexLine}
    (h : LineAdded item before after) (hitem : Inside root item.quarantinePath)
    (hbefore : ∀ listed, .item listed ∈ before → Inside root listed.quarantinePath) :
    ∀ listed, .item listed ∈ after → Inside root listed.quarantinePath := by
  intro listed hlisted
  rcases h with rfl | rfl
  · rcases List.mem_append.mp hlisted with hmem | hlast
    · exact hbefore listed hmem
    · cases List.mem_singleton.mp hlast
  · rcases List.mem_append.mp hlisted with hmem | hlast
    · exact hbefore listed hmem
    · cases List.mem_singleton.mp hlast
      exact hitem

/-- The items that stay active have kept their files. -/
theorem CustodyState.InCustody.of_kept (hc : c.InCustody settings)
    (hinside : ∀ listed, .item listed ∈ c'.state.index →
      Inside settings.quarantinePath listed.quarantinePath)
    (hactive : ∀ other ∈ activeItems c'.state, other ∈ activeItems c.state ∧
      c'.held other.quarantineItemId = c.held other.quarantineItemId ∧
      c'.state.files.lookup other.quarantinePath = c.state.files.lookup other.quarantinePath) :
    c'.InCustody settings where
  distinct item hitem other hother :=
    hc.distinct item (hactive item hitem).1 other (hactive other hother).1
  inside := hinside
  held item hitem := by
    obtain ⟨hbefore, hheld, hfile⟩ := hactive item hitem
    rw [hheld, hfile]
    exact hc.held item hbefore

/-- The item is listed, and active unless nothing can be read. -/
structure Current (s : QuarantineState) (item : QuarantineItem) : Prop where
  listed : .item item ∈ s.index
  active : item ∈ activeItems s ∨ loadQuarantineIndex s.index = none

theorem current_of_active (h : item ∈ activeItems s) : Current s item :=
  ⟨mem_index_of_active h, .inl h⟩

theorem Current.congr (h : Current s item) (hindex : s'.index = s.index) : Current s' item := by
  obtain ⟨hlisted, hactive⟩ := h
  refine ⟨hindex ▸ hlisted, ?_⟩
  rw [activeItems_congr hindex, hindex]
  exact hactive

theorem Current.mem (h : Current s item) (hother : other ∈ activeItems s) :
    item ∈ activeItems s := by
  refine h.active.resolve_right fun hnone => ?_
  unfold activeItems at hother
  rw [hnone] at hother
  cases hother

/-- Another item that is recorded leaves it current. -/
theorem Current.added (h : Current s other) (hadded : LineAdded item s.index s'.index)
    (hne : other.quarantineItemId ≠ item.quarantineItemId) : Current s' other := by
  obtain ⟨files, index⟩ := s
  obtain ⟨files', index'⟩ := s'
  rcases hadded with rfl | rfl
  · exact ⟨List.mem_append_left _ h.listed, .inr loadQuarantineIndex_torn⟩
  · refine ⟨List.mem_append_left _ h.listed, ?_⟩
    rcases h.active with hactive | hnone
    · exact .inl (mem_activeItems_item.mpr (.inr ⟨hactive, hne⟩))
    · right
      rw [loadQuarantineIndex_item, hnone]
      rfl

/-- No other path is at the file of an item or below it. -/
theorem Custody.not_below (hc : Custody settings c) (hitem : item ∈ activeItems c.state)
    {path : FsPath} {node : FsNode Nat} (hpath : c.state.files.lookup path = some node)
    (hne : path ≠ item.quarantinePath) : ¬ item.quarantinePath <+: path := by
  intro hbelow
  obtain ⟨content, -, hfile⟩ := hc.kept.held item hitem
  refine hne (hc.grounded.eq_of_below ?_ (hc.grounded.ne_nil_of_file hfile) hbelow hpath)
  rw [hfile]
  exact fun h => nomatch h

/-- An item that is kept as it was, or recorded as no longer active, takes nothing from the
others. -/
theorem Custody.of_added (hc : Custody settings c) (hcurrent : Current c.state item)
    (updated : QuarantineItem) (hid : updated.quarantineItemId = item.quarantineItemId)
    (hpath : updated.quarantinePath = item.quarantinePath) (hstate : updated.state ≠ .active)
    (hindex : s'.index = c.state.index ∧
        s'.files.lookup item.quarantinePath = c.state.files.lookup item.quarantinePath ∨
      LineAdded updated c.state.index s'.index)
    (hgrounded : s'.files.Grounded)
    (hkept : ∀ other ∈ activeItems c.state, other.quarantinePath ≠ item.quarantinePath →
      s'.files.lookup other.quarantinePath = c.state.files.lookup other.quarantinePath) :
    Custody settings { c with state := s' } := by
  refine ⟨hgrounded, ?_⟩
  rcases hindex with ⟨hsame, hfile⟩ | hadded
  · refine hc.kept.of_kept (fun listed hlisted => hc.kept.inside listed (hsame ▸ hlisted))
      fun other hother => ?_
    have hactive : other ∈ activeItems c.state := activeItems_congr hsame ▸ hother
    refine ⟨hactive, rfl, ?_⟩
    by_cases hplace : other.quarantinePath = item.quarantinePath
    · rw [hplace]
      exact hfile
    · exact hkept other hactive hplace
  · refine hc.kept.of_kept (inside_added hadded ?_ hc.kept.inside) fun other hother => ?_
    · rw [hpath]
      exact hc.kept.inside item hcurrent.listed
    · rcases mem_activeItems_added hadded hother with ⟨hactive, hne⟩ | ⟨-, hnot⟩
      · refine ⟨hactive, rfl, hkept other hactive fun hplace => hne ?_⟩
        rw [hid, hc.kept.distinct other hactive item (hcurrent.mem hactive) hplace]
      · exact absurd hnot hstate

theorem custody_restoreItem (hc : Custody settings c) (hcurrent : Current c.state item)
    {faults : ItemFaults} (hclear : (ItemRequest.restore item faults).Clear settings c.state) :
    Custody settings { c with state := (restoreItem item faults c.state).1 } ∧
      c.state.files.KeepsFiles (restoreItem item faults c.state).1.files := by
  rcases restoreItem_cases item faults hclear with hsame | ⟨hsource, hfree, hfiles, hindex⟩
  · rw [hsame]
    exact ⟨hc, FileSystem.keepsFiles_of_kept fun _ _ h => h⟩
  · refine ⟨hc.of_added hcurrent { item with state := .restored } rfl rfl (by simp)
      (hindex.imp_left ?_) ?_ ?_, ?_⟩
    · rintro ⟨hsame, hfailed⟩
      refine ⟨hsame, ?_⟩
      rw [hfiles]
      exact (lookup_moveFile _ hsource).mpr (.inl hfailed)
    · rw [hfiles]
      exact grounded_moveFile _ hc.grounded hfree
    · intro other hother hne
      obtain ⟨content, -, hfile⟩ := hc.kept.held other hother
      rw [hfiles, hfile]
      exact kept_moveFile_free _ hc.grounded hfree hfile
        (hc.not_below (hcurrent.mem hother) hfile hne)
    · rw [hfiles]
      exact keepsFiles_moveFile _ hc.grounded hfree

theorem custody_deleteItem (hc : Custody settings c) (hcurrent : Current c.state item)
    {faults : ItemFaults} (hclear : (ItemRequest.delete item faults).Clear settings c.state) :
    Custody settings { c with state := (deleteItem item faults c.state).1 } ∧
      ∀ path, path ≠ item.quarantinePath →
        (deleteItem item faults c.state).1.files.lookup path = c.state.files.lookup path := by
  obtain ⟨hfiles, hindex⟩ := deleteItem_cases item faults hclear
  have hkept : ∀ path, path ≠ item.quarantinePath →
      (deleteItem item faults c.state).1.files.lookup path = c.state.files.lookup path := by
    intro path hne
    rcases hfiles with hsame | hdeleted
    · rw [hsame]
    · rw [hdeleted]
      exact lookup_deleteFile_of_ne hne
  refine ⟨hc.of_added hcurrent { item with state := .deleted, restorable := false } rfl rfl
    (by simp) hindex ?_ fun other _ hne => hkept _ hne, hkept⟩
  rcases hfiles with hsame | hdeleted
  · rw [hsame]
    exact hc.grounded
  · rw [hdeleted]
    exact grounded_deleteFile hc.grounded

/-- A finding that is moved has its destination in the quarantine. -/
theorem inside_destination {payload : FindingPayload} {generated : PyStr} {faults : ItemFaults}
    {source destination : FsPath}
    (hmoves : payload.move? settings generated faults s = some (source, destination))
    (hdots : py ".." ∉ destination.drop settings.quarantinePath.length) :
    Inside settings.quarantinePath destination := by
  have hdestination : ∃ rest, destination =
      settings.quarantinePath ++ py "catalog-remediation" :: rest := by
    unfold FindingPayload.move? at hmoves
    simp only [Option.bind_eq_bind, Option.bind_eq_some_iff, Option.ite_none_left_eq_some,
      Option.some.injEq, Prod.mk.injEq] at hmoves
    obtain ⟨text, -, root, -, -, -, rfl⟩ := hmoves
    unfold quarantineDestinationFor
    simp only [List.append_assoc, List.cons_append, List.nil_append]
    exact ⟨_, rfl⟩
  obtain ⟨rest, rfl⟩ := hdestination
  rw [List.drop_left] at hdots
  exact ⟨_, rfl, List.cons_ne_nil _ _, hdots⟩

theorem Inside.ne_nil {root path : FsPath} (h : Inside root path) : path ≠ [] := by
  obtain ⟨rest, rfl, hrest, -⟩ := h
  exact fun hnil => hrest (List.append_eq_nil_iff.mp hnil).2

theorem contentAt_isSome_iff {files : FileSystem PyStr Nat} {path : FsPath} :
    (contentAt files path).isSome = true ↔ ∃ content, files.lookup path = some (.file content) := by
  unfold contentAt
  split
  · next content h => exact iff_of_true rfl ⟨content, h⟩
  · next h =>
      refine iff_of_false Bool.false_ne_true ?_
      rintro ⟨content, hfile⟩
      exact h content hfile

theorem contentAt_of_file {files : FileSystem PyStr Nat} {path : FsPath} {content : Nat}
    (h : files.lookup path = some (.file content)) : contentAt files path = some content := by
  unfold contentAt
  rw [h]

/-- A new id is the id of no active item. -/
theorem ne_of_fresh {itemId : PyStr} (h : ∀ line ∈ s.index, line.itemId? ≠ some itemId)
    (hitem : item ∈ activeItems s) : item.quarantineItemId ≠ itemId :=
  fun heq => h _ (mem_index_of_active hitem) (congrArg some heq)

/-- A new item has a path that no other has, and holds its file there. -/
theorem CustodyState.InCustody.of_new (hc : c.InCustody settings)
    (hadded : LineAdded item c.state.index c'.state.index)
    (hinside : Inside settings.quarantinePath item.quarantinePath)
    (hnew : ∃ content, c'.held item.quarantineItemId = some content ∧
      c'.state.files.lookup item.quarantinePath = some (.file content))
    (halone : ∀ other ∈ activeItems c.state, other.quarantinePath ≠ item.quarantinePath)
    (hkept : ∀ other ∈ activeItems c.state,
      c'.held other.quarantineItemId = c.held other.quarantineItemId ∧
      c'.state.files.lookup other.quarantinePath = c.state.files.lookup other.quarantinePath) :
    c'.InCustody settings where
  distinct first hfirst second hsecond hpath := by
    rcases mem_activeItems_added hadded hfirst with ⟨hfirst, -⟩ | ⟨rfl, -⟩
    · rcases mem_activeItems_added hadded hsecond with ⟨hsecond, -⟩ | ⟨rfl, -⟩
      · exact hc.distinct first hfirst second hsecond hpath
      · exact absurd hpath (halone first hfirst)
    · rcases mem_activeItems_added hadded hsecond with ⟨hsecond, -⟩ | ⟨rfl, -⟩
      · exact absurd hpath.symm (halone second hsecond)
      · rfl
  inside := inside_added hadded hinside hc.inside
  held other hother := by
    rcases mem_activeItems_added hadded hother with ⟨hbefore, -⟩ | ⟨rfl, -⟩
    · obtain ⟨hheld, hfile⟩ := hkept other hbefore
      rw [hheld, hfile]
      exact hc.held other hbefore
    · exact hnew

theorem custody_quarantineFinding (hc : Custody settings c) {payload : FindingPayload}
    {itemId generated : PyStr} {faults : ItemFaults}
    (hclear : (ItemRequest.quarantine payload itemId generated faults).Clear settings c.state) :
    Custody settings (c.take
        ((ItemRequest.quarantine payload itemId generated faults).step settings c.state)) ∧
      c.state.files.KeepsFiles
        (quarantineFinding settings payload itemId generated faults c.state).1.files := by
  obtain ⟨hfresh, hclear⟩ := hclear
  have hheld : ∀ {content : Option Nat}, ∀ other ∈ activeItems c.state,
      Function.update c.held itemId content other.quarantineItemId =
        c.held other.quarantineItemId :=
    fun other hother => Function.update_of_ne (ne_of_fresh hfresh hother) _ _
  simp only [CustodyState.take, ItemRequest.step, ItemRequest.run, ItemRequest.place]
  cases hmoves : payload.move? settings generated faults c.state with
  | none =>
      rw [quarantineFinding_of_stopped hmoves]
      exact ⟨⟨hc.grounded, hc.kept.of_kept hc.kept.inside fun other hother =>
        ⟨hother, hheld other hother, rfl⟩⟩, FileSystem.keepsFiles_of_kept fun _ _ h => h⟩
  | some paths =>
      obtain ⟨source, destination⟩ := paths
      obtain ⟨hrun, hplace, hsome⟩ := @quarantineFinding_of_moves settings c.state payload itemId
        generated faults _ _ hmoves
      obtain ⟨hcontent, hfree, hunheld, hdots⟩ := hclear _ hmoves
      obtain ⟨content, hsource⟩ := contentAt_isSome_iff.mp hcontent
      have hinside := inside_destination hmoves hdots
      rw [hrun, hplace, contentAt_of_file hsource]
      obtain ⟨hfiles, hindex⟩ := @moveFinding_cases c.state payload itemId faults source destination
      have hkept : ∀ other ∈ activeItems c.state,
          (moveFile c.state.files faults.move source destination).1.lookup other.quarantinePath =
            c.state.files.lookup other.quarantinePath := by
        intro other hother
        obtain ⟨found, -, hfile⟩ := hc.kept.held other hother
        rw [hfile]
        refine kept_moveFile_free _ hc.grounded hfree hfile fun hbelow => ?_
        refine hunheld other hother (hc.grounded.eq_of_below ?_
          (hc.grounded.ne_nil_of_file hsource) hbelow hfile)
        rw [hsource]
        simp
      refine ⟨⟨?_, ?_⟩, ?_⟩
      · rw [hfiles]
        exact grounded_moveFile _ hc.grounded hfree
      · rcases hindex with hsame | ⟨hmoved, item, hitem, hadded⟩
        · refine hc.kept.of_kept (fun listed hlisted => hc.kept.inside listed (hsame ▸ hlisted))
            fun other hother => ?_
          have hactive : other ∈ activeItems c.state := activeItems_congr hsame ▸ hother
          refine ⟨hactive, hheld other hactive, ?_⟩
          rw [hfiles]
          exact hkept other hactive
        · obtain ⟨hid, hpath, -⟩ := quarantinedItem_fields hitem
          refine hc.kept.of_new hadded (hpath ▸ hinside) ⟨content, ?_, ?_⟩
            (fun other hother hsame => ?_) fun other hother => ⟨hheld other hother, ?_⟩
          · rw [hid]
            exact Function.update_self _ _ _
          · have hne : source ≠ destination := by
              rintro rfl
              rw [hfree] at hsome
              cases hsome
            have hdirectory : c.state.files.isDirectory destination = false := by
              rw [Bool.eq_false_iff, Ne, FileSystem.isDirectory_iff, hfree]
              exact (Option.some_ne_none _).symm
            rw [hfiles, hpath, ← hsource]
            exact (lookup_moveFile_returned hmoved hne hdirectory hinside.ne_nil hsome).2
          · obtain ⟨found, -, hfile⟩ := hc.kept.held other hother
            rw [hsame, hpath, hfree] at hfile
            cases hfile
          · rw [hfiles]
            exact hkept other hother
      · rw [hfiles]
        exact keepsFiles_moveFile _ hc.grounded hfree

end Items

/-! ## Requests -/

section Requests

variable {settings : QuarantineSettings} {s s' : QuarantineState} {c : CustodyState}

/-- The item that a request moves back or deletes. -/
def ItemRequest.transitioned? : ItemRequest → Option QuarantineItem
  | .quarantine _ _ _ _ => none
  | .restore item _ | .delete item _ => some item

/-- The items still to be handled are current, and each is there once. -/
structure Pending (s : QuarantineState) (items : List ItemRequest) : Prop where
  distinct : ((items.filterMap ItemRequest.transitioned?).map
    QuarantineItem.quarantineItemId).Nodup
  current : ∀ item ∈ items.filterMap ItemRequest.transitioned?, Current s item

theorem filterMap_transitioned {request : QuarantineItem → ItemRequest}
    (h : ∀ item, (request item).transitioned? = some item) (items : List QuarantineItem) :
    (items.map request).filterMap ItemRequest.transitioned? = items := by
  have hsome : ItemRequest.transitioned? ∘ request = some := funext h
  rw [List.filterMap_map, hsome, List.filterMap_some]

theorem pending_items (request : QuarantineRequest) (s : QuarantineState) :
    Pending s (request.items s) := by
  cases request with
  | quarantine items =>
      have hnone : ((QuarantineRequest.quarantine items).items s).filterMap
          ItemRequest.transitioned? = [] := by
        rw [List.filterMap_eq_nil_iff]
        intro request hrequest
        obtain ⟨item, -, rfl⟩ := List.mem_map.mp hrequest
        rfl
      refine ⟨?_, ?_⟩
      · rw [hnone]
        exact List.nodup_nil
      · rw [hnone]
        exact List.forall_mem_nil _
  | transition quarantineItemIds applyAll target faults =>
      cases hload : loadQuarantineIndex s.index with
      | none =>
          have hitems :
              (QuarantineRequest.transition quarantineItemIds applyAll target faults).items
              s = [] := by
            unfold QuarantineRequest.items
            rw [hload]
          rw [hitems]
          exact ⟨List.nodup_nil, List.forall_mem_nil _⟩
      | some latest =>
          have hown : ((QuarantineRequest.transition quarantineItemIds applyAll target faults).items
              s).filterMap ItemRequest.transitioned? =
                selectedItems quarantineItemIds applyAll latest.rows := by
            unfold QuarantineRequest.items
            rw [hload]
            exact filterMap_transitioned (fun item => by cases target <;> rfl) _
          constructor
          · rw [hown]
            exact latest.unique.sublist (List.filter_sublist.map _)
          · rw [hown]
            intro item hitem
            obtain ⟨hmem, hselected⟩ := List.mem_filter.mp hitem
            simp only [Bool.and_eq_true] at hselected
            refine current_of_active ?_
            unfold activeItems
            rw [hload]
            exact List.mem_filter.mpr ⟨hmem, hselected.1.1⟩

theorem custody_step (hc : Custody settings c) (request : ItemRequest)
    (hcurrent : ∀ item ∈ request.transitioned?, Current c.state item)
    (hclear : request.Clear settings c.state) :
    Custody settings (c.take (request.step settings c.state)) ∧
      (request.step settings c.state).DestroysNothing := by
  cases request with
  | quarantine payload itemId generated faults => exact custody_quarantineFinding hc hclear
  | restore item faults => exact custody_restoreItem hc (hcurrent item rfl) hclear
  | delete item faults => exact custody_deleteItem hc (hcurrent item rfl) hclear

theorem CustodyState.take_state (c : CustodyState) (step : ItemStep) :
    (c.take step).state = step.after := by
  unfold CustodyState.take
  split <;> rfl

/-- What is current stays so when another item is handled. -/
theorem Current.step {other : QuarantineItem} (h : Current s other) (request : ItemRequest)
    (hclear : request.Clear settings s)
    (hne : ∀ own ∈ request.transitioned?, other.quarantineItemId ≠ own.quarantineItemId) :
    Current (request.step settings s).after other := by
  cases request with
  | quarantine payload itemId generated faults =>
      simp only [ItemRequest.step, ItemRequest.run]
      cases hmoves : payload.move? settings generated faults s with
      | none => exact h.congr (by rw [quarantineFinding_of_stopped hmoves])
      | some paths =>
          obtain ⟨hrun, -, -⟩ := @quarantineFinding_of_moves settings s payload itemId generated
            faults _ _ hmoves
          rw [hrun]
          rcases (moveFinding_cases payload itemId faults paths.1 paths.2).2 with
            hsame | ⟨-, item, hitem, hadded⟩
          · exact h.congr hsame
          · refine h.added hadded fun heq => hclear.1 _ h.listed ?_
            rw [(quarantinedItem_fields hitem).1] at heq
            exact congrArg some heq
  | restore item faults =>
      rcases restoreItem_cases item faults hclear with hsame | ⟨-, -, -, ⟨hsame, -⟩ | hadded⟩
      · exact h.congr (congrArg QuarantineState.index hsame)
      · exact h.congr hsame
      · exact h.added hadded (hne item rfl)
  | delete item faults =>
      rcases (deleteItem_cases item faults hclear).2 with ⟨hsame, -⟩ | hadded
      · exact h.congr hsame
      · exact h.added hadded (hne item rfl)

theorem Pending.step {request : ItemRequest} {items : List ItemRequest}
    (h : Pending s (request :: items)) (hclear : request.Clear settings s) :
    Pending (request.step settings s).after items := by
  obtain ⟨hdistinct, hcurrent⟩ := h
  cases hown : request.transitioned? with
  | none =>
      rw [List.filterMap_cons_none hown] at hdistinct hcurrent
      refine ⟨hdistinct, fun other hother => (hcurrent other hother).step request hclear ?_⟩
      rw [hown]
      exact fun own h => nomatch h
  | some own =>
      rw [List.filterMap_cons_some hown] at hdistinct hcurrent
      obtain ⟨hnew, hrest⟩ := List.nodup_cons.mp hdistinct
      refine ⟨hrest, fun other hother => ?_⟩
      refine (hcurrent other (List.mem_cons_of_mem _ hother)).step request hclear ?_
      rw [hown]
      rintro own' hown' heq
      cases hown'
      exact hnew (heq ▸ List.mem_map_of_mem hother)

theorem custody_handleItems {items : List ItemRequest} (hc : Custody settings c)
    (hpending : Pending c.state items)
    (hclear : ∀ step ∈ handleItems settings c.state items, step.item.Clear settings step.before) :
    Custody settings ((handleItems settings c.state items).foldl CustodyState.take c) ∧
      ∀ step ∈ handleItems settings c.state items, step.DestroysNothing := by
  induction items generalizing c with
  | nil => exact ⟨hc, List.forall_mem_nil _⟩
  | cons request items ih =>
      have hunfold : handleItems settings c.state (request :: items) =
          request.step settings c.state ::
            if (request.step settings c.state).status = .raised then []
            else handleItems settings (request.step settings c.state).after items := rfl
      rw [hunfold, List.forall_mem_cons] at hclear
      rw [hunfold, List.foldl_cons, List.forall_mem_cons]
      obtain ⟨hfirst, hdestroys⟩ := custody_step hc request (fun item hitem =>
        hpending.current item (List.mem_filterMap.mpr ⟨request, List.mem_cons_self, hitem⟩))
        hclear.1
      split
      · exact ⟨hfirst, hdestroys, List.forall_mem_nil _⟩
      · next hgoes =>
          rw [if_neg hgoes] at hclear
          have hstate := c.take_state (request.step settings c.state)
          have hlater := hpending.step hclear.1
          rw [← hstate] at hlater hclear ⊢
          obtain ⟨hlast, hall⟩ := ih hfirst hlater hclear.2
          exact ⟨hlast, hdestroys, hall⟩

/-! ## Runs -/

theorem custody_start {files : FileSystem PyStr Nat} (h : files.Grounded) :
    Custody settings (.start files) where
  grounded := h
  kept := ⟨List.forall_mem_nil _, fun _ hlisted => (List.not_mem_nil hlisted).elim,
    List.forall_mem_nil _⟩

theorem custody_event {event : QuarantineEvent} {c' : CustodyState} (hc : Custody settings c)
    (hclear : event.Clear settings c) (hstep : c.step settings event = some c') :
    Custody settings c' := by
  cases event with
  | request asked =>
      cases hstep
      exact (custody_handleItems hc (pending_items asked c.state) hclear).1
  | appears path content =>
      simp only [CustodyState.step, Option.ite_none_left_eq_some, not_or, Bool.not_eq_true,
        Option.map_eq_some_iff] at hstep
      obtain ⟨⟨hne, hfree⟩, files, hmade, rfl⟩ := hstep
      have hkept := (FileSystem.widens_foldlM_mkdir hmade).1.kept
      have hnone : files.lookup path = none := by
        rw [FileSystem.lookup_mkdirs hmade (not_below_dropLast hne)]
        simpa using hfree
      refine ⟨FileSystem.grounded_set (FileSystem.grounded_mkdirs hc.grounded hmade) hnone hne
        (FileSystem.supported_of_mkdirs hmade) _, ?_⟩
      refine hc.kept.of_kept hc.kept.inside fun other hother => ⟨hother, rfl, ?_⟩
      obtain ⟨found, -, hfile⟩ := hc.kept.held other hother
      rw [FileSystem.lookup_set, if_neg, hkept _ _ hfile, hfile]
      rintro rfl
      rw [hkept _ _ hfile] at hnone
      cases hnone

/-- After every run of clear steps the quarantine is in custody, and the next clear request
destroys nothing. -/
theorem custody_of_clear {files : FileSystem PyStr Nat} (hfiles : files.Grounded)
    {events : List QuarantineEvent}
    (hrun : Steps (CustodyState.step settings) (fun c event => event.Clear settings c)
      (.start files) events c) :
    c.InCustody settings ∧ ∀ request : QuarantineRequest,
      (QuarantineEvent.request request).Clear settings c →
        ∀ step ∈ request.steps settings c.state, step.DestroysNothing := by
  have hc : Custody settings c :=
    hrun.invariant (fun _ _ _ hclear hstep h => custody_event h hclear hstep) (custody_start hfiles)
  exact ⟨hc.kept, fun request hclear =>
    (custody_handleItems hc (pending_items request c.state) hclear).2⟩

end Requests

/-! ## A source that is quarantined again -/

def withoutErrors : ItemFaults where
  pathExists := false
  resolve := false
  move := none
  delete := false
  runItems := false
  index := none

/-- The upload is quarantined as a finding. -/
def quarantineUpload (findingId itemId : PyStr) : QuarantineEvent :=
  .request (.quarantine [({ findingId := findingId
                            categoryKey := some (py "zero-byte")
                            sourcePath := some (py "up/a")
                            rootSlug := none
                            sizeBytes := none },
    itemId, py "generated", withoutErrors)])

/-- A new file appears where the first one was, and is quarantined too. -/
def quarantinedTwice (findingId later : PyStr) : List QuarantineEvent :=
  [.appears [py "up", py "a"] 7, quarantineUpload findingId (py "first"),
    .appears [py "up", py "a"] 8, quarantineUpload later (py "second")]

def lastCustody (findingId later : PyStr) : CustodyState :=
  Steps.last (CustodyState.step quarantineUploads) (.start .empty)
    (quarantinedTwice findingId later)

theorem custody_of_clear_apart :
    (lastCustody (py "f") (py "g")).InCustody quarantineUploads ∧
      (activeItems (lastCustody (py "f") (py "g")).state).length = 2 :=
  ⟨(custody_of_clear FileSystem.grounded_empty
      (@Steps.of_checked _ _ (CustodyState.step quarantineUploads)
        (fun c event => event.Clear quarantineUploads c)
        (fun c event => decide (event.Clear quarantineUploads c))
        (fun _ _ => of_decide_eq_true) _ _ (quarantinedTwice (py "f") (py "g"))
        (Steps.exec_eq_last (by decide +kernel)))).1, by decide +kernel⟩

/-- Under the same finding id the second file is moved over the first. -/
theorem second_finding_replaces_first :
    ¬ ∀ (settings : QuarantineSettings) (files : FileSystem PyStr Nat)
      (events : List QuarantineEvent) (c : CustodyState), files.Grounded →
      Steps (CustodyState.step settings) (fun _ _ => True) (.start files) events c →
        c.InCustody settings ∧ ∀ request : QuarantineRequest,
          ∀ step ∈ request.steps settings c.state, step.DestroysNothing := by
  intro h
  have hrun : Steps (CustodyState.step quarantineUploads) (fun _ _ => True) (.start .empty)
      (quarantinedTwice (py "f") (py "f")) (lastCustody (py "f") (py "f")) :=
    Steps.of_exec (fun _ _ _ => trivial) (Steps.exec_eq_last (by decide +kernel))
  have hcustody := (h quarantineUploads .empty _ _ FileSystem.grounded_empty hrun).1
  exact absurd hcustody.distinct (by decide +kernel)

end ImmichDoctor.Catalog
