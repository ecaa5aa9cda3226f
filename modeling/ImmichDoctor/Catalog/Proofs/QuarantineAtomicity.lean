import ImmichDoctor.Catalog.Proofs.FileMoves
/-!
# What a failed item leaves behind

A move or a deletion is not undone when the item cannot be recorded after it. A request is
atomic exactly when no item raises between the operation on its file and the end of the
append to the index.
-/

namespace ImmichDoctor.Catalog

open ImmichDoctor.Library

/-- The item failed, or the request raised at it. -/
def ItemStatus.failing : ItemStatus → Bool
  | .failed | .raised => true
  | _ => false

/-- The file of the item is as it was at its place, and the index is as it was. -/
def ItemStep.Unchanged (step : ItemStep) : Prop :=
  step.after.files.lookup step.item.place = step.before.files.lookup step.item.place ∧
    step.after.index = step.before.index

instance (step : ItemStep) : Decidable step.Unchanged :=
  inferInstanceAs (Decidable (_ ∧ _))

/-- The index has got a line, or a part of one, when the append raises. -/
def ItemFaults.writesIndex (faults : ItemFaults) : Bool :=
  !faults.runItems && (faults.index = some .torn || faults.index = some .written)

/-- One of the two appends raises. -/
def ItemFaults.recordRaises (faults : ItemFaults) : Bool :=
  faults.runItems || faults.index.isSome

/-! ## Recording -/

theorem append_returns_iff (faults : ItemFaults) (item : QuarantineItem) (s : QuarantineState) :
    (appendQuarantineItem faults item s).2 = !faults.recordRaises := by
  unfold appendQuarantineItem ItemFaults.recordRaises
  split
  · next h => rw [h, Bool.true_or, Bool.not_true]
  · next h =>
      rw [Bool.not_eq_true] at h
      rw [h, Bool.false_or]
      split <;> rename_i hindex <;> rw [hindex] <;> rfl

theorem append_files (faults : ItemFaults) (item : QuarantineItem) (s : QuarantineState) :
    (appendQuarantineItem faults item s).1.files = s.files := by
  unfold appendQuarantineItem
  split
  · rfl
  · split <;> rfl

/-- An append that raises has left the index alone unless it wrote to it. -/
theorem append_index_iff {faults : ItemFaults} (item : QuarantineItem) (s : QuarantineState)
    (h : faults.recordRaises = true) :
    (appendQuarantineItem faults item s).1.index = s.index ↔ faults.writesIndex = false := by
  unfold appendQuarantineItem ItemFaults.writesIndex
  unfold ItemFaults.recordRaises at h
  cases hrun : faults.runItems with
  | true => simp
  | false =>
      rw [hrun, Bool.false_or] at h
      cases hindex : faults.index with
      | none =>
          rw [hindex] at h
          cases h
      | some fault => cases fault <;> simp

/-! ## One item -/

/-- Where the file of a finding is and where it is moved, when nothing stops the move. -/
def FindingPayload.move? (settings : QuarantineSettings) (payload : FindingPayload)
    (generated : PyStr) (faults : ItemFaults) (s : QuarantineState) : Option (FsPath × FsPath) := do
  let text ← optionalText payload.sourcePath
  let root ← settings.rootPathFor ((optionalText payload.rootSlug).getD (py "uploads"))
  if faults.pathExists || (s.files.lookup (placeOf text)).isNone || faults.resolve ||
      !(root <+: placeOf text) || !settings.writable root then
    none
  else
    some (placeOf text, quarantineDestinationFor settings payload.category
      payload.findingId.strip generated (placeOf text))

/-- The operation on the file goes through and what follows it raises, with an effect on the
file or on the index. -/
def ItemRequest.raisesLate (settings : QuarantineSettings) (s : QuarantineState) :
    ItemRequest → Bool
  | .quarantine payload _ generated faults =>
      (payload.move? settings generated faults s).any fun (source, destination) =>
        (moveFile s.files faults.move source destination).2 &&
          (payload.sizeBytes = some none || faults.recordRaises) &&
          (source ≠ destination || payload.sizeBytes ≠ some none && faults.writesIndex)
  | .restore item faults =>
      !faults.pathExists && (s.files.lookup item.quarantinePath).isSome &&
        (s.files.lookup item.sourcePath).isNone &&
        (moveFile s.files faults.move item.quarantinePath item.sourcePath).2 &&
        faults.recordRaises
  | .delete item faults =>
      !faults.pathExists && faults.recordRaises &&
        if (s.files.lookup item.quarantinePath).isSome then
          (deleteFile s.files faults.delete item.quarantinePath).2
        else faults.writesIndex

/-- The item as it is handled in a state. -/
def ItemRequest.step (settings : QuarantineSettings) (s : QuarantineState) (item : ItemRequest) :
    ItemStep :=
  ⟨s, item, (item.run settings s).1, (item.run settings s).2⟩

variable {settings : QuarantineSettings} {s : QuarantineState}

/-- A move of a finding and its record. -/
def moveFinding (payload : FindingPayload) (itemId : PyStr) (faults : ItemFaults)
    (source destination : FsPath) (s : QuarantineState) : QuarantineState × ItemStatus :=
  let (files, moved) := moveFile s.files faults.move source destination
  if !moved then ({ s with files }, .failed)
  else
    match quarantinedItem payload itemId source destination with
    | none => ({ s with files }, .failed)
    | some item =>
        let (after, written) := appendQuarantineItem faults item { s with files }
        (after, if written then .applied else .failed)

/-- A finding that stops before its move changes nothing. -/
theorem quarantineFinding_of_stopped {payload : FindingPayload} {itemId generated : PyStr}
    {faults : ItemFaults} (h : payload.move? settings generated faults s = none) :
    (quarantineFinding settings payload itemId generated faults s).1 = s := by
  unfold FindingPayload.move? at h
  unfold quarantineFinding
  cases htext : optionalText payload.sourcePath with
  | none => rfl
  | some text =>
      rw [htext] at h
      cases hroot : settings.rootPathFor ((optionalText payload.rootSlug).getD (py "uploads")) with
      | none =>
          dsimp only
          split_ifs <;> rfl
      | some root =>
          rw [hroot] at h
          have hstops : faults.pathExists = true ∨ (s.files.lookup (placeOf text)).isNone = true ∨
              faults.resolve = true ∨ ¬ root <+: placeOf text ∨
                (!settings.writable root) = true := by
            simpa only [Option.bind_eq_bind, Option.bind_some, ite_eq_left_iff, reduceCtorEq,
              imp_false, not_not, Bool.or_eq_true, Bool.not_eq_true', decide_eq_false_iff_not,
              or_assoc] using h
          dsimp only
          split_ifs with hexists hfound hresolve hbelow hwritable
          all_goals first | rfl | exact absurd hstops (by tauto)

theorem quarantineFinding_of_moves {payload : FindingPayload} {itemId generated : PyStr}
    {faults : ItemFaults} {source destination : FsPath}
    (h : payload.move? settings generated faults s = some (source, destination)) :
    quarantineFinding settings payload itemId generated faults s =
        moveFinding payload itemId faults source destination s ∧
      placeOf ((optionalText payload.sourcePath).getD []) = source ∧
      (s.files.lookup source).isSome = true := by
  unfold FindingPayload.move? at h
  unfold quarantineFinding
  cases htext : optionalText payload.sourcePath with
  | none =>
      rw [htext] at h
      cases h
  | some text =>
      rw [htext] at h
      cases hroot : settings.rootPathFor ((optionalText payload.rootSlug).getD (py "uploads")) with
      | none =>
          rw [hroot] at h
          cases h
      | some root =>
          rw [hroot] at h
          simp only [Option.bind_eq_bind, Option.bind_some, Option.ite_none_left_eq_some,
            Bool.or_eq_true, not_or, Bool.not_eq_true, Option.some.injEq, Prod.mk.injEq] at h
          obtain ⟨⟨⟨⟨⟨hexists, hfound⟩, hresolve⟩, hbelow⟩, hwritable⟩, rfl, rfl⟩ := h
          have hbelow' : root <+: placeOf text := by simpa using hbelow
          have hsome : (s.files.lookup (placeOf text)).isSome = true := by
            simpa using hfound
          refine ⟨?_, rfl, hsome⟩
          dsimp only
          rw [if_neg (by simp [hexists]), if_neg (by simp [hfound]), if_neg (by simp [hresolve]),
            if_neg (not_not.mpr hbelow'), if_neg (by simp [hwritable])]
          rfl

/-- What remains to be compared once the file operation of an item went through or not. -/
theorem unchanged_moveFinding_iff {payload : FindingPayload} {itemId : PyStr}
    {faults : ItemFaults} {source destination : FsPath}
    (hsource : (s.files.lookup source).isSome = true) :
    ((moveFinding payload itemId faults source destination s).2.failing = true →
        (moveFinding payload itemId faults source destination s).1.files.lookup source =
            s.files.lookup source ∧
          (moveFinding payload itemId faults source destination s).1.index = s.index) ↔
      ((moveFile s.files faults.move source destination).2 &&
        (payload.sizeBytes = some none || faults.recordRaises) &&
        (source ≠ destination || payload.sizeBytes ≠ some none && faults.writesIndex)) = false := by
  have hmove : (_ ↔ _ ∨ source = destination) := lookup_moveFile faults.move hsource
  unfold moveFinding
  cases hdone : (moveFile s.files faults.move source destination).2 with
  | false =>
      rw [hdone] at hmove
      simp only [hdone, Bool.not_false, if_true, Bool.false_and, iff_true]
      exact fun _ => ⟨hmove.mpr (.inl rfl), trivial⟩
  | true =>
      rw [hdone] at hmove
      simp only [Bool.true_eq_false, false_or] at hmove
      simp only [hdone, Bool.not_true, Bool.false_eq_true, if_false, Bool.true_and]
      cases hitem : quarantinedItem payload itemId source destination with
      | none =>
          have hsize : payload.sizeBytes = some none := by
            unfold quarantinedItem at hitem
            split at hitem <;> first | assumption | cases hitem
          simp [hsize, ItemStatus.failing, hmove]
      | some item =>
          have hsize : payload.sizeBytes ≠ some none := by
            intro h
            rw [quarantinedItem, h] at hitem
            cases hitem
          simp only [append_returns_iff, append_files, hmove]
          cases hraises : faults.recordRaises with
          | false => simp [hsize, ItemStatus.failing]
          | true => simp [hsize, ItemStatus.failing, append_index_iff item _ hraises]

theorem unchanged_restoreItem_iff (settings : QuarantineSettings) (item : QuarantineItem)
    (faults : ItemFaults) :
    ((restoreItem item faults s).2.failing = true →
        (restoreItem item faults s).1.files.lookup item.quarantinePath =
            s.files.lookup item.quarantinePath ∧
          (restoreItem item faults s).1.index = s.index) ↔
      ItemRequest.raisesLate settings s (.restore item faults) = false := by
  simp only [restoreItem, ItemRequest.raisesLate]
  by_cases hstops : (faults.pathExists || (s.files.lookup item.quarantinePath).isNone ||
      (s.files.lookup item.sourcePath).isSome) = true
  · rw [if_pos hstops]
    refine iff_of_true (fun _ => ⟨rfl, rfl⟩) ?_
    simp only [Bool.or_eq_true] at hstops
    rcases hstops with (h | h) | h
    · simp [h]
    · simp [Option.isNone_iff_eq_none.mp h]
    · simp [Option.isSome_iff_ne_none.mp h]
  · rw [if_neg hstops]
    simp only [Bool.or_eq_true, not_or, Bool.not_eq_true] at hstops
    obtain ⟨⟨hexists, hfound⟩, hfree⟩ := hstops
    have hsource : (s.files.lookup item.quarantinePath).isSome = true := by
      simpa using hfound
    have hne : item.quarantinePath ≠ item.sourcePath := by
      intro heq
      rw [heq, hfree] at hsource
      cases hsource
    have hmove : (_ ↔ _ ∨ item.quarantinePath = item.sourcePath) :=
      lookup_moveFile faults.move hsource
    have hfree' : (s.files.lookup item.sourcePath).isNone = true := by simpa using hfree
    simp only [hne, or_false] at hmove
    simp only [hexists, hsource, hfree', Bool.not_false, Bool.true_and]
    cases hdone : (moveFile s.files faults.move item.quarantinePath item.sourcePath).2 with
    | false => simp [hmove.mpr hdone]
    | true =>
        rw [hdone] at hmove
        simp only [append_returns_iff]
        cases hraises : faults.recordRaises with
        | false => simp [ItemStatus.failing]
        | true => simp [ItemStatus.failing, append_files, hmove]

theorem unchanged_deleteItem_iff (settings : QuarantineSettings) (item : QuarantineItem)
    (faults : ItemFaults) :
    ((deleteItem item faults s).2.failing = true →
        (deleteItem item faults s).1.files.lookup item.quarantinePath =
            s.files.lookup item.quarantinePath ∧
          (deleteItem item faults s).1.index = s.index) ↔
      ItemRequest.raisesLate settings s (.delete item faults) = false := by
  simp only [deleteItem, ItemRequest.raisesLate]
  cases hexists : faults.pathExists with
  | true => simp
  | false =>
      simp only [Bool.false_eq_true, if_false, Bool.not_false, Bool.true_and]
      by_cases hfound : (s.files.lookup item.quarantinePath).isSome = true
      · have hdelete : (_ ↔ (deleteFile s.files faults.delete item.quarantinePath).2 = false) :=
          lookup_deleteFile hfound
        simp only [if_pos hfound]
        cases hdone : (deleteFile s.files faults.delete item.quarantinePath).2 with
        | false => simp [hdelete.mpr hdone]
        | true =>
            rw [hdone] at hdelete
            simp only [append_returns_iff]
            cases hraises : faults.recordRaises with
            | false => simp [ItemStatus.failing]
            | true => simp [ItemStatus.failing, append_files, hdelete]
      · simp only [if_neg hfound, append_returns_iff]
        cases hraises : faults.recordRaises with
        | false => simp [ItemStatus.failing]
        | true => simp [ItemStatus.failing, append_files, append_index_iff _ _ hraises]

/-- A failed item leaves everything as it was exactly when it does not raise late. -/
theorem ItemRequest.unchanged_iff (settings : QuarantineSettings) (s : QuarantineState)
    (item : ItemRequest) :
    ((item.step settings s).status.failing = true → (item.step settings s).Unchanged) ↔
      item.raisesLate settings s = false := by
  unfold ItemRequest.step ItemStep.Unchanged ItemRequest.raisesLate
  cases item with
  | quarantine payload itemId generated faults =>
      simp only [ItemRequest.run, ItemRequest.place]
      cases hmoves : payload.move? settings generated faults s with
      | none =>
          rw [quarantineFinding_of_stopped hmoves]
          exact iff_of_true (fun _ => ⟨rfl, rfl⟩) rfl
      | some paths =>
          obtain ⟨hrun, hplace, hsource⟩ := @quarantineFinding_of_moves settings s payload itemId
            generated faults _ _ hmoves
          rw [hrun, hplace]
          exact unchanged_moveFinding_iff hsource
  | restore item faults => exact unchanged_restoreItem_iff settings item faults
  | delete item faults => exact unchanged_deleteItem_iff settings item faults

/-! ## Requests -/

theorem mem_handleItems {items : List ItemRequest} {step : ItemStep}
    (h : step ∈ handleItems settings s items) : step = step.item.step settings step.before := by
  induction items generalizing s with
  | nil => cases h
  | cons item items ih =>
      rcases List.mem_cons.mp h with rfl | hlater
      · rfl
      · have hrest : step ∈ if (item.run settings s).2 = .raised then []
            else handleItems settings (item.run settings s).1 items := hlater
        split at hrest
        · cases hrest
        · exact ih hrest

/-- A request leaves every item that fails as it was exactly when none raises late. -/
theorem transitions_atomic_iff (settings : QuarantineSettings) (request : QuarantineRequest)
    (s : QuarantineState) :
    (∀ step ∈ request.steps settings s, step.status.failing = true → step.Unchanged) ↔
      ∀ step ∈ request.steps settings s, step.item.raisesLate settings step.before = false := by
  refine forall₂_congr fun step hstep => ?_
  rw [mem_handleItems hstep]
  exact step.item.unchanged_iff settings step.before

/-! ## An item that is moved and not recorded -/

def quarantinedUpload : QuarantineState where
  files := ⟨[([py "up", py "a"], .file 7)], by decide⟩
  index := []

def quarantineUploads : QuarantineSettings where
  quarantinePath := [py "q"]
  rootPathFor _ := some [py "up"]
  writable _ := true

/-- The finding of the file, whose item cannot be appended to the index. -/
def unrecordedFinding : QuarantineRequest :=
  .quarantine [({ findingId := py "f"
                  categoryKey := some (py "orphan")
                  sourcePath := some (py "up/a")
                  rootSlug := none
                  sizeBytes := none },
    py "item", py "generated",
    { pathExists := false
      resolve := false
      move := none
      delete := false
      runItems := false
      index := some .unwritten })]

/-- The file stays in quarantine, where no index line tells of it. -/
theorem unrecorded_move_not_undone :
    ¬ ∀ step ∈ unrecordedFinding.steps quarantineUploads quarantinedUpload,
      step.status.failing = true → step.Unchanged := by
  decide

end ImmichDoctor.Catalog
