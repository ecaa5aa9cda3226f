import ImmichDoctor.Consistency.Proofs.RestorePointFiles
/-!
# Restore points are restored once

A point whose rows were put back is marked as restored in the index, from which every restore
reads. Where a call stops, the index is as it was or cut, and of a cut index some points are read
or none. So the rows of a point are put back at most once, and once more for each time its mark
could not be completed.
-/

namespace ImmichDoctor.Consistency.RestorePoints

open ImmichDoctor.Library

/-! ## The index after a call -/

/-- The index holds a line for each of these points. -/
def IndexWhole (root : FilePath) (points : List MissingAssetRestorePoint) (files : TextFiles) :
    Prop :=
  (files (missingAssetRestorePointIndexFile root)).getD [] =
    JsonValue.jsonLines (points.map (·.toDict))

/-- The index holds a beginning of these lines. -/
def IndexCut (root : FilePath) (points : List MissingAssetRestorePoint) (files : TextFiles) :
    Prop :=
  ∃ kept, (files (missingAssetRestorePointIndexFile root)).getD [] =
    (JsonValue.jsonLines (points.map (·.toDict))).take kept

/-- The call writes the index anew, in part unless it returns. -/
structure Rewrites (root : FilePath) (points : List MissingAssetRestorePoint) {α : Type}
    (call : CallEnd α) : Prop where
  cut : IndexCut root points call.files
  whole : call.returned ≠ none → IndexWhole root points call.files

def FileOp.path : FileOp → FilePath
  | write path _ => path
  | unlink path => path

section Index

variable {root : FilePath} {files : TextFiles} {points : List MissingAssetRestorePoint}

theorem IndexWhole.cut (h : IndexWhole root points files) : IndexCut root points files :=
  ⟨_, by rw [h, List.take_length]⟩

theorem perform_of_ne {op : FileOp} {path : FilePath} (h : op.path ≠ path) :
    op.perform files path = files path := by
  cases op with
  | write other text => exact (TextFiles.write_apply ..).trans (if_neg (Ne.symm h))
  | unlink other => exact (TextFiles.unlink_apply ..).trans (if_neg (Ne.symm h))

theorem foldl_perform_of_ne {ops : List FileOp} {path : FilePath}
    (h : ∀ op ∈ ops, op.path ≠ path) : ops.foldl FileOp.perform files path = files path := by
  induction ops generalizing files with
  | nil => rfl
  | cons op ops ih =>
      obtain ⟨hfirst, hrest⟩ := List.forall_mem_cons.mp h
      rw [List.foldl_cons, ih hrest, perform_of_ne hfirst]

theorem performPart_of_ne {op : FileOp} {path : FilePath} (kept : Nat) (h : op.path ≠ path) :
    op.performPart files kept path = files path := by
  cases op with
  | write other text => exact (TextFiles.write_apply ..).trans (if_neg (Ne.symm h))
  | unlink other => rfl

/-- Wherever a call stops whose last operation writes the index, the index is as it was or cut. -/
theorem performOps_index {front : List FileOp} (points : List MissingAssetRestorePoint)
    (files : TextFiles) (stop : Stop)
    (hfront : ∀ op ∈ front, op.path ≠ missingAssetRestorePointIndexFile root) :
    performOps (some stop) (front ++ [writeIndex root points]) files
        (missingAssetRestorePointIndexFile root) =
          files (missingAssetRestorePointIndexFile root) ∨
      IndexCut root points (performOps (some stop) (front ++ [writeIndex root points]) files) := by
  have hdone : (front.take stop.done).foldl FileOp.perform files
      (missingAssetRestorePointIndexFile root) = files (missingAssetRestorePointIndexFile root) :=
    foldl_perform_of_ne fun op hop => hfront op (List.mem_of_mem_take hop)
  rcases Nat.lt_trichotomy stop.done front.length with hlt | heq | hgt
  · -- a document of the call
    left
    rw [performOps, List.take_append_of_le_length (by omega), List.getElem?_append_left hlt,
      List.getElem?_eq_getElem hlt]
    cases stop.part with
    | none => exact hdone
    | some kept =>
        exact (performPart_of_ne kept (hfront _ (List.getElem_mem hlt))).trans hdone
  · -- the index
    have hop : (front ++ [writeIndex root points])[stop.done]? = some (writeIndex root points) := by
      rw [heq, List.getElem?_append_right (Nat.le_refl _), Nat.sub_self]
      rfl
    rw [IndexCut, performOps, List.take_append_of_le_length (by omega), hop]
    cases stop.part with
    | none => exact .inl hdone
    | some kept =>
        refine .inr ⟨kept, ?_⟩
        simp only [writeIndex, FileOp.performPart, TextFiles.write_apply, if_true,
          Option.getD_some]
  · -- behind all of it
    have hop : (front ++ [writeIndex root points])[stop.done]? = none :=
      List.getElem?_eq_none (by rw [List.length_append, List.length_singleton]; omega)
    have htake : (front ++ [writeIndex root points]).take stop.done =
        front ++ [writeIndex root points] :=
      List.take_of_length_le (by rw [List.length_append, List.length_singleton]; omega)
    right
    apply IndexWhole.cut
    rw [IndexWhole, performOps, htake, hop]
    simp only [List.foldl_append, List.foldl_cons, List.foldl_nil, writeIndex_apply, if_true,
      Option.getD_some]

theorem ofOps_index {α : Type} {front : List FileOp} (stop : Option Stop) (value : α)
    (hfront : ∀ op ∈ front, op.path ≠ missingAssetRestorePointIndexFile root)
    {call : CallEnd α}
    (hcall : call = .ofOps stop (front ++ [writeIndex root points]) files value) :
    (call.returned = none ∧ call.files (missingAssetRestorePointIndexFile root) =
        files (missingAssetRestorePointIndexFile root)) ∨ Rewrites root points call := by
  subst hcall
  cases stop with
  | none =>
      have hwhole : IndexWhole root points (performOps none (front ++ [writeIndex root points])
          files) := by
        rw [IndexWhole, performOps]
        simp only [List.foldl_append, List.foldl_cons, List.foldl_nil, writeIndex_apply, if_true,
          Option.getD_some]
      exact .inr ⟨hwhole.cut, fun _ => hwhole⟩
  | some stop =>
      rcases performOps_index points files stop hfront with hsame | hcut
      · exact .inl ⟨rfl, hsame⟩
      · exact .inr ⟨hcut, fun hreturned => absurd rfl hreturned⟩

/-- What a create makes of the index. -/
theorem create_index (root : FilePath) (captured : CapturedPoint) (stop : Option Stop)
    (files : TextFiles) :
    ((create root captured stop files).returned = none ∧
        (create root captured stop files).files (missingAssetRestorePointIndexFile root) =
          files (missingAssetRestorePointIndexFile root)) ∨
      ∃ listed point, listPoints root files = some listed ∧ captured.dumped? = some point ∧
        Rewrites root ((listed.filter fun item => item.restorePointId ≠ point.restorePointId) ++
          [point]) (create root captured stop files) := by
  have hdocument : ∀ point, ∀ op ∈ [writeDocument root point],
      op.path ≠ missingAssetRestorePointIndexFile root := by
    intro point op hop
    rw [List.mem_singleton.mp hop]
    exact pointFile_ne_index
  cases hdumped : captured.dumped? with
  | none =>
      rw [create, hdumped]
      exact .inl ⟨rfl, rfl⟩
  | some point =>
      cases hlist : listPoints root files with
      | none =>
          left
          simp only [create, hdumped, listPoints_writeDocument, hlist, true_and]
          cases stop with
          | none => exact foldl_perform_of_ne (hdocument point)
          | some stop =>
              rcases Nat.eq_zero_or_pos stop.done with hzero | hpos
              · rw [performOps, hzero]
                cases stop.part with
                | none => rfl
                | some kept =>
                    exact performPart_of_ne kept (hdocument point _ List.mem_cons_self)
              · rw [performOps, List.take_of_length_le hpos, List.getElem?_eq_none hpos]
                exact foldl_perform_of_ne (hdocument point)
      | some listed =>
          rcases ofOps_index stop () (hdocument point) (create_of_listed hlist hdumped stop) with
            hsame | hrewrites
          · exact .inl hsame
          · exact .inr ⟨listed, point, rfl, rfl, hrewrites⟩

/-- What a delete makes of the index. -/
theorem delete_index {listed : List MissingAssetRestorePoint}
    (hlist : listPoints root files = some listed) (ids : List PointId) (stop : Option Stop) :
    ((delete root ids stop files).returned = none ∧
        (delete root ids stop files).files (missingAssetRestorePointIndexFile root) =
          files (missingAssetRestorePointIndexFile root)) ∨
      Rewrites root (listed.filter fun item => item.restorePointId ∉ ids)
        (delete root ids stop files) := by
  refine ofOps_index stop _ (fun op hop => ?_) (delete_of_listed hlist ids stop)
  obtain ⟨item, -, rfl⟩ := List.mem_map.mp hop
  exact pointFile_ne_index

end Index

/-! ## The account -/

/-- The id of the point that a request creates. -/
def Request.created? : Request → Option PointId
  | create point _ => some point.restorePointId
  | restore _ _ _ => none
  | delete _ _ _ => none

/-- Nothing raises that the request meets. -/
def Request.Undisturbed : Request → Prop
  | create point stop => point.dumped? ≠ none ∧ stop = none
  | restore _ _ reinserts => ∀ id, (reinserts id).updateStop = none ∧ (reinserts id).raises = false
  | delete _ _ stop => stop = none

/-- The index is that of these points, or was cut, and what was reinserted is accounted for: a
point that is still available only as often as its mark could not be completed. -/
structure Accounted (root : FilePath) (created : List PointId)
    (points : List MissingAssetRestorePoint) (s : ServiceState) : Prop where
  nodup : (points.map (·.restorePointId)).Nodup
  cut : IndexCut root points s.files
  whole : s.raised = false → IndexWhole root points s.files
  listed : ∀ point ∈ points, point.restorePointId ∈ created
  known : ∀ id ∈ s.reinserted, id ∈ created
  available : ∀ point ∈ points, point.status = .available →
    s.reinserted.count point.restorePointId ≤ s.unrecorded.count point.restorePointId
  once : ∀ id, s.reinserted.count id ≤ 1 + s.unrecorded.count id
  marked : s.raised = false → s.unrecorded = []

section Steps

variable {root : FilePath} {created : List PointId} {points : List MissingAssetRestorePoint}
  {listed rest : List MissingAssetRestorePoint} {point : MissingAssetRestorePoint}
  {s : ServiceState}

theorem count_append_singleton (ids : List PointId) (id other : PointId) :
    (ids ++ [id]).count other = ids.count other + if id = other then 1 else 0 := by
  rw [List.count_append, List.count_singleton]
  simp only [beq_iff_eq]

/-- What is listed are points of the account. -/
theorem Accounted.of_listed (h : Accounted root created points s)
    (hlist : listPoints root s.files = some listed) :
    (listed.map (·.restorePointId)).Nodup ∧ ∀ point ∈ listed, point ∈ points := by
  obtain ⟨kept, hcut⟩ := h.cut
  obtain ⟨read, hread, rfl⟩ := listPoints_of_cut hcut hlist
  exact ⟨nodup_newestFirst (h.nodup.sublist (hread.map _)), fun point hpoint =>
    hread.subset (mem_newestFirst.mp hpoint)⟩

/-- As long as nothing has raised, the points are listed. -/
theorem Accounted.exists_listed (h : Accounted root created points s) (hraised : s.raised = false) :
    ∃ listed, listPoints root s.files = some listed :=
  ⟨_, listPoints_of_index (h.whole hraised)⟩

/-- An exception that leaves the files as they are. -/
theorem Accounted.raise (h : Accounted root created points s) :
    Accounted root created points { s with raised := true } :=
  { h with whole := Bool.noConfusion, marked := Bool.noConfusion }

/-- A call that has raised and left the index as it was. -/
theorem Accounted.of_unchanged {s' : ServiceState} {created' : List PointId}
    (h : Accounted root created points s) (hraised : s'.raised = true)
    (hsame : s'.files (missingAssetRestorePointIndexFile root) =
      s.files (missingAssetRestorePointIndexFile root))
    (hcreated : ∀ id ∈ created, id ∈ created') (hknown : ∀ id ∈ s'.reinserted, id ∈ created')
    (havailable : ∀ point ∈ points, point.status = .available →
      s'.reinserted.count point.restorePointId ≤ s'.unrecorded.count point.restorePointId)
    (honce : ∀ id, s'.reinserted.count id ≤ 1 + s'.unrecorded.count id) :
    Accounted root created' points s' where
  nodup := h.nodup
  cut := by
    obtain ⟨kept, hcut⟩ := h.cut
    exact ⟨kept, by rw [hsame, hcut]⟩
  whole hfalse := by
    rw [hraised] at hfalse
    cases hfalse
  listed point hpoint := hcreated _ (h.listed point hpoint)
  known := hknown
  available := havailable
  once := honce
  marked hfalse := by
    rw [hraised] at hfalse
    cases hfalse

theorem after_raised {α : Type} {call : CallEnd α} (h : call.returned = none) :
    (s.after call).raised = true := by
  rw [ServiceState.after, h, Option.isNone_none, Bool.or_true]

theorem mark_raised {id : PointId} {call : CallEnd Unit} (h : call.returned = none) :
    (s.mark id call).raised = true := by
  rw [ServiceState.mark, h, Option.isNone_none, Bool.or_true]

/-- A new point has not been reinserted yet. -/
theorem accounted_create (h : Accounted root created points s) (captured : CapturedPoint)
    (stop : Option Stop) (hfresh : captured.restorePointId ∉ created) :
    ∃ after, Accounted root (created ++ [captured.restorePointId]) after
      (s.after (create root captured stop s.files)) := by
  have hcreated : ∀ id ∈ created, id ∈ created ++ [captured.restorePointId] :=
    fun id hid => List.mem_append_left _ hid
  have hknown : ∀ id ∈ s.reinserted, id ∈ created ++ [captured.restorePointId] :=
    fun id hid => hcreated id (h.known id hid)
  rcases create_index root captured stop s.files with ⟨hraises, hsame⟩ |
    ⟨listed, point, hlist, hdumped, hrewrites⟩
  · exact ⟨points, h.of_unchanged (after_raised hraises) hsame hcreated hknown h.available h.once⟩
  · obtain ⟨hnodup, hmem⟩ := h.of_listed hlist
    refine ⟨_, nodup_rewritten hnodup _, hrewrites.cut, fun hraised => ?_, fun item hitem => ?_,
      hknown, fun item hitem hstatus => ?_, h.once, fun hraised => ?_⟩
    · apply hrewrites.whole
      intro hnone
      rw [after_raised hnone] at hraised
      cases hraised
    · rcases mem_rewritten.mp hitem with rfl | ⟨hold, -⟩
      · rw [dumped?_restorePointId hdumped]
        exact List.mem_append_right _ List.mem_cons_self
      · exact hcreated _ (h.listed item (hmem item hold))
    · rcases mem_rewritten.mp hitem with rfl | ⟨hold, -⟩
      · have hcount : s.reinserted.count item.restorePointId = 0 := by
          rw [dumped?_restorePointId hdumped]
          exact List.count_eq_zero.mpr fun hin => hfresh (h.known _ hin)
        show s.reinserted.count item.restorePointId ≤ _
        omega
      · exact h.available item (hmem item hold) hstatus
    · exact h.marked (Bool.or_eq_false_iff.mp hraised).1

theorem accounted_delete (h : Accounted root created points s)
    (hlist : listPoints root s.files = some listed) (ids : List PointId) (stop : Option Stop) :
    ∃ after, Accounted root created after (s.after (delete root ids stop s.files)) := by
  rcases delete_index hlist ids stop with ⟨hraises, hsame⟩ | hrewrites
  · exact ⟨points, h.of_unchanged (after_raised hraises) hsame (fun _ hid => hid) h.known
      h.available h.once⟩
  · obtain ⟨hnodup, hmem⟩ := h.of_listed hlist
    refine ⟨_, hnodup.sublist (List.filter_sublist.map _), hrewrites.cut, fun hraised => ?_,
      fun item hitem => h.listed item (hmem item (List.mem_of_mem_filter hitem)), h.known,
      fun item hitem => h.available item (hmem item (List.mem_of_mem_filter hitem)), h.once,
      fun hraised => h.marked (Bool.or_eq_false_iff.mp hraised).1⟩
    apply hrewrites.whole
    intro hnone
    rw [after_raised hnone] at hraised
    cases hraised

theorem count_reinserted (s : ServiceState) (id other : PointId) (call : CallEnd Unit) :
    (s.mark id call).reinserted.count other =
      s.reinserted.count other + if id = other then 1 else 0 :=
  count_append_singleton _ _ _

theorem count_unrecorded (s : ServiceState) (id other : PointId) (call : CallEnd Unit) :
    (s.mark id call).unrecorded.count other = s.unrecorded.count other +
      if call.returned = none then if id = other then 1 else 0 else 0 := by
  cases hreturned : call.returned with
  | none => rw [ServiceState.mark, hreturned, if_pos rfl]; exact count_append_singleton _ _ _
  | some value => rw [ServiceState.mark, hreturned, if_neg (Option.some_ne_none _)]; rfl

/-- The rows of a point are reinserted. When its mark is completed the point is not available any
more, and when it is not, that is on record. -/
theorem accounted_mark (h : Accounted root created points s)
    (hlist : listPoints root s.files = some listed) (hpoint : point ∈ listed)
    (hstatus : point.status = .available) {stop : Option Stop} {call : CallEnd Unit}
    (hcall : update root { point with status := .restored } stop s.files = call) :
    ∃ after, Accounted root created after (s.mark point.restorePointId call) ∧
      (call.returned ≠ none → ∃ listed', listPoints root call.files = some listed' ∧
        ∀ item ∈ listed, item.restorePointId ≠ point.restorePointId → item ∈ listed') := by
  obtain ⟨hnodup, hmem⟩ := h.of_listed hlist
  have hknown : ∀ id ∈ (s.mark point.restorePointId call).reinserted, id ∈ created := by
    intro id hid
    rcases List.mem_append.mp hid with hold | hnew
    · exact h.known id hold
    · rw [List.mem_singleton.mp hnew]
      exact h.listed point (hmem point hpoint)
  have hbefore := h.available point (hmem point hpoint) hstatus
  have honce : ∀ id, (s.mark point.restorePointId call).reinserted.count id ≤
      1 + (s.mark point.restorePointId call).unrecorded.count id := by
    intro id
    have hle := h.once id
    rw [count_reinserted, count_unrecorded]
    by_cases hid : point.restorePointId = id
    · subst hid
      rw [if_pos rfl]
      omega
    · rw [if_neg hid]
      omega
  have hindex := create_index root
    (MissingAssetRestorePoint.captured { point with status := .restored }) stop s.files
  rw [← update, hcall] at hindex
  rcases hindex with ⟨hraises, hsame⟩ | ⟨others, marked, hothers, hdumped, hrewrites⟩
  · refine ⟨points, h.of_unchanged (mark_raised hraises) hsame (fun _ hid => hid) hknown
      (fun item hitem havailable => ?_) honce, fun hreturned => absurd hraises hreturned⟩
    have hle := h.available item hitem havailable
    rw [count_reinserted, count_unrecorded, if_pos hraises]
    omega
  · rw [hlist, Option.some.injEq] at hothers
    rw [dumped?_captured, Option.some.injEq] at hdumped
    subst hothers hdumped
    refine ⟨_, ⟨nodup_rewritten hnodup _, hrewrites.cut, fun hraised => ?_, fun item hitem => ?_,
      hknown, fun item hitem havailable => ?_, honce, fun hraised => ?_⟩, fun hreturned => ?_⟩
    · apply hrewrites.whole
      intro hnone
      rw [mark_raised hnone] at hraised
      cases hraised
    · rcases mem_rewritten.mp hitem with rfl | ⟨hold, -⟩
      · exact h.listed point (hmem point hpoint)
      · exact h.listed item (hmem item hold)
    · rcases mem_rewritten.mp hitem with rfl | ⟨hold, hne⟩
      · cases havailable
      · have hle := h.available item (hmem item hold) havailable
        rw [count_reinserted, count_unrecorded, if_neg (Ne.symm hne)]
        omega
    · obtain ⟨hold, hnew⟩ := Bool.or_eq_false_iff.mp hraised
      rw [ServiceState.mark, if_neg (by rw [hnew]; exact Bool.false_ne_true)]
      exact h.marked hold
    · refine ⟨_, listPoints_of_index (hrewrites.whole hreturned), fun item hitem hne => ?_⟩
      exact mem_newestFirst.mpr (mem_rewritten.mpr (.inr ⟨hitem, hne⟩))

/-- The loop over points that are as the index has them. -/
theorem accounted_restorePoints (reinserts : PointId → Reinsert)
    (h : Accounted root created points s) (hlist : listPoints root s.files = some listed)
    (hnodup : (rest.map (·.restorePointId)).Nodup) (hrest : ∀ point ∈ rest, point ∈ listed) :
    (∃ after, Accounted root created after (restorePoints root reinserts rest s)) ∧
      ((∀ id, (reinserts id).updateStop = none ∧ (reinserts id).raises = false) →
        s.raised = false → (restorePoints root reinserts rest s).raised = false) := by
  induction rest generalizing points listed s with
  | nil => exact ⟨⟨points, h⟩, fun _ hraised => hraised⟩
  | cons point rest ih =>
      obtain ⟨hfirst, hothers⟩ := List.forall_mem_cons.mp hrest
      obtain ⟨hfresh, hnodup⟩ := List.nodup_cons.mp hnodup
      -- what is behind the point, from a state whose index still lists the others
      have hgo : ∀ {points' listed'} {s' : ServiceState}, Accounted root created points' s' →
          listPoints root s'.files = some listed' → (∀ point ∈ rest, point ∈ listed') →
          (∃ after, Accounted root created after
            (if (reinserts point.restorePointId).raises then { s' with raised := true }
              else restorePoints root reinserts rest s')) ∧
          ((∀ id, (reinserts id).updateStop = none ∧ (reinserts id).raises = false) →
            s'.raised = false →
            (if (reinserts point.restorePointId).raises then { s' with raised := true }
              else restorePoints root reinserts rest s').raised = false) := by
        intro points' listed' s' h' hlist' hrest'
        by_cases hraises : (reinserts point.restorePointId).raises = true
        · rw [if_pos hraises]
          refine ⟨⟨points', h'.raise⟩, fun hnone => ?_⟩
          rw [(hnone point.restorePointId).2] at hraises
          cases hraises
        · rw [if_neg hraises]
          exact ih h' hlist' hnodup hrest'
      rw [restorePoints]
      by_cases hrestored : point.status = .restored
      · rw [if_pos hrestored]
        exact hgo h hlist hothers
      have havailable : point.status = .available := by
        cases hstatus : point.status with
        | available => rfl
        | restored => exact absurd hstatus hrestored
      rw [if_neg hrestored]
      by_cases hreinserted : (reinserts point.restorePointId).reinserted = true
      · rw [if_neg (by simp [hreinserted])]
        obtain ⟨after, hafter, hlisted⟩ := accounted_mark h hlist hfirst havailable rfl
        by_cases hraises : (update root { point with status := .restored }
            (reinserts point.restorePointId).updateStop s.files).returned = none
        · rw [if_pos (by rw [hraises]; rfl)]
          refine ⟨⟨after, hafter⟩, fun hnone => ?_⟩
          rw [(hnone point.restorePointId).1, update,
            create_of_listed hlist (dumped?_captured _)] at hraises
          cases hraises
        · obtain ⟨listed', hlist', hkept⟩ := hlisted hraises
          have hsome : (update root { point with status := .restored }
              (reinserts point.restorePointId).updateStop s.files).returned.isNone = false := by
            rwa [← Bool.not_eq_true, Option.isNone_iff_eq_none]
          rw [if_neg (by rw [hsome]; exact Bool.false_ne_true)]
          have hback := hgo hafter hlist' fun other hother =>
            hkept other (hothers other hother) fun hsame =>
              hfresh (List.mem_map.mpr ⟨other, hother, hsame⟩)
          refine ⟨hback.1, fun hnone hraised => hback.2 hnone ?_⟩
          rw [ServiceState.mark, hsome, hraised, Bool.or_false]
      · rw [if_pos (by simp [hreinserted])]
        exact hgo h hlist hothers

end Steps

/-- One request whose point is new. -/
theorem accounted_perform {root : FilePath} {created : List PointId}
    {points : List MissingAssetRestorePoint} {s : ServiceState} (request : Request)
    (h : Accounted root created points s) (hfresh : ∀ id ∈ request.created?, id ∉ created) :
    (∃ after, Accounted root (created ++ request.created?.toList) after
        (request.perform root s)) ∧
      (request.Undisturbed → s.raised = false → (request.perform root s).raised = false) := by
  cases request with
  | create point stop =>
      refine ⟨accounted_create h point stop (hfresh point.restorePointId rfl),
        fun hnone hraised => ?_⟩
      obtain ⟨hdumps, rfl⟩ := hnone
      obtain ⟨listed, hlist⟩ := h.exists_listed hraised
      obtain ⟨dumped, hdumped⟩ := Option.ne_none_iff_exists'.mp hdumps
      rw [Request.perform, create_of_listed hlist hdumped]
      exact Bool.or_eq_false_iff.mpr ⟨hraised, rfl⟩
  | restore ids all reinserts =>
      rw [Request.created?, Option.toList_none, List.append_nil, Request.perform]
      cases hlist : listPoints root s.files with
      | none =>
          refine ⟨⟨points, h.raise⟩, fun _ hraised => ?_⟩
          obtain ⟨listed, hsome⟩ := h.exists_listed hraised
          rw [hlist] at hsome
          cases hsome
      | some listed =>
          obtain ⟨hnodup, -⟩ := h.of_listed hlist
          refine accounted_restorePoints reinserts h hlist ?_ ?_
          · cases all with
            | true => exact hnodup
            | false => exact hnodup.sublist (List.filter_sublist.map _)
          · cases all with
            | true => exact fun point hpoint => hpoint
            | false => exact fun point hpoint => List.mem_of_mem_filter hpoint
  | delete ids all stop =>
      rw [Request.created?, Option.toList_none, List.append_nil, Request.perform]
      cases hlist : listPoints root s.files with
      | none =>
          refine ⟨⟨points, h.raise⟩, fun _ hraised => ?_⟩
          obtain ⟨listed, hsome⟩ := h.exists_listed hraised
          rw [hlist] at hsome
          cases hsome
      | some listed =>
          refine ⟨accounted_delete h hlist _ stop, fun hnone hraised => ?_⟩
          cases hnone
          show (s.after _).raised = false
          rw [delete_of_listed hlist]
          exact Bool.or_eq_false_iff.mpr ⟨hraised, rfl⟩

/-- However often a point is asked to be restored and wherever a call of the store stops, its rows
are put back at most once, and once more for each time its mark could not be completed. When
nothing raises that the requests meet, none of them raises and every mark is completed. -/
theorem reinserted_at_most_once {root : FilePath} {requests : List Request}
    (hfresh : (requests.filterMap Request.created?).Nodup) :
    (∀ id, (stateAfter root requests).reinserted.count id ≤
        1 + (stateAfter root requests).unrecorded.count id) ∧
      ((∀ request ∈ requests, request.Undisturbed) →
        (stateAfter root requests).raised = false ∧
          (stateAfter root requests).unrecorded = []) := by
  suffices haccounted : (∃ points, Accounted root (requests.filterMap Request.created?) points
        (stateAfter root requests)) ∧
      ((∀ request ∈ requests, request.Undisturbed) →
        (stateAfter root requests).raised = false) by
    obtain ⟨⟨points, haccount⟩, hraised⟩ := haccounted
    exact ⟨haccount.once, fun hnone => ⟨hraised hnone, haccount.marked (hraised hnone)⟩⟩
  induction requests using List.reverseRecOn with
  | nil =>
      exact ⟨⟨[], List.nodup_nil, ⟨0, rfl⟩, fun _ => rfl, by simp, by simp [stateAfter], by simp,
        by simp [stateAfter], fun _ => rfl⟩, fun _ => rfl⟩
  | append_singleton requests request ih =>
      have hids : (requests ++ [request]).filterMap Request.created? =
          requests.filterMap Request.created? ++ request.created?.toList := by
        rw [List.filterMap_append]
        cases hcreated : request.created? with
        | none => simp [hcreated]
        | some id => simp [hcreated]
      rw [hids] at hfresh
      obtain ⟨hbefore, -, hapart⟩ := List.nodup_append.mp hfresh
      obtain ⟨⟨points, haccount⟩, hraised⟩ := ih hbefore
      obtain ⟨hafter, hstep⟩ := accounted_perform request haccount
        fun id hid hmem => hapart id hmem id (Option.mem_toList.mpr hid) rfl
      rw [hids, stateAfter, List.foldl_append, List.foldl_cons, List.foldl_nil, ← stateAfter]
      refine ⟨hafter, fun hnone => hstep (hnone request ?_) (hraised fun other hother => ?_)⟩
      · exact List.mem_append_right _ List.mem_cons_self
      · exact hnone other (List.mem_append_left _ hother)

/-! ## A mark that fails -/

def somePoint : MissingAssetRestorePoint where
  restorePointId := ⟨⟨py "p1", JsonValue.plainText_py "p1"⟩, by decide⟩
  repairRunId := ⟨py "r1", JsonValue.plainText_py "r1"⟩
  assetId := ⟨py "a1", JsonValue.plainText_py "a1"⟩
  createdAt := ⟨py "2026-01-01T00:00:00+00:00", JsonValue.plainText_py "2026-01-01T00:00:00+00:00"⟩
  status := .available
  recordCount := 1
  logicalPath := ⟨py "upload/a.jpg", JsonValue.plainText_py "upload/a.jpg"⟩
  records := []

/-- The first restore stops behind the document, the second one marks the point. -/
def restoredTwice : List Request :=
  [.create somePoint.captured none, .restore [] true fun _ => ⟨true, some ⟨1, none⟩, false⟩,
    .restore [somePoint.restorePointId] false fun _ => ⟨true, none, false⟩,
    .restore [] true fun _ => ⟨true, none, false⟩]

theorem reinserted_at_most_once_twice : (restoredTwice.filterMap Request.created?).Nodup ∧
    ∀ id, (stateAfter [py "points"] restoredTwice).reinserted.count id ≤
      1 + (stateAfter [py "points"] restoredTwice).unrecorded.count id :=
  ⟨by decide, (reinserted_at_most_once (by decide)).1⟩

end ImmichDoctor.Consistency.RestorePoints
