import ImmichDoctor.Catalog.IgnoredFindings
import ImmichDoctor.Library.OptionLists
/-!
# The log of ignored findings

Items are only added to the file or marked as released, and no two of the active ones are for
the same finding. So the findings that are ignored are those whose last turn was to be ignored.
-/

namespace ImmichDoctor.Catalog

open ImmichDoctor.Library

/-! ## The file -/

section Files

theorem toOptionalStr?_optionalJson (text : Option JsonStr) :
    (optionalJson text).toOptionalStr? = some text := by
  rw [optionalJson, JsonValue.toOptionalStr?_ofText?, JsonStr.read_texts]

theorem detailsFromDict_toDict (details : IgnoredFindingDetails) :
    IgnoredFindingDetails.fromDict details.toDict = some details := by
  have hassetId : details.toDict.field? (py "asset_id") =
      some (optionalJson details.assetId) := rfl
  have hrootSlug : details.toDict.field? (py "root_slug") =
      some (optionalJson details.rootSlug) := rfl
  have hrelativePath : details.toDict.field? (py "relative_path") =
      some (optionalJson details.relativePath) := rfl
  have hdbReferenceKind : details.toDict.field? (py "db_reference_kind") =
      some (optionalJson details.dbReferenceKind) := rfl
  have hsizeBytes : details.toDict.field? (py "size_bytes") =
      some (.ofInt? details.sizeBytes) := rfl
  simp only [IgnoredFindingDetails.fromDict, hassetId, hrootSlug, hrelativePath,
    hdbReferenceKind, hsizeBytes, Option.bind_eq_bind, Option.bind_some,
    toOptionalStr?_optionalJson, JsonValue.toOptionalInt?_ofInt?]
  rfl

theorem stateOf_text (state : IgnoredFindingState) :
    CatalogIgnoredFinding.stateOf (some (.str state.text)) = some state := by
  cases state <;> rfl

theorem fromDict_toDict (item : CatalogIgnoredFinding) :
    CatalogIgnoredFinding.fromDict item.toDict = some item := by
  have hignoredItemId : item.toDict.field? (py "ignored_item_id") =
      some (.str item.ignoredItemId.text) := rfl
  have hfindingId : item.toDict.field? (py "finding_id") = some (.str item.findingId.text) := rfl
  have hcategoryKey : item.toDict.field? (py "category_key") =
      some (.str item.categoryKey.text) := rfl
  have htitle : item.toDict.field? (py "title") = some (.str item.title.text) := rfl
  have hownerId : item.toDict.field? (py "owner_id") = some (optionalJson item.ownerId) := rfl
  have hownerLabel : item.toDict.field? (py "owner_label") =
      some (optionalJson item.ownerLabel) := rfl
  have hsourcePath : item.toDict.field? (py "source_path") =
      some (optionalJson item.sourcePath) := rfl
  have hrelativePath : item.toDict.field? (py "original_relative_path") =
      some (optionalJson item.originalRelativePath) := rfl
  have hreason : item.toDict.field? (py "reason") = some (.str item.reason.text) := rfl
  have hdetails : item.toDict.field? (py "details") = some item.details.toDict := rfl
  have hcreatedAt : item.toDict.field? (py "created_at") = some (.str item.createdAt.text) := rfl
  have hreleasedAt : item.toDict.field? (py "released_at") =
      some (optionalJson item.releasedAt) := rfl
  have hstate : item.toDict.field? (py "state") = some (.str item.state.text) := rfl
  simp only [CatalogIgnoredFinding.fromDict, hignoredItemId, hfindingId, hcategoryKey, htitle,
    hownerId, hownerLabel, hsourcePath, hrelativePath, hreason, hdetails, hcreatedAt, hreleasedAt,
    hstate, Option.bind_eq_bind, Option.bind_some, Option.getD_some, JsonValue.toStr?_str,
    JsonStr.read_text, toOptionalStr?_optionalJson, detailsFromDict_toDict, stateOf_text]
  rfl

/-- What was saved is loaded. -/
theorem load_save (items : List CatalogIgnoredFinding) :
    loadIgnoredFindings (some (saveIgnoredFindings items)) = some items := by
  have hitems : (saveIgnoredFindings items).field? (py "items") =
      some (.list (items.map CatalogIgnoredFinding.toDict)) := rfl
  have hfilter : (items.map CatalogIgnoredFinding.toDict).filter JsonValue.isObject =
      items.map CatalogIgnoredFinding.toDict := by
    rw [List.filter_eq_self]
    intro row hrow
    obtain ⟨item, -, rfl⟩ := List.mem_map.mp hrow
    rfl
  rw [saveIgnoredFindings] at hitems ⊢
  simp only [loadIgnoredFindings, hitems, hfilter]
  rw [mapM_eq_some_iff, List.map_map]
  exact List.map_congr_left fun item _ => fromDict_toDict item

end Files

/-! ## What a call does to the items -/

/-- Whether an item is the other one, or that one released. -/
def Kept (earlier later : CatalogIgnoredFinding) : Prop :=
  later = earlier ∨ earlier.isActive = true ∧ ∃ releasedAt, later = earlier.release releasedAt

/-- Every earlier item is still at its place. -/
def Continues (earlier later : List CatalogIgnoredFinding) : Prop :=
  ∀ (i : Nat) (item : CatalogIgnoredFinding), earlier[i]? = some item →
    ∃ kept, later[i]? = some kept ∧ Kept item kept

section Items

variable {items earlier middle later : List CatalogIgnoredFinding} {findingId : JsonStr}

theorem Kept.trans {a b c : CatalogIgnoredFinding} (hab : Kept a b) (hbc : Kept b c) :
    Kept a c := by
  rcases hab with rfl | ⟨hactive, releasedAt, rfl⟩
  · exact hbc
  · rcases hbc with rfl | ⟨hreleased, -⟩
    · exact .inr ⟨hactive, releasedAt, rfl⟩
    · cases hreleased

theorem Continues.refl (items : List CatalogIgnoredFinding) : Continues items items :=
  fun _ item hitem => ⟨item, hitem, .inl rfl⟩

theorem Continues.trans (h : Continues earlier middle) (h' : Continues middle later) :
    Continues earlier later := by
  intro i item hitem
  obtain ⟨kept, hkept, hfirst⟩ := h i item hitem
  obtain ⟨kept', hkept', hsecond⟩ := h' i kept hkept
  exact ⟨kept', hkept', hfirst.trans hsecond⟩

theorem continues_append (items new : List CatalogIgnoredFinding) :
    Continues items (items ++ new) := by
  intro i item hitem
  have hlength := (List.getElem?_eq_some_iff.mp hitem).1
  exact ⟨item, by rw [List.getElem?_append_left hlength, hitem], .inl rfl⟩

theorem mem_activeFindingIds : findingId ∈ activeFindingIds items ↔
    ∃ item ∈ items, item.isActive = true ∧ item.findingId = findingId := by
  simp only [activeFindingIds, List.mem_map, List.mem_filter, and_assoc]

theorem activeFindingIds_append : activeFindingIds (earlier ++ later) =
    activeFindingIds earlier ++ activeFindingIds later := by
  rw [activeFindingIds, List.filter_append, List.map_append]
  rfl

/-! ### Ignoring -/

/-- What one pass of the loop keeps: the dictionary has the active ids, and each only once. -/
structure IgnoreProgress.Sound (progress : IgnoreProgress) : Prop where
  nodup : (activeFindingIds progress.existing).Nodup
  keys : ∀ findingId, findingId ∈ progress.byFindingId ↔
    findingId ∈ activeFindingIds progress.existing

theorem activeFindingIds_item (request : IgnoreRequest) :
    activeFindingIds [request.item] = [request.findingId] := rfl

theorem next_cases (progress : IgnoreProgress) (request : IgnoreRequest) :
    (progress.next request = progress ∧
      (request.findingId.text = [] ∨ request.findingId ∈ progress.byFindingId)) ∨
    (request.findingId.text ≠ [] ∧ request.findingId ∉ progress.byFindingId ∧
      progress.next request = ⟨progress.existing ++ [request.item],
        request.findingId :: progress.byFindingId, progress.created + 1⟩) := by
  unfold IgnoreProgress.next
  split
  · next h => exact .inl ⟨rfl, h⟩
  · next h =>
      rw [not_or] at h
      exact .inr ⟨h.1, h.2, rfl⟩

theorem IgnoreProgress.Sound.next {progress : IgnoreProgress} (h : progress.Sound)
    (request : IgnoreRequest) : (progress.next request).Sound := by
  rcases next_cases progress request with ⟨heq, -⟩ | ⟨-, hnew, heq⟩
  · rw [heq]
    exact h
  · rw [heq]
    refine ⟨?_, fun findingId => ?_⟩
    · rw [activeFindingIds_append, activeFindingIds_item, List.nodup_append_comm,
        List.singleton_append, List.nodup_cons]
      exact ⟨fun hmem => hnew ((h.keys _).mpr hmem), h.nodup⟩
    · rw [activeFindingIds_append, activeFindingIds_item, List.mem_append, List.mem_singleton,
        List.mem_cons, h.keys, or_comm]

/-- One pass makes the id of its request active. -/
theorem mem_next {progress : IgnoreProgress} (h : progress.Sound) (request : IgnoreRequest) :
    findingId ∈ activeFindingIds (progress.next request).existing ↔
      findingId ∈ activeFindingIds progress.existing ∨
        findingId = request.findingId ∧ findingId.text ≠ [] := by
  rcases next_cases progress request with ⟨heq, hskip⟩ | ⟨hne, -, heq⟩
  · rw [heq]
    refine (or_iff_left_of_imp ?_).symm
    rintro ⟨rfl, hne⟩
    rcases hskip with hblank | hmem
    · exact absurd hblank hne
    · exact (h.keys _).mp hmem
  · rw [heq, activeFindingIds_append, activeFindingIds_item, List.mem_append, List.mem_singleton]
    refine or_congr_right ⟨fun hid => ⟨hid, hid ▸ hne⟩, fun hid => hid.1⟩

/-- The items after a batch. -/
theorem ignoreItems_spec (hnodup : (activeFindingIds items).Nodup) (requests : List IgnoreRequest) :
    (activeFindingIds (ignoreItems items requests).existing).Nodup ∧
      (∀ findingId, findingId ∈ activeFindingIds (ignoreItems items requests).existing ↔
        findingId ∈ activeFindingIds items ∨
          findingId ∈ (requests.map IgnoreRequest.findingId).filter fun id => id.text ≠ []) ∧
      ∃ new, (ignoreItems items requests).existing = items ++ new ∧
        new.length = (ignoreItems items requests).created := by
  have hloop : ∀ progress : IgnoreProgress, progress.Sound →
      (requests.foldl IgnoreProgress.next progress).Sound ∧
      (∀ findingId, findingId ∈ activeFindingIds (requests.foldl IgnoreProgress.next
          progress).existing ↔ findingId ∈ activeFindingIds progress.existing ∨
        findingId ∈ (requests.map IgnoreRequest.findingId).filter fun id => id.text ≠ []) ∧
      ∃ new, (requests.foldl IgnoreProgress.next progress).existing = progress.existing ++ new ∧
        progress.created + new.length =
          (requests.foldl IgnoreProgress.next progress).created := by
    induction requests with
    | nil =>
        intro progress hsound
        exact ⟨hsound, fun findingId => by simp, [], by simp, rfl⟩
    | cons request requests ih =>
        intro progress hsound
        obtain ⟨hafter, hmem, new, hnew, hcreated⟩ := ih _ (hsound.next request)
        refine ⟨hafter, fun findingId => ?_, ?_⟩
        · rw [List.foldl_cons, hmem, mem_next hsound, or_assoc]
          simp only [List.map_cons, List.mem_filter, List.mem_cons, decide_eq_true_eq, ne_eq]
          tauto
        · rw [List.foldl_cons, hnew, ← hcreated]
          rcases next_cases progress request with ⟨heq, -⟩ | ⟨-, -, heq⟩
          · rw [heq]
            exact ⟨new, rfl, rfl⟩
          · rw [heq]
            refine ⟨request.item :: new, ?_, ?_⟩
            · rw [List.append_assoc, List.singleton_append]
            · show progress.created + (new.length + 1) = progress.created + 1 + new.length
              omega
  obtain ⟨hsound, hmem, new, hnew, hcreated⟩ :=
    hloop ⟨items, activeFindingIds items, 0⟩ ⟨hnodup, fun _ => Iff.rfl⟩
  exact ⟨hsound.nodup, hmem, new, hnew, by rw [← Nat.zero_add new.length]; exact hcreated⟩

/-! ### Releasing -/

variable {request : ReleaseRequest}

theorem continues_releaseItems (request : ReleaseRequest) (now : Nat → JsonStr)
    (items : List CatalogIgnoredFinding) : Continues items (releaseItems request now items) := by
  induction items generalizing now with
  | nil => exact .refl []
  | cons first items ih =>
      intro i item hitem
      cases i with
      | succ i => exact ih _ i item hitem
      | zero =>
          cases hitem
          refine ⟨_, rfl, ?_⟩
          split
          · next hcovers => exact .inr ⟨(Bool.and_eq_true_iff.mp hcovers).1, now 0, rfl⟩
          · exact .inl rfl

/-- The active items that are left are those the request does not cover. -/
theorem activeFindingIds_releaseItems (request : ReleaseRequest) (now : Nat → JsonStr)
    (items : List CatalogIgnoredFinding) :
    activeFindingIds (releaseItems request now items) =
      ((items.filter fun item => item.isActive && !request.covers item).map
        CatalogIgnoredFinding.findingId) := by
  unfold activeFindingIds
  induction items generalizing now with
  | nil => rfl
  | cons item items ih =>
      rw [releaseItems, List.filter_cons, List.filter_cons]
      by_cases hcovers : request.covers item = true
      · have hreleased : (item.release (now 0)).isActive = false := rfl
        simp only [hcovers, if_true, hreleased, Bool.false_eq_true, if_false, Bool.not_true,
          Bool.and_false]
        exact ih _
      · rw [Bool.not_eq_true] at hcovers
        simp only [hcovers, Bool.false_eq_true, if_false, Bool.not_false, Bool.and_true]
        split
        · rw [List.map_cons, List.map_cons, ih]
        · exact ih _

theorem nodup_releaseItems (hnodup : (activeFindingIds items).Nodup) (now : Nat → JsonStr) :
    (activeFindingIds (releaseItems request now items)).Nodup := by
  rw [activeFindingIds_releaseItems]
  refine hnodup.sublist (List.Sublist.map _ ?_)
  exact List.monotone_filter_right items fun item h => (Bool.and_eq_true_iff.mp h).1

/-- A covered item is the only active one of its finding. -/
theorem mem_releaseItems (hnodup : (activeFindingIds items).Nodup) (now : Nat → JsonStr) :
    findingId ∈ activeFindingIds (releaseItems request now items) ↔
      findingId ∈ activeFindingIds items ∧
        findingId ∉ (items.filter request.covers).map CatalogIgnoredFinding.findingId := by
  rw [activeFindingIds_releaseItems, mem_activeFindingIds]
  simp only [List.mem_map, List.mem_filter, Bool.and_eq_true, Bool.not_eq_true']
  constructor
  · rintro ⟨item, ⟨hitem, hactive, hleft⟩, rfl⟩
    refine ⟨⟨item, hitem, hactive, rfl⟩, ?_⟩
    rintro ⟨other, ⟨hother, hcovers⟩, hsame⟩
    have hfirst : item ∈ items.filter CatalogIgnoredFinding.isActive :=
      List.mem_filter.mpr ⟨hitem, hactive⟩
    have hsecond : other ∈ items.filter CatalogIgnoredFinding.isActive :=
      List.mem_filter.mpr ⟨hother, (Bool.and_eq_true_iff.mp hcovers).1⟩
    rw [List.inj_on_of_nodup_map hnodup hsecond hfirst hsame, hleft] at hcovers
    cases hcovers
  · rintro ⟨⟨item, hitem, hactive, rfl⟩, hother⟩
    refine ⟨item, ⟨hitem, hactive, ?_⟩, rfl⟩
    rw [← Bool.not_eq_true]
    exact fun hcovers => hother ⟨item, ⟨hitem, hcovers⟩, rfl⟩

end Items

/-! ## Runs -/

/-- The findings a call that returns ignores, and those whose items it releases. -/
def IgnoredFindingsCall.turns (file : Option JsonValue) (call : IgnoredFindingsCall) :
    List (Turn JsonStr) :=
  if call.stopped then []
  else
    match call.operation, loadIgnoredFindings file with
    | _, none => []
    | .ignore requests, some _ =>
        ((requests.map IgnoreRequest.findingId).filter fun id => id.text ≠ []).map (⟨·, true⟩)
    | .release request _, some items =>
        ((items.filter request.covers).map CatalogIgnoredFinding.findingId).map (⟨·, false⟩)

def turnsFrom (file : Option JsonValue) : List IgnoredFindingsCall → List (Turn JsonStr)
  | [] => []
  | call :: calls => call.turns file ++ turnsFrom (fileAfterCall file call) calls

/-- What the last call that returned and was about a finding did: `true` if it ignored it. -/
def lastOperation (calls : List IgnoredFindingsCall) (findingId : JsonStr) : Option Bool :=
  Turn.last (turnsFrom none calls) findingId

section Runs

variable {file : Option JsonValue} {items : List CatalogIgnoredFinding}

/-- What every call keeps: the file can be read, and no finding has two active items. -/
def Logged (file : Option JsonValue) (items : List CatalogIgnoredFinding) : Prop :=
  loadIgnoredFindings file = some items ∧ (activeFindingIds items).Nodup

/-- One call: earlier items stay, and the active findings are turned on and off. -/
theorem call_spec (h : Logged file items) (call : IgnoredFindingsCall) :
    ∃ after, Logged (fileAfterCall file call) after ∧ Continues items after ∧
      ∀ findingId, findingId ∈ activeFindingIds after ↔
        findingId ∈ Turn.replay {id | id ∈ activeFindingIds items} (call.turns file) := by
  obtain ⟨hload, hnodup⟩ := h
  unfold fileAfterCall IgnoredFindingsCall.run IgnoredFindingsCall.turns
  by_cases hstopped : call.stopped = true
  · simp only [if_pos hstopped]
    exact ⟨items, ⟨hload, hnodup⟩, .refl items, fun findingId => Iff.rfl⟩
  · simp only [if_neg hstopped]
    cases call.operation with
    | ignore requests =>
        obtain ⟨hafter, hmem, new, hnew, -⟩ := ignoreItems_spec hnodup requests
        refine ⟨(ignoreItems items requests).existing, ⟨?_, hafter⟩, ?_, fun findingId => ?_⟩
        · simp only [ignoreFindings, hload, Option.bind_eq_bind, Option.bind_some]
          exact load_save _
        · rw [hnew]
          exact continues_append items new
        · rw [hmem, hload, Turn.mem_replay_on]
          rfl
    | release request now =>
        refine ⟨releaseItems request now items, ⟨?_, nodup_releaseItems hnodup now⟩,
          continues_releaseItems request now items, fun findingId => ?_⟩
        · simp only [releaseIgnoredFindings, hload, Option.bind_eq_bind, Option.bind_some]
          exact load_save _
        · rw [mem_releaseItems hnodup, hload, Turn.mem_replay_off]
          rfl

/-- A list of calls does the same, whatever the file was. -/
theorem run_spec (h : Logged file items) (calls : List IgnoredFindingsCall) :
    ∃ after, Logged (calls.foldl fileAfterCall file) after ∧ Continues items after ∧
      ∀ findingId, findingId ∈ activeFindingIds after ↔
        findingId ∈ Turn.replay {id | id ∈ activeFindingIds items} (turnsFrom file calls) := by
  induction calls generalizing file items with
  | nil => exact ⟨items, h, .refl items, fun findingId => Iff.rfl⟩
  | cons call calls ih =>
      obtain ⟨middle, hmiddle, hfirst, hstep⟩ := call_spec h call
      obtain ⟨after, hafter, hsecond, hrest⟩ := ih hmiddle
      refine ⟨after, hafter, hfirst.trans hsecond, fun findingId => ?_⟩
      have hset : {id | id ∈ activeFindingIds middle} =
          Turn.replay {id | id ∈ activeFindingIds items} (call.turns file) := Set.ext hstep
      rw [hrest, hset, turnsFrom, Turn.replay_append]

theorem logged_none : Logged none [] :=
  ⟨rfl, List.nodup_nil⟩

/-- After every list of calls no finding has two active items, the active ones are those that
were last ignored, and the items of every earlier file are still at their places, where an item
that was released stays so. -/
theorem ignored_findings_log (calls : List IgnoredFindingsCall) :
    ∃ items, loadIgnoredFindings (fileAfter calls) = some items ∧
      (activeFindingIds items).Nodup ∧
      (∀ findingId, findingId ∈ activeFindingIds items ↔
        lastOperation calls findingId = some true) ∧
      ∀ before, before <+: calls → ∃ earlier,
        loadIgnoredFindings (fileAfter before) = some earlier ∧ Continues earlier items ∧
          ∀ (i : Nat) (item : CatalogIgnoredFinding), earlier[i]? = some item →
            item.state = .released → items[i]? = some item := by
  obtain ⟨items, ⟨hload, hnodup⟩, -, hactive⟩ := run_spec logged_none calls
  refine ⟨items, hload, hnodup, fun findingId => ?_, fun before hbefore => ?_⟩
  · have hempty : {id | id ∈ activeFindingIds []} = (∅ : Set JsonStr) :=
      Set.eq_empty_of_forall_notMem fun id hid => nomatch hid
    rw [hactive, hempty, lastOperation, Turn.mem_replay_empty]
  · obtain ⟨later, rfl⟩ := hbefore
    obtain ⟨earlier, hearlier, -, -⟩ := run_spec logged_none before
    obtain ⟨found, ⟨hfound, -⟩, hcontinues, -⟩ := run_spec hearlier later
    rw [← List.foldl_append] at hfound
    have hsame : found = items := Option.some.inj (hfound.symm.trans hload)
    rw [hsame] at hcontinues
    refine ⟨earlier, hearlier.1, hcontinues, fun i item hitem hreleased => ?_⟩
    obtain ⟨kept, hkept, hsame | ⟨hactive, -⟩⟩ := hcontinues i item hitem
    · rw [hkept, hsame]
    · rw [CatalogIgnoredFinding.isActive, hreleased] at hactive
      cases hactive

end Runs

end ImmichDoctor.Catalog
