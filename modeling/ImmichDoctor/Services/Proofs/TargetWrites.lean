import ImmichDoctor.Services.BackupTargetJobs
/-!
# Writes to backup targets

A job saves a copy of the target it has loaded at its start, and every save rewrites the
document that was loaded before it. When each save finds the document and the target as they
were loaded, a deleted target stays deleted, and every field keeps the value of the last
request or job that is responsible for it.
-/

namespace ImmichDoctor.Services

open ImmichDoctor.Library
open ImmichDoctor.Backup

/-! ## Documents -/

section Documents

variable {targetId : TargetId} {target : BackupTargetConfig} {document : BackupTargetsDocument}

theorem findTarget_cons (item : BackupTargetConfig) (items : BackupTargetsDocument) :
    findTarget targetId (item :: items) =
      if item.targetId = targetId then some item else findTarget targetId items := by
  rw [findTarget, List.find?_cons]
  by_cases h : item.targetId = targetId
  · rw [if_pos h, decide_eq_true h]
  · rw [if_neg h, decide_eq_false h]
    rfl

theorem targetId_of_findTarget (h : findTarget targetId document = some target) :
    target.targetId = targetId := by
  have hfound := List.find?_some h
  exact of_decide_eq_true hfound

theorem findTarget_append :
    findTarget targetId (document ++ [target]) =
      (findTarget targetId document).or
        (if target.targetId = targetId then some target else none) := by
  have hlast : findTarget targetId [target] =
      if target.targetId = targetId then some target else none := findTarget_cons target []
  rw [← hlast]
  exact List.find?_append

theorem findTarget_filter (other : TargetId) :
    findTarget targetId (document.filter fun item => item.targetId ≠ other) =
      if targetId = other then none else findTarget targetId document := by
  induction document with
  | nil => exact (ite_self none).symm
  | cons item items ih =>
      by_cases hitem : item.targetId = other
      · rw [List.filter_cons_of_neg (by simpa using hitem), ih, findTarget_cons]
        by_cases hid : targetId = other
        · rw [if_pos hid, if_pos hid]
        · have hne : item.targetId ≠ targetId := fun heq => hid (heq.symm.trans hitem)
          rw [if_neg hid, if_neg hid, if_neg hne]
      · rw [List.filter_cons_of_pos (by simpa using hitem), findTarget_cons, findTarget_cons, ih]
        by_cases hid : item.targetId = targetId
        · have hne : targetId ≠ other := fun heq => hitem (hid.trans heq)
          rw [if_pos hid, if_pos hid, if_neg hne]
        · rw [if_neg hid, if_neg hid]

theorem findTarget_replaceTarget (hsome : (findTarget target.targetId document).isSome = true) :
    findTarget targetId (replaceTarget target document) =
      if targetId = target.targetId then some target else findTarget targetId document := by
  induction document with
  | nil => cases hsome
  | cons item items ih =>
      rw [replaceTarget]
      by_cases hitem : item.targetId = target.targetId
      · rw [if_pos hitem, findTarget_cons, findTarget_cons]
        by_cases hid : targetId = target.targetId
        · rw [if_pos hid, if_pos hid.symm]
        · have hne : item.targetId ≠ targetId := fun heq => hid (heq.symm.trans hitem)
          rw [if_neg hid, if_neg (fun heq => hid heq.symm), if_neg hne]
      · have hrest : (findTarget target.targetId items).isSome = true := by
          rw [findTarget_cons, if_neg hitem] at hsome
          exact hsome
        rw [if_neg hitem, findTarget_cons, findTarget_cons, ih hrest]
        by_cases hid : item.targetId = targetId
        · have hne : targetId ≠ target.targetId := fun heq => hitem (hid.trans heq)
          rw [if_pos hid, if_pos hid, if_neg hne]
        · rw [if_neg hid, if_neg hid]

theorem findTarget_putTarget :
    findTarget target.targetId (putTarget target document) = some target := by
  unfold putTarget
  split
  · next hsome => rw [findTarget_replaceTarget hsome, if_pos rfl]
  · next hnone =>
      rw [Bool.not_eq_true, Option.isSome_eq_false_iff, Option.isNone_iff_eq_none] at hnone
      rw [findTarget_append, hnone, if_pos rfl]
      rfl

theorem targetId_copyOf (write : TargetWrite) :
    (write.copyOf target).targetId = target.targetId := by
  cases write with
  | running => rfl
  | tested result => rfl
  | backedUp metadata => rfl

end Documents

/-- Both parts of a sequence that returns have returned. -/
theorem exists_of_bind_ok {ε α β : Type} {first : Except ε α} {rest : α → Except ε β} {b : β}
    (h : first >>= rest = .ok b) : ∃ a, first = .ok a ∧ rest a = .ok b := by
  cases first with
  | error e => cases h
  | ok a => exact ⟨a, rfl, h⟩

/-- What `_build_target` takes from the target there is. -/
theorem buildTarget_keeps {context : BuildContext} {payload : BackupTargetUpsertPayload}
    {existing : Option BackupTargetConfig} {target : BackupTargetConfig}
    (h : buildTarget context payload existing = .ok target) :
    target.targetId = (existing.map (·.targetId)).getD context.newTargetId ∧
      target.lastTestResult = existing.bind (·.lastTestResult) ∧
      target.lastSuccessfulBackup = existing.bind (·.lastSuccessfulBackup) := by
  unfold buildTarget at h
  obtain ⟨path, -, h⟩ := exists_of_bind_ok h
  obtain ⟨password, -, h⟩ := exists_of_bind_ok h
  obtain ⟨privateKey, -, h⟩ := exists_of_bind_ok h
  obtain ⟨_, -, h⟩ := exists_of_bind_ok h
  cases h
  exact ⟨rfl, rfl, rfl⟩

/-! ## Who writes what -/

namespace OperatorRequest

/-- The target the request is about. -/
def targetId : OperatorRequest → TargetId
  | createTarget context _ => context.newTargetId
  | updateTarget _ targetId _ | deleteTarget targetId => targetId

/-- The target the request puts into the document it has loaded. -/
def Builds (document : BackupTargetsDocument) (target : BackupTargetConfig) :
    OperatorRequest → Prop
  | createTarget context payload => buildTarget context payload none = .ok target
  | updateTarget context targetId payload =>
      ∃ existing, findTarget targetId document = some existing ∧
        buildTarget context payload (some existing) = .ok target
  | deleteTarget _ => False

theorem targetId_of_builds {request : OperatorRequest} {document : BackupTargetsDocument}
    {target : BackupTargetConfig} (h : request.Builds document target) :
    target.targetId = request.targetId := by
  cases request with
  | createTarget context payload => exact (buildTarget_keeps h).1
  | updateTarget context targetId payload =>
      obtain ⟨existing, hexisting, hbuild⟩ := h
      exact (buildTarget_keeps hbuild).1.trans (targetId_of_findTarget hexisting)
  | deleteTarget targetId => exact h.elim

theorem builds_unique {request : OperatorRequest} {document : BackupTargetsDocument}
    {target other : BackupTargetConfig} (htarget : request.Builds document target)
    (hother : request.Builds document other) : target = other := by
  cases request with
  | createTarget context payload => exact Except.ok.inj (htarget.symm.trans hother)
  | updateTarget context targetId payload =>
      obtain ⟨existing, hexisting, hbuild⟩ := htarget
      obtain ⟨same, hsame, hbuildOther⟩ := hother
      rw [hexisting] at hsame
      cases hsame
      exact Except.ok.inj (hbuild.symm.trans hbuildOther)
  | deleteTarget targetId => exact htarget.elim

/-- A request that is applied builds its target, or it is a deletion. -/
theorem cases_of_apply {request : OperatorRequest} {document saved : BackupTargetsDocument}
    (h : request.apply document = .ok saved) :
    (∃ target, request.Builds document target ∧
        (saved = document ++ [target] ∧
          (∃ context payload, request = .createTarget context payload) ∨
          saved = replaceTarget target document ∧
            (findTarget target.targetId document).isSome = true)) ∨
      request = .deleteTarget request.targetId ∧
        saved = document.filter fun target => target.targetId ≠ request.targetId := by
  cases request with
  | createTarget context payload =>
      left
      obtain ⟨target, hbuild, hsaved⟩ := exists_of_bind_ok h
      cases hsaved
      exact ⟨target, hbuild, Or.inl ⟨rfl, context, payload, rfl⟩⟩
  | updateTarget context targetId payload =>
      left
      simp only [apply] at h
      split at h
      · cases h
      · next existing hexisting =>
          obtain ⟨target, hbuild, hsaved⟩ := exists_of_bind_ok h
          cases hsaved
          have hid : target.targetId = targetId :=
            (buildTarget_keeps hbuild).1.trans (targetId_of_findTarget hexisting)
          refine ⟨target, ⟨existing, hexisting, hbuild⟩, Or.inr ⟨rfl, ?_⟩⟩
          rw [hid, hexisting]
          rfl
  | deleteTarget targetId =>
      right
      cases h
      exact ⟨rfl, rfl⟩

end OperatorRequest

/-- The fields that only an operator writes. -/
def configuredFields (target : BackupTargetConfig) : BackupTargetConfig :=
  { target with
    verificationStatus := .unknown
    lastTestResult := none
    lastSuccessfulBackup := none }

section Writes

variable (s : TargetSystem)

def TargetSystem.target (targetId : TargetId) : Option BackupTargetConfig :=
  findTarget targetId s.document

/-- The step saves what an operator wants of a target. -/
def OperatorWrites (targetId : TargetId) (label : TargetLabel) : Prop :=
  ∃ actor request document, label = .save actor ∧ s.actors actor = .loaded request document ∧
    request.targetId = targetId

/-- The step saves a target an operator has created or updated. -/
def Configures (target : BackupTargetConfig) (label : TargetLabel) : Prop :=
  ∃ actor request document, label = .save actor ∧ s.actors actor = .loaded request document ∧
    request.Builds document target

/-- The step deletes a target there is. -/
def Deletes (targetId : TargetId) (label : TargetLabel) : Prop :=
  (∃ actor document, label = .save actor ∧
    s.actors actor = .loaded (.deleteTarget targetId) document) ∧ (s.target targetId).isSome = true

/-- The step saves the copy of a target that a job has loaded. -/
def Reports (write : TargetWrite) (targetId : TargetId) (label : TargetLabel) : Prop :=
  ∃ actor target document, label = .save actor ∧
    s.actors actor = .replacing write target document ∧ target.targetId = targetId

/-- A save finds the document as it was loaded before it, and a job finds the target it saves as
it was loaded at its start, up to the verification status. -/
def WritesCurrent : TargetLabel → Prop
  | .save actor =>
      match s.actors actor with
      | .loaded _ document => document = s.document
      | .replacing _ target document =>
          document = s.document ∧ ∃ stored, s.target target.targetId = some stored ∧
            { target with verificationStatus := stored.verificationStatus } = stored
      | _ => True
  | _ => True

end Writes

/-! ## New ids -/

/-- The actor is about to create a target with the id. -/
def ActorPhase.Creates (targetId : TargetId) : ActorPhase → Prop
  | .requested (.createTarget context _) | .loaded (.createTarget context _) _ =>
      context.newTargetId = targetId
  | _ => False

/-- The ids of the targets and of those that are created are issued, and no id twice. -/
structure IdsIssued (s : TargetSystem) : Prop where
  document : ∀ targetId, (s.target targetId).isSome = true → targetId ∈ s.issued
  created : ∀ actor targetId, (s.actors actor).Creates targetId →
    s.target targetId = none ∧ targetId ∈ s.issued
  unique : ∀ a b targetId, (s.actors a).Creates targetId → (s.actors b).Creates targetId → a = b

/-- There is no target with the id, and there will not be one. -/
structure Gone (s : TargetSystem) (targetId : TargetId) : Prop where
  target : s.target targetId = none
  issued : targetId ∈ s.issued
  created : ∀ actor, ¬ (s.actors actor).Creates targetId

section Step

variable {s t : TargetSystem} {targetId : TargetId}

/-- What a save that finds everything as it was loaded does to a target. -/
theorem target_of_save {actor : Nat} (h : IdsIssued s) (hok : WritesCurrent s (.save actor))
    (hstep : s.step (.save actor) = some t) (targetId : TargetId) :
    t.target targetId = s.target targetId ∨
      (∃ request document, s.actors actor = .loaded request document ∧
        request.targetId = targetId ∧
          ((∃ built, request.Builds document built ∧ t.target targetId = some built ∧
              ((s.actors actor).Creates targetId ∧ s.target targetId = none ∨
                ∃ old, s.target targetId = some old ∧
                  built.lastTestResult = old.lastTestResult ∧
                  built.lastSuccessfulBackup = old.lastSuccessfulBackup)) ∨
            request = .deleteTarget targetId ∧ t.target targetId = none)) ∨
      ∃ write copy document stored, s.actors actor = .replacing write copy document ∧
        copy.targetId = targetId ∧ s.target targetId = some stored ∧
        { copy with verificationStatus := stored.verificationStatus } = stored ∧
        t.target targetId = some (write.copyOf copy) := by
  simp only [TargetSystem.step] at hstep
  obtain ⟨⟨saved, next⟩, hsaved, rfl⟩ := Option.map_eq_some_iff.mp hstep
  cases hphase : s.actors actor with
  | idle | requested request | entered method other | working method copy | saving write copy
  | starting method other =>
      rw [hphase] at hsaved
      cases hsaved
  | loaded request document =>
      have hcurrent : document = s.document := by
        rw [WritesCurrent, hphase] at hok
        exact hok
      subst hcurrent
      rw [hphase] at hsaved
      simp only [TargetSystem.savedDocument] at hsaved
      split at hsaved
      · cases hsaved
      next happly =>
      cases hsaved
      rcases OperatorRequest.cases_of_apply happly
        with ⟨built, hbuilds, hcases⟩ | ⟨hdelete, hfilter⟩
      · have hid : built.targetId = request.targetId := OperatorRequest.targetId_of_builds hbuilds
        rcases hcases with ⟨hsavedEq, context, payload, rfl⟩ | ⟨hsavedEq, hexists⟩
        · -- a created target is appended
          have hcreates : (s.actors actor).Creates context.newTargetId := by
            rw [hphase]
            exact rfl
          have hnone := (h.created actor _ hcreates).1
          by_cases heq : context.newTargetId = targetId
          · right; left
            subst heq
            refine ⟨_, _, rfl, rfl, Or.inl ⟨built, hbuilds, ?_, Or.inl ⟨hphase ▸ hcreates, hnone⟩⟩⟩
            have happend : findTarget context.newTargetId (s.document ++ [built]) = some built := by
              have hbefore : findTarget context.newTargetId s.document = none := hnone
              have hsame : built.targetId = context.newTargetId := hid
              rw [findTarget_append, hbefore, if_pos hsame]
              rfl
            rw [← hsavedEq] at happend
            exact happend
          · left
            have happend : findTarget targetId (s.document ++ [built]) =
                findTarget targetId s.document := by
              rw [findTarget_append, if_neg (fun hbuilt => heq (hid.symm.trans hbuilt)),
                Option.or_none]
            rw [← hsavedEq] at happend
            exact happend
        · -- an updated target is replaced
          have hreplace : findTarget targetId saved =
              if targetId = built.targetId then some built else findTarget targetId s.document := by
            rw [hsavedEq]
            exact findTarget_replaceTarget hexists
          by_cases heq : targetId = built.targetId
          · right; left
            rw [if_pos heq] at hreplace
            refine ⟨_, _, rfl, (heq.trans hid).symm, Or.inl ⟨built, hbuilds, hreplace, Or.inr ?_⟩⟩
            cases request with
            | createTarget context payload =>
                have hcreates : (s.actors actor).Creates context.newTargetId := by
                  rw [hphase]
                  exact rfl
                have hnone : findTarget built.targetId s.document = none := by
                  rw [hid]
                  exact (h.created actor _ hcreates).1
                rw [hnone] at hexists
                cases hexists
            | updateTarget context other payload =>
                obtain ⟨existing, hexisting, hbuild⟩ := hbuilds
                obtain ⟨-, htest, hbackup⟩ := buildTarget_keeps hbuild
                refine ⟨existing, ?_, htest, hbackup⟩
                rw [heq, hid]
                exact hexisting
            | deleteTarget other => exact hbuilds.elim
          · left
            rw [if_neg heq] at hreplace
            exact hreplace
      · -- a deleted target is filtered out
        have hremove : findTarget targetId saved =
            if targetId = request.targetId then none else findTarget targetId s.document := by
          rw [hfilter]
          exact findTarget_filter request.targetId
        by_cases heq : targetId = request.targetId
        · right; left
          rw [if_pos heq] at hremove
          exact ⟨_, _, rfl, heq.symm, Or.inr ⟨by rw [heq]; exact hdelete, hremove⟩⟩
        · left
          rw [if_neg heq] at hremove
          exact hremove
  | replacing write copy document =>
      rw [hphase] at hsaved
      cases hsaved
      rw [WritesCurrent, hphase] at hok
      obtain ⟨rfl, stored, hstored, hagree⟩ := hok
      have hid : (write.copyOf copy).targetId = copy.targetId := targetId_copyOf write
      have hexists : (findTarget (write.copyOf copy).targetId s.document).isSome = true := by
        rw [hid, show findTarget copy.targetId s.document = some stored from hstored]
        rfl
      have hreplace : findTarget targetId (putTarget (write.copyOf copy) s.document) =
          if targetId = copy.targetId then some (write.copyOf copy)
          else findTarget targetId s.document := by
        rw [putTarget, if_pos hexists, findTarget_replaceTarget hexists, hid]
      by_cases heq : targetId = copy.targetId
      · right; right
        rw [if_pos heq] at hreplace
        refine ⟨write, copy, _, stored, rfl, heq.symm, ?_, hagree, hreplace⟩
        rw [heq]
        exact hstored
      · left
        rw [if_neg heq] at hreplace
        exact hreplace

/-- Only a save changes the document. -/
theorem document_of_step {label : TargetLabel} (hstep : s.step label = some t)
    (hsave : ∀ actor, label ≠ .save actor) : t.document = s.document := by
  cases label with
  | request actor request =>
      simp only [TargetSystem.step] at hstep
      split at hstep
      · split at hstep
        · split at hstep
          · cases hstep
          · cases hstep
            rfl
        · cases hstep
          rfl
      · cases hstep
  | startValidation actor other | startExecution actor other =>
      simp only [TargetSystem.step] at hstep
      split at hstep
      · cases hstep
        rfl
      · cases hstep
  | load actor =>
      obtain ⟨phase, -, rfl⟩ := Option.map_eq_some_iff.mp hstep
      rfl
  | report actor write =>
      simp only [TargetSystem.step] at hstep
      split at hstep
      · split at hstep
        · cases hstep
          rfl
        · cases hstep
      · cases hstep
  | save actor => exact absurd rfl (hsave actor)
  | spawn actor job =>
      simp only [TargetSystem.step] at hstep
      split at hstep
      · cases hstep
        rfl
      · cases hstep
  | leave actor =>
      cases hstep
      rfl

/-- The request to create a target gets a new id, and no other step starts to create one. -/
theorem creates_of_step {label : TargetLabel} (hstep : s.step label = some t) :
    (∀ other ∈ s.issued, other ∈ t.issued) ∧
      ∀ actor other, (t.actors actor).Creates other →
        (s.actors actor).Creates other ∧ label ≠ .save actor ∨
          other ∉ s.issued ∧ other ∈ t.issued ∧ ∃ request, label = .request actor request := by
  have hmoved :
      ∀ {actor : Nat} {phase : ActorPhase}, t.actors = Function.update s.actors actor phase →
      t.issued = s.issued → (∀ other, phase.Creates other → (s.actors actor).Creates other) →
      (∀ other, phase.Creates other → label ≠ .save actor) →
      (∀ other, other ≠ actor → label ≠ .save other) →
      (∀ other ∈ s.issued, other ∈ t.issued) ∧
      ∀ actor other, (t.actors actor).Creates other →
        (s.actors actor).Creates other ∧ label ≠ .save actor ∨
          other ∉ s.issued ∧ other ∈ t.issued ∧ ∃ request, label = .request actor request := by
    intro actor phase hactors hissued hphase hself hothers
    refine ⟨fun other hother => by rw [hissued]; exact hother,
      fun mover other hcreates => Or.inl ?_⟩
    rw [hactors] at hcreates
    rcases of_update (ActorPhase.Creates other) hcreates with ⟨rfl, hnew⟩ | ⟨hne, hold⟩
    · exact ⟨hphase other hnew, hself other hnew⟩
    · exact ⟨hold, hothers mover hne⟩
  cases label with
  | request actor request =>
      simp only [TargetSystem.step] at hstep
      split at hstep
      · split at hstep
        · next context payload =>
            split at hstep
            · cases hstep
            · next hfresh =>
                cases hstep
                refine ⟨fun other hother => List.mem_cons_of_mem _ hother,
                  fun mover other hcreates => ?_⟩
                rcases of_update (ActorPhase.Creates other) hcreates with ⟨rfl, hnew⟩ | ⟨-, hold⟩
                · right
                  have hid : context.newTargetId = other := hnew
                  rw [← hid]
                  exact ⟨hfresh, List.mem_cons_self, _, rfl⟩
                · exact Or.inl ⟨hold, nofun⟩
        · next hother =>
            cases hstep
            refine hmoved rfl rfl (fun other hcreates => ?_) (fun _ _ => nofun) fun _ _ => nofun
            cases request with
            | createTarget context payload => exact absurd rfl (hother context payload)
            | updateTarget context targetId payload => exact hcreates.elim
            | deleteTarget targetId => exact hcreates.elim
      · cases hstep
  | startValidation actor other | startExecution actor other =>
      simp only [TargetSystem.step] at hstep
      split at hstep
      · cases hstep
        exact hmoved rfl rfl (fun _ hno => hno.elim) (fun _ _ => nofun) fun _ _ => nofun
      · cases hstep
  | load actor =>
      obtain ⟨phase, hphase, rfl⟩ := Option.map_eq_some_iff.mp hstep
      refine hmoved rfl rfl (fun other hcreates => ?_) (fun _ _ => nofun) fun _ _ => nofun
      unfold TargetSystem.loadedPhase at hphase
      split at hphase
      · next request hrequested =>
          cases hphase
          rw [hrequested]
          cases request with
          | createTarget context payload => exact hcreates
          | updateTarget context targetId payload => exact hcreates
          | deleteTarget targetId => exact hcreates
      · split at hphase
        · cases hphase
        · cases hphase
          split at hcreates <;> exact hcreates.elim
      · cases hphase
        exact hcreates.elim
      · cases hphase
  | report actor write =>
      simp only [TargetSystem.step] at hstep
      split at hstep
      · split at hstep
        · cases hstep
          exact hmoved rfl rfl (fun _ hno => hno.elim) (fun _ _ => nofun) fun _ _ => nofun
        · cases hstep
      · cases hstep
  | save actor =>
      obtain ⟨⟨saved, next⟩, hsaved, rfl⟩ := Option.map_eq_some_iff.mp hstep
      have hnext : ∀ other, ¬ next.Creates other := by
        unfold TargetSystem.savedDocument at hsaved
        split at hsaved
        · split at hsaved
          · cases hsaved
          · cases hsaved
            exact fun _ hno => hno
        · next write copy document hphase =>
            cases hsaved
            cases write with
            | running | tested result | backedUp metadata => exact fun _ hno => hno
        · cases hsaved
      refine hmoved rfl rfl (fun other hcreates => absurd hcreates (hnext other))
        (fun other hcreates => absurd hcreates (hnext other)) fun other hne heq => ?_
      cases heq
      exact hne rfl
  | spawn actor job =>
      simp only [TargetSystem.step] at hstep
      split at hstep
      · cases hstep
        refine ⟨fun _ hother => hother, fun mover other hcreates => Or.inl ?_⟩
        rcases of_update (ActorPhase.Creates other) hcreates with ⟨-, hno⟩ | ⟨-, hcreates⟩
        · exact hno.elim
        · rcases of_update (ActorPhase.Creates other) hcreates with ⟨-, hno⟩ | ⟨-, hold⟩
          · exact hno.elim
          · exact ⟨hold, nofun⟩
      · cases hstep
  | leave actor =>
      cases hstep
      exact hmoved rfl rfl (fun _ hno => hno.elim) (fun _ _ => nofun) fun _ _ => nofun

/-- Only a save changes a target. -/
theorem target_of_step {label : TargetLabel} (hstep : s.step label = some t)
    (hsave : ∀ actor, label ≠ .save actor) (targetId : TargetId) :
    t.target targetId = s.target targetId := by
  rw [TargetSystem.target, TargetSystem.target, document_of_step hstep hsave]

/-- A target that is not there is put there only by the actor that creates it. -/
theorem target_eq_none_of_step {label : TargetLabel} (h : IdsIssued s) (hok : WritesCurrent s label)
    (hstep : s.step label = some t) (hnone : s.target targetId = none)
    (hcreates : ∀ actor, label = .save actor → ¬ (s.actors actor).Creates targetId) :
    t.target targetId = none := by
  by_cases hsave : ∃ actor, label = .save actor
  · obtain ⟨actor, rfl⟩ := hsave
    rcases target_of_save h hok hstep targetId with hsame |
      ⟨request, document, hphase, -, ⟨built, -, -, hbuilt⟩ | ⟨-, hdeleted⟩⟩ |
      ⟨write, copy, document, stored, -, -, hstored, -⟩
    · rw [hsame]
      exact hnone
    · rcases hbuilt with ⟨hcreating, -⟩ | ⟨old, hold, -⟩
      · exact absurd hcreating (hcreates actor rfl)
      · rw [hnone] at hold
        cases hold
    · exact hdeleted
    · rw [hnone] at hstored
      cases hstored
  · rw [target_of_step hstep (fun actor heq => hsave ⟨actor, heq⟩)]
    exact hnone

theorem IdsIssued.step {label : TargetLabel} (h : IdsIssued s) (hok : WritesCurrent s label)
    (hstep : s.step label = some t) : IdsIssued t := by
  obtain ⟨hissued, hcreates⟩ := creates_of_step hstep
  refine ⟨fun targetId hsome => ?_, fun actor targetId hcreating => ?_,
    fun a b targetId hcreatesA hcreatesB => ?_⟩
  · by_contra hnot
    have hbefore : s.target targetId = none := by
      cases hold : s.target targetId with
      | none => rfl
      | some old => exact absurd (hissued targetId (h.document targetId (by rw [hold]; rfl))) hnot
    have hafter : t.target targetId = none :=
      target_eq_none_of_step h hok hstep hbefore fun actor _ hcreating =>
        hnot (hissued targetId (h.created actor targetId hcreating).2)
    rw [hafter] at hsome
    cases hsome
  · rcases hcreates actor targetId hcreating with ⟨hold, hother⟩ | ⟨hfresh, hnew, request, hlabel⟩
    · obtain ⟨hnone, hissuedBefore⟩ := h.created actor targetId hold
      refine ⟨target_eq_none_of_step h hok hstep hnone ?_, hissued targetId hissuedBefore⟩
      rintro other rfl hcreatesOther
      exact hother (congrArg TargetLabel.save (h.unique other actor targetId hcreatesOther hold))
    · refine ⟨?_, hnew⟩
      rw [target_of_step hstep (fun _ heq => by rw [hlabel] at heq; cases heq)]
      cases hold : s.target targetId with
      | none => rfl
      | some old => exact absurd (h.document targetId (by rw [hold]; rfl)) hfresh
  · rcases hcreates a targetId hcreatesA with ⟨holdA, -⟩ | ⟨hfreshA, -, requestA, hlabelA⟩
    · rcases hcreates b targetId hcreatesB with ⟨holdB, -⟩ | ⟨hfreshB, -⟩
      · exact h.unique a b targetId holdA holdB
      · exact absurd (h.created a targetId holdA).2 hfreshB
    · rcases hcreates b targetId hcreatesB with ⟨holdB, -⟩ | ⟨-, -, requestB, hlabelB⟩
      · exact absurd (h.created b targetId holdB).2 hfreshA
      · rw [hlabelA] at hlabelB
        cases hlabelB
        rfl

theorem Gone.step {label : TargetLabel} (hgone : Gone s targetId) (h : IdsIssued s)
    (hok : WritesCurrent s label) (hstep : s.step label = some t) : Gone t targetId := by
  obtain ⟨hissued, hcreates⟩ := creates_of_step hstep
  refine ⟨?_, hissued targetId hgone.issued, fun actor hcreating => ?_⟩
  · exact target_eq_none_of_step h hok hstep hgone.target fun actor _ => hgone.created actor
  · rcases hcreates actor targetId hcreating with ⟨hold, -⟩ | ⟨hfresh, -⟩
    · exact hgone.created actor hold
    · exact hfresh hgone.issued

/-- After the save of a deletion there is no such target. -/
theorem gone_of_deletes {label : TargetLabel} (h : IdsIssued s) (hok : WritesCurrent s label)
    (hstep : s.step label = some t) (hdeletes : Deletes s targetId label) : Gone t targetId := by
  obtain ⟨⟨actor, document, rfl, hphase⟩, hsome⟩ := hdeletes
  have hnobody : ∀ other, ¬ (s.actors other).Creates targetId := by
    intro other hcreates
    rw [(h.created other targetId hcreates).1] at hsome
    cases hsome
  obtain ⟨hissued, hcreates⟩ := creates_of_step hstep
  refine ⟨?_, hissued targetId (h.document targetId hsome), fun other hcreating => ?_⟩
  · simp only [TargetSystem.step, hphase] at hstep
    cases hstep
    rw [WritesCurrent, hphase] at hok
    have hfilter : findTarget targetId (document.filter fun item => item.targetId ≠ targetId) =
        if targetId = targetId then none else findTarget targetId document :=
      findTarget_filter targetId
    rw [if_pos rfl] at hfilter
    exact hfilter
  · rcases hcreates other targetId hcreating with ⟨hold, -⟩ | ⟨-, -, request, hlabel⟩
    · exact hnobody other hold
    · cases hlabel

/-! ## Fields -/

/-- A field of the target is kept, or the target is deleted. -/
def FieldKept {β : Type} (field : BackupTargetConfig → β) (targetId : TargetId)
    (s t : TargetSystem) : Prop :=
  ∀ stored, s.target targetId = some stored →
    ∃ kept, t.target targetId = some kept ∧ field kept = field stored

theorem FieldKept.of_target_eq {β : Type} {field : BackupTargetConfig → β}
    (h : t.target targetId = s.target targetId) : FieldKept field targetId s t :=
  fun stored hstored => ⟨stored, h.trans hstored, rfl⟩

/-- Only an operator changes what an operator configures. -/
theorem configured_kept {label : TargetLabel} (h : IdsIssued s) (hok : WritesCurrent s label)
    (hstep : s.step label = some t) (hother : ¬ OperatorWrites s targetId label) :
    FieldKept configuredFields targetId s t := by
  by_cases hsave : ∃ actor, label = .save actor
  · obtain ⟨actor, rfl⟩ := hsave
    rcases target_of_save h hok hstep targetId with hsame |
      ⟨request, document, hphase, hid, -⟩ |
      ⟨write, copy, document, stored, -, -, hstored, hagree, hafter⟩
    · exact .of_target_eq hsame
    · exact absurd ⟨actor, request, document, rfl, hphase, hid⟩ hother
    · intro before hbefore
      rw [hstored] at hbefore
      cases hbefore
      refine ⟨_, hafter, ?_⟩
      rw [← hagree]
      cases write with
      | running | tested result | backedUp metadata => rfl
  · exact .of_target_eq (target_of_step hstep (fun actor heq => hsave ⟨actor, heq⟩) targetId)

/-- A field of the jobs that requests keep is changed only by the copies that set it. -/
theorem field_kept {β : Type} {field : BackupTargetConfig → Option β} {label : TargetLabel}
    (h : IdsIssued s) (hok : WritesCurrent s label) (hstep : s.step label = some t)
    (hbuilt : ∀ built old : BackupTargetConfig, built.lastTestResult = old.lastTestResult →
      built.lastSuccessfulBackup = old.lastSuccessfulBackup → field built = field old)
    (hcopy : ∀ write, Reports s write targetId label → ∀ copy : BackupTargetConfig,
      field (write.copyOf copy) = field copy) :
    FieldKept field targetId s t ∨ Deletes s targetId label := by
  by_cases hsave : ∃ actor, label = .save actor
  · obtain ⟨actor, rfl⟩ := hsave
    rcases target_of_save h hok hstep targetId with hsame |
      ⟨request, document, hphase, -, ⟨built, -, hafter, hcases⟩ | ⟨rfl, -⟩⟩ |
      ⟨write, copy, document, stored, hphase, hid, hstored, hagree, hafter⟩
    · exact Or.inl (.of_target_eq hsame)
    · left
      intro stored hstored
      rcases hcases with ⟨-, hnone⟩ | ⟨old, hold, htest, hbackup⟩
      · rw [hnone] at hstored
        cases hstored
      · rw [hold] at hstored
        cases hstored
        exact ⟨built, hafter, hbuilt built _ htest hbackup⟩
    · cases hstored : s.target targetId with
      | none =>
          left
          intro stored hsome
          rw [hstored] at hsome
          cases hsome
      | some stored => exact Or.inr ⟨⟨actor, document, rfl, hphase⟩, by rw [hstored]; rfl⟩
    · left
      intro before hbefore
      rw [hstored] at hbefore
      cases hbefore
      refine ⟨_, hafter, (hcopy write ⟨actor, copy, document, rfl, hphase, hid⟩ copy).trans ?_⟩
      have htest : copy.lastTestResult = stored.lastTestResult := by
        rw [← hagree]
      have hbackup : copy.lastSuccessfulBackup = stored.lastSuccessfulBackup := by
        rw [← hagree]
      exact hbuilt copy stored htest hbackup
  · exact Or.inl (.of_target_eq
      (target_of_step hstep (fun actor heq => hsave ⟨actor, heq⟩) targetId))

end Step

theorem idsIssued_start (document : BackupTargetsDocument) :
    IdsIssued (TargetSystem.start document) where
  document := by
    intro targetId hsome
    obtain ⟨target, htarget⟩ := Option.isSome_iff_exists.mp hsome
    exact List.mem_map.mpr
      ⟨target, List.mem_of_find?_eq_some htarget, targetId_of_findTarget htarget⟩
  created := fun _ _ hcreates => hcreates.elim
  unique := fun _ _ _ hcreates => hcreates.elim

/-! ## Runs -/

section Runs

variable {s t u : TargetSystem} {targetId : TargetId} {first rest : List TargetLabel}

theorem IdsIssued.of_run (h : IdsIssued s)
    (hrun : Steps TargetSystem.step WritesCurrent s first t) : IdsIssued t :=
  hrun.invariant (fun _ _ _ hok hstep hs => hs.step hok hstep) h

/-- A target that is gone stays gone. -/
theorem Gone.of_run (hgone : Gone s targetId) (h : IdsIssued s)
    (hrun : Steps TargetSystem.step WritesCurrent s first t) : Gone t targetId := by
  induction hrun with
  | refl s => exact hgone
  | head hok hstep _ ih => exact ih (hgone.step h hok hstep) (h.step hok hstep)

/-- What an operator configures is kept until an operator writes the target again. -/
theorem configured_kept_of_run (h : IdsIssued s)
    (hrun : Steps TargetSystem.step
      (fun s label => WritesCurrent s label ∧ ¬ OperatorWrites s targetId label) s first t) :
    FieldKept configuredFields targetId s t := by
  induction hrun with
  | refl s => exact .of_target_eq rfl
  | head hok hstep _ ih =>
      intro stored hstored
      obtain ⟨next, hnext, hsame⟩ := configured_kept h hok.1 hstep hok.2 stored hstored
      obtain ⟨kept, hkept, heq⟩ := ih (h.step hok.1 hstep) next hnext
      exact ⟨kept, hkept, heq.trans hsame⟩

/-- A field of the jobs is kept until one of the copies that set it is saved. -/
theorem field_kept_of_run {β : Type} {field : BackupTargetConfig → Option β}
    (sets : TargetWrite → Prop) (h : IdsIssued s)
    (hbuilt : ∀ built old : BackupTargetConfig, built.lastTestResult = old.lastTestResult →
      built.lastSuccessfulBackup = old.lastSuccessfulBackup → field built = field old)
    (hcopy : ∀ write, ¬ sets write → ∀ copy : BackupTargetConfig,
      field (write.copyOf copy) = field copy)
    (hrun : Steps TargetSystem.step (fun s label => WritesCurrent s label ∧
      ∀ write, sets write → ¬ Reports s write targetId label) s first t) :
    FieldKept field targetId s t ∨ Gone t targetId := by
  induction hrun with
  | refl s => exact Or.inl (.of_target_eq rfl)
  | head hok hstep hrest ih =>
      have hnext := h.step hok.1 hstep
      rcases field_kept h hok.1 hstep hbuilt
        (fun write hreports => hcopy write fun hsets => hok.2 write hsets hreports)
          with hkept | hdeletes
      · refine (ih hnext).imp_left fun hlater stored hstored => ?_
        obtain ⟨next, hafter, hsame⟩ := hkept stored hstored
        obtain ⟨kept, hfound, heq⟩ := hlater next hafter
        exact ⟨kept, hfound, heq.trans hsame⟩
      · have hgone := gone_of_deletes h hok.1 hstep hdeletes
        exact Or.inr (hgone.of_run hnext (hrest.mono fun _ _ hboth => hboth.1))

/-- What the step of a configuration leaves in the document. -/
theorem target_of_configures {label : TargetLabel} {target : BackupTargetConfig} (h : IdsIssued s)
    (hok : WritesCurrent s label) (hstep : s.step label = some t)
    (hconfigures : Configures s target label) : t.target target.targetId = some target := by
  obtain ⟨actor, request, document, rfl, hphase, hbuilds⟩ := hconfigures
  rw [WritesCurrent, hphase] at hok
  have hcurrent : document = s.document := hok
  subst hcurrent
  simp only [TargetSystem.step, hphase] at hstep
  obtain ⟨⟨saved, next⟩, hsaved, rfl⟩ := Option.map_eq_some_iff.mp hstep
  have hdocument : request.apply s.document = .ok saved := by
    simp only [TargetSystem.savedDocument] at hsaved
    split at hsaved
    · cases hsaved
    · next happly =>
        cases hsaved
        exact happly
  rcases OperatorRequest.cases_of_apply hdocument with ⟨built, hbuilt, hcases⟩ | ⟨hdelete, -⟩
  · have hsame : built = target := OperatorRequest.builds_unique hbuilt hbuilds
    subst hsame
    have hfound : findTarget built.targetId saved = some built := by
      rcases hcases with ⟨rfl, context, payload, rfl⟩ | ⟨rfl, hexists⟩
      · have hnone : findTarget built.targetId s.document = none := by
          rw [OperatorRequest.targetId_of_builds hbuilds]
          exact (h.created actor context.newTargetId (by rw [hphase]; exact rfl)).1
        rw [findTarget_append, hnone, if_pos rfl]
        rfl
      · rw [findTarget_replaceTarget hexists, if_pos rfl]
    exact hfound
  · rw [hdelete] at hbuilds
    exact hbuilds.elim

/-- What the step of a report leaves in the document. -/
theorem target_of_reports {label : TargetLabel} {write : TargetWrite}
    (hstep : s.step label = some t) (hreports : Reports s write targetId label) :
    ∃ copy, t.target targetId = some (write.copyOf copy) := by
  obtain ⟨actor, copy, document, rfl, hphase, rfl⟩ := hreports
  simp only [TargetSystem.step, hphase, TargetSystem.savedDocument, Option.map_some] at hstep
  cases hstep
  refine ⟨copy, ?_⟩
  rw [← targetId_copyOf write]
  exact findTarget_putTarget

/-- In a run whose saves find everything as it was loaded, a target that is deleted stays
deleted, what an operator configures stays configured, and what one job reports about a target
is not reverted by the other. -/
theorem operator_changes_survive {document : BackupTargetsDocument} {label : TargetLabel}
    (hfirst : Steps TargetSystem.step WritesCurrent (TargetSystem.start document) first s)
    (hok : WritesCurrent s label) (hstep : s.step label = some t) :
    (∀ targetId rest u, Deletes s targetId label →
      Steps TargetSystem.step WritesCurrent t rest u → u.target targetId = none) ∧
    (∀ target rest u, Configures s target label →
      Steps TargetSystem.step (fun s label =>
        WritesCurrent s label ∧ ¬ OperatorWrites s target.targetId label) t rest u →
      ∃ kept, u.target target.targetId = some kept ∧
        configuredFields kept = configuredFields target) ∧
    (∀ targetId result rest u, Reports s (.tested result) targetId label →
      Steps TargetSystem.step (fun s label => WritesCurrent s label ∧
        ∀ other, ¬ Reports s (.tested other) targetId label) t rest u →
      ∀ kept, u.target targetId = some kept → kept.lastTestResult = some result) ∧
    (∀ targetId metadata rest u, Reports s (.backedUp metadata) targetId label →
      Steps TargetSystem.step (fun s label => WritesCurrent s label ∧
        ∀ other, ¬ Reports s (.backedUp other) targetId label) t rest u →
      ∀ kept, u.target targetId = some kept → kept.lastSuccessfulBackup = some metadata) := by
  have hbefore : IdsIssued s := (idsIssued_start document).of_run hfirst
  have hafter : IdsIssued t := hbefore.step hok hstep
  refine ⟨?_, ?_, ?_, ?_⟩
  · intro targetId rest u hdeletes hrest
    have hgone : Gone t targetId := gone_of_deletes hbefore hok hstep hdeletes
    exact (hgone.of_run hafter hrest).target
  · intro target rest u hconfigures hrest
    have hstored := target_of_configures hbefore hok hstep hconfigures
    exact configured_kept_of_run hafter hrest target hstored
  · intro targetId result rest u hreports hrest kept hkept
    obtain ⟨copy, hstored⟩ := target_of_reports hstep hreports
    have hfield : FieldKept (·.lastTestResult) targetId t u ∨ Gone u targetId := by
      refine field_kept_of_run (fun write => ∃ other, write = .tested other) hafter
        (fun _ _ htest _ => htest) ?_ (hrest.mono fun s label hboth => ⟨hboth.1, ?_⟩)
      · intro write hnot copy
        cases write with
        | running => rfl
        | tested other => exact absurd ⟨other, rfl⟩ hnot
        | backedUp metadata => rfl
      · rintro write ⟨other, rfl⟩
        exact hboth.2 other
    rcases hfield with hfieldKept | hgone
    · obtain ⟨found, hfound, hsame⟩ := hfieldKept _ hstored
      rw [hkept] at hfound
      cases hfound
      exact hsame
    · rw [hgone.target] at hkept
      cases hkept
  · intro targetId metadata rest u hreports hrest kept hkept
    obtain ⟨copy, hstored⟩ := target_of_reports hstep hreports
    have hfield : FieldKept (·.lastSuccessfulBackup) targetId t u ∨ Gone u targetId := by
      refine field_kept_of_run (fun write => ∃ other, write = .backedUp other) hafter
        (fun _ _ _ hbackup => hbackup) ?_ (hrest.mono fun s label hboth => ⟨hboth.1, ?_⟩)
      · intro write hnot copy
        cases write with
        | running => rfl
        | tested result => rfl
        | backedUp other => exact absurd ⟨other, rfl⟩ hnot
      · rintro write ⟨other, rfl⟩
        exact hboth.2 other
    rcases hfield with hfieldKept | hgone
    · obtain ⟨found, hfound, hsame⟩ := hfieldKept _ hstored
      rw [hkept] at hfound
      cases hfound
      exact hsame
    · rw [hgone.target] at hkept
      cases hkept

end Runs

/-! ## A job that outlives its target -/

/-- A local target. -/
def localTarget : BackupTargetConfig where
  targetId := py "t1"
  targetName := py "disk"
  targetType := .local_
  enabled := true
  transport := ⟨some (py "/backup"), none, some 22, none, none, none, none, none, none, none, none,
    none, none, none, none⟩
  verificationStatus := .ready
  lastTestResult := none
  lastSuccessfulBackup := none
  retentionPolicy := .default
  restoreReadiness := .partial_
  sourceScope := py "files_only"
  schedulingCompatible := true
  warnings := []
  createdAt := py "2024-01-01T00:00:00+00:00"
  updatedAt := py "2024-01-01T00:00:00+00:00"

def firstBackup : BackupTargetLastBackupMetadata where
  backupId := py "20240102T000000Z"
  completedAt := py "2024-01-02T00:00:00+00:00"
  sourceScope := py "files_only"
  bytesTransferred := some 10
  verificationLevel := .transportSuccessOnly
  snapshotId := none

/-- An execution has loaded the target, and its deletion is about to be saved. -/
def deletedDuringExecution : TargetSystem :=
  Steps.last TargetSystem.step (TargetSystem.start [localTarget])
    [.startExecution 0 (py "t1"), .load 0, .spawn 0 1, .load 1,
      .request 2 (.deleteTarget (py "t1")), .load 2]

theorem deleted_target_reappears :
    Reachable TargetSystem.step (TargetSystem.start [localTarget]) deletedDuringExecution ∧
      Deletes deletedDuringExecution (py "t1") (.save 2) ∧
      ∃ t u, deletedDuringExecution.step (.save 2) = some t ∧
        exec TargetSystem.step t [.report 1 (.backedUp firstBackup), .load 1, .save 1] = some u ∧
        t.target (py "t1") = none ∧ u.target (py "t1") ≠ none := by
  refine ⟨Reachable.of_exec (Steps.exec_eq_last (by decide)), ⟨⟨2, _, rfl, rfl⟩, by decide⟩,
    _, _, rfl, rfl, by decide, by decide⟩

def otherTarget : BackupTargetConfig :=
  { localTarget with targetId := py "t2" }

/-- A job backs a target up, from its start to its save. -/
def backupOf (request job : Nat) (targetId : TargetId) : List TargetLabel :=
  [.startExecution request targetId, .load request, .spawn request job, .load job,
    .report job (.backedUp firstBackup), .load job, .save job]

/-- The deletion is saved while no job has the target: the job of the target has ended, and that
of another one starts afterwards. -/
theorem operator_changes_survive_deletion :
    ∃ s t u, Steps TargetSystem.step WritesCurrent
        (TargetSystem.start [localTarget, otherTarget])
        (backupOf 0 1 (py "t1") ++ [.request 2 (.deleteTarget (py "t1")), .load 2]) s ∧
      s.step (.save 2) = some t ∧
      Steps TargetSystem.step WritesCurrent t (backupOf 3 4 (py "t2")) u ∧
      u.document.map (fun target => (target.targetId, target.lastSuccessfulBackup)) =
        [(py "t2", some firstBackup)] ∧
      u.target (py "t1") = none := by
  have hrun : ∃ s t u, Steps TargetSystem.step WritesCurrent
        (TargetSystem.start [localTarget, otherTarget])
        (backupOf 0 1 (py "t1") ++ [.request 2 (.deleteTarget (py "t1")), .load 2]) s ∧
      WritesCurrent s (.save 2) ∧ s.step (.save 2) = some t ∧ Deletes s (py "t1") (.save 2) ∧
      Steps TargetSystem.step WritesCurrent t (backupOf 3 4 (py "t2")) u ∧
      u.document.map (fun target => (target.targetId, target.lastSuccessfulBackup)) =
        [(py "t2", some firstBackup)] :=
    ⟨_, _, _, .head trivial rfl <| .head trivial rfl <| .head trivial rfl <| .head trivial rfl <|
        .head trivial rfl <| .head trivial rfl <| .head ⟨rfl, _, rfl, rfl⟩ rfl <|
        .head trivial rfl <| .head trivial rfl <| .refl _,
      rfl, rfl, ⟨⟨2, _, rfl, rfl⟩, rfl⟩,
      .head trivial rfl <| .head trivial rfl <| .head trivial rfl <| .head trivial rfl <|
        .head trivial rfl <| .head trivial rfl <| .head ⟨rfl, _, rfl, rfl⟩ rfl <| .refl _,
      rfl⟩
  obtain ⟨s, t, u, hfirst, hok, hstep, hdeletes, hrest, hdocument⟩ := hrun
  exact ⟨s, t, u, hfirst, hstep, hrest, hdocument,
    (operator_changes_survive hfirst hok hstep).1 _ _ u hdeletes hrest⟩

end ImmichDoctor.Services
