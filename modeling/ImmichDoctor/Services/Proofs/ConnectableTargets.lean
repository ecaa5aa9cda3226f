import ImmichDoctor.Services.Proofs.SecretReferences
/-!
# A saved remote target can be connected to

What the settings accept is what a connection needs, in every run of operators and jobs. Since
no request removes a secret, a target goes on to connect with its key after it has been changed
or deleted.
-/

namespace ImmichDoctor.Services

open ImmichDoctor.Library
open ImmichDoctor.Backup

/-! ## Runs -/

/-- The targets an actor has loaded or made. -/
def RegistryPhase.targets : RegistryPhase → List BackupTargetConfig
  | idle => []
  | loaded _ document => document
  | built document => document
  | holding target => [target]
  | replacing target document => target :: document

/-- The payloads an actor has validated. -/
def RegistryPhase.payloads : RegistryPhase → List BackupTargetUpsertPayload
  | loaded (.create payload) _ => [payload]
  | loaded (.update _ payload) _ => [payload]
  | _ => []

structure SoundPhase (secrets : SecretFiles) (phase : RegistryPhase) : Prop where
  targets : ∀ target ∈ phase.targets, Sound secrets target
  payloads : ∀ payload ∈ phase.payloads,
    payload.targetType.isRemote = true → RemotePayload payload

/-- Everything that is kept or held is sound with the secrets that are there. -/
structure SoundRegistry (host : RegistryHost) (s : TargetRegistry) : Prop where
  named : Named host s.secrets
  document : ∀ target ∈ s.document, Sound s.secrets target
  actors : ∀ actor, SoundPhase s.secrets (s.actors actor)

theorem soundPhase_idle (secrets : SecretFiles) : SoundPhase secrets .idle where
  targets := List.forall_mem_nil _
  payloads := List.forall_mem_nil _

theorem SoundPhase.mono {before after : SecretFiles} {phase : RegistryPhase}
    (h : SoundPhase before phase) (hkeeps : Keeps before after) : SoundPhase after phase where
  targets := fun target htarget => (h.targets target htarget).mono hkeeps
  payloads := h.payloads

theorem soundRegistry_empty (host : RegistryHost) : SoundRegistry host .empty where
  named := by
    constructor
    · intro name record hfile
      cases hfile
    · intro name record hfile
      cases hfile
  document := List.forall_mem_nil _
  actors := fun _ => soundPhase_idle _

section

variable {host : RegistryHost} {s t : TargetRegistry}

theorem mem_of_findTarget {targetId : TargetId} {document : BackupTargetsDocument}
    {target : BackupTargetConfig} (h : findTarget targetId document = some target) :
    target ∈ document :=
  List.mem_of_find?_eq_some h

theorem mem_replaceTarget {target other : BackupTargetConfig} {document : BackupTargetsDocument}
    (h : other ∈ replaceTarget target document) : other = target ∨ other ∈ document := by
  induction document with
  | nil => cases h
  | cons item items ih =>
      rw [replaceTarget] at h
      split at h
      · exact (List.mem_cons.mp h).imp_right (List.mem_cons_of_mem _)
      · rcases List.mem_cons.mp h with rfl | hrest
        · exact .inr List.mem_cons_self
        · exact (ih hrest).imp_right (List.mem_cons_of_mem _)

theorem mem_putTarget {target other : BackupTargetConfig} {document : BackupTargetsDocument}
    (h : other ∈ putTarget target document) : other = target ∨ other ∈ document := by
  unfold putTarget at h
  split at h
  · exact mem_replaceTarget h
  · rcases List.mem_append.mp h with hmem | hlast
    · exact .inr hmem
    · exact .inl (List.mem_singleton.mp hlast)

/-- A copy that a job saves has the type and the transport of its target. -/
theorem Sound.copyOf {secrets : SecretFiles} {target : BackupTargetConfig}
    (h : Sound secrets target) (write : TargetWrite) : Sound secrets (write.copyOf target) := by
  cases write with
  | running | tested result | backedUp metadata => exact ⟨h.resolves, h.connectable⟩

theorem SoundRegistry.setActor (h : SoundRegistry host s) (actor : Nat) {phase : RegistryPhase}
    (hphase : SoundPhase s.secrets phase) : SoundRegistry host (s.setActor actor phase) where
  named := h.named
  document := h.document
  actors := by
    intro other
    show SoundPhase s.secrets (Function.update s.actors actor phase other)
    by_cases hother : other = actor
    · rw [hother, Function.update_self]
      exact hphase
    · rw [Function.update_of_ne hother]
      exact h.actors other

theorem ok_of_map {read : Except PayloadError BackupTargetUpsertPayload}
    {make : BackupTargetUpsertPayload → ValidRequest} {valid : ValidRequest}
    (h : read.map make = .ok valid) : ∃ payload, read = .ok payload ∧ make payload = valid := by
  cases read with
  | error error => cases h
  | ok payload => exact ⟨payload, rfl, Except.ok.inj h⟩

/-- The payload of a request is what its body validates to. -/
theorem exists_body {request : RegistryRequest} {valid : ValidRequest}
    (hvalid : request.validated host = .ok valid) {document : BackupTargetsDocument}
    {payload : BackupTargetUpsertPayload}
    (hpayload : payload ∈ (RegistryPhase.loaded valid document).payloads) :
    ∃ body, validatePayload host.expandUser body = .ok payload := by
  cases request with
  | create body =>
      obtain ⟨read, hread, rfl⟩ := ok_of_map hvalid
      cases List.mem_singleton.mp hpayload
      exact ⟨body, hread⟩
  | update targetId body =>
      obtain ⟨read, hread, rfl⟩ := ok_of_map hvalid
      cases List.mem_singleton.mp hpayload
      exact ⟨body, hread⟩
  | delete targetId =>
      cases hvalid
      cases hpayload

theorem soundPhase_loaded {secrets : SecretFiles} {document : BackupTargetsDocument}
    (hdocument : ∀ target ∈ document, Sound secrets target) {request : RegistryRequest}
    {valid : ValidRequest} (hvalid : request.validated host = .ok valid) :
    SoundPhase secrets (.loaded valid document) where
  targets := hdocument
  payloads := by
    intro payload hpayload
    obtain ⟨body, hbody⟩ := exists_body hvalid hpayload
    exact remotePayload_of_validated hbody

/-- What a request makes of a sound document is sound with the secrets it leaves. -/
theorem sound_apply {draws : BuildDraws} (hnamed : Named host s.secrets)
    (hfresh : s.secrets draws.newSecretId = none)
    (hplain : host.located draws.newSecretId = draws.newSecretId) {request : ValidRequest}
    {document : BackupTargetsDocument}
    (hphase : SoundPhase s.secrets (.loaded request document)) :
    Named host (request.secretsAfter (host.context draws s.secrets) draws document s.secrets) ∧
      Keeps s.secrets
        (request.secretsAfter (host.context draws s.secrets) draws document s.secrets) ∧
      ∀ saved, (request.operatorRequest (host.context draws s.secrets)).apply document = .ok saved →
        ∀ target ∈ saved, Sound (request.secretsAfter (host.context draws s.secrets) draws
          document s.secrets) target := by
  cases request with
  | create payload =>
      have hkeeps : Keeps s.secrets (secretsAfterBuild (host.context draws s.secrets) draws payload
        none s.secrets) := keeps_secretsAfterBuild hfresh _
      refine ⟨named_secretsAfterBuild hnamed hplain _, hkeeps, ?_⟩
      intro saved hsaved target htarget
      simp only [ValidRequest.operatorRequest, OperatorRequest.apply] at hsaved
      cases hbuild : buildTarget (host.context draws s.secrets) payload none with
      | error error =>
          rw [hbuild] at hsaved
          cases hsaved
      | ok made =>
          rw [hbuild] at hsaved
          cases hsaved
          rcases List.mem_append.mp htarget with hold | hnew
          · exact (hphase.targets target hold).mono hkeeps
          · cases List.mem_singleton.mp hnew
            exact sound_buildTarget hnamed hfresh (fun _ hnone => by cases hnone)
              (hphase.payloads payload (List.mem_singleton_self _)) hbuild
  | update targetId payload =>
      cases hfound : findTarget targetId document with
      | none =>
          simp only [ValidRequest.secretsAfter, ValidRequest.operatorRequest,
            OperatorRequest.apply, hfound]
          exact ⟨hnamed, Keeps.refl _, fun _ hsaved => by cases hsaved⟩
      | some existing =>
          have hkeeps : Keeps s.secrets (secretsAfterBuild (host.context draws s.secrets) draws
            payload (some existing) s.secrets) := keeps_secretsAfterBuild hfresh _
          simp only [ValidRequest.secretsAfter, ValidRequest.operatorRequest,
            OperatorRequest.apply, hfound]
          refine ⟨named_secretsAfterBuild hnamed hplain _, hkeeps, ?_⟩
          intro saved hsaved target htarget
          cases hbuild : buildTarget (host.context draws s.secrets) payload (some existing) with
          | error error =>
              rw [hbuild] at hsaved
              cases hsaved
          | ok made =>
              rw [hbuild] at hsaved
              cases hsaved
              rcases mem_replaceTarget htarget with rfl | hold
              · refine sound_buildTarget hnamed hfresh ?_
                  (hphase.payloads payload (List.mem_singleton_self _)) hbuild
                intro old hold
                cases hold
                exact hphase.targets existing (mem_of_findTarget hfound)
              · exact (hphase.targets target hold).mono hkeeps
  | delete targetId =>
      refine ⟨hnamed, Keeps.refl _, ?_⟩
      intro saved hsaved target htarget
      cases hsaved
      exact hphase.targets target (List.mem_of_mem_filter htarget)

/-- One step keeps the files of secrets, and everything sound. -/
theorem SoundRegistry.step (h : SoundRegistry host s) {label : RegistryLabel}
    (hstep : s.step host label = some t) : SoundRegistry host t ∧ Keeps s.secrets t.secrets := by
  cases label with
  | request actor request =>
      simp only [TargetRegistry.step] at hstep
      split at hstep
      · next hvalid =>
          cases hstep
          exact ⟨h.setActor actor (soundPhase_loaded h.document hvalid), Keeps.refl _⟩
      · cases hstep
  | build actor draws =>
      simp only [TargetRegistry.step] at hstep
      split at hstep
      · next request document hphase =>
          split at hstep
          · next hdrawn =>
              cases hstep
              obtain ⟨hnamed, hkeeps, hsound⟩ := sound_apply h.named
                (Option.isNone_iff_eq_none.mp hdrawn.1) hdrawn.2 (hphase ▸ h.actors actor)
              refine ⟨⟨hnamed, fun target htarget => (h.document target htarget).mono hkeeps, ?_⟩,
                hkeeps⟩
              intro other
              show SoundPhase _ (Function.update s.actors actor _ other)
              by_cases hother : other = actor
              · rw [hother, Function.update_self]
                cases happly : (request.operatorRequest (host.context draws s.secrets)).apply
                    document with
                | error error => exact soundPhase_idle _
                | ok saved => exact ⟨hsound saved happly, List.forall_mem_nil _⟩
              · rw [Function.update_of_ne hother]
                exact (h.actors other).mono hkeeps
          · cases hstep
      · cases hstep
  | hold actor targetId =>
      simp only [TargetRegistry.step] at hstep
      split at hstep
      · next target hidle hfound =>
          cases hstep
          refine ⟨h.setActor actor ⟨?_, List.forall_mem_nil _⟩, Keeps.refl _⟩
          intro other hother
          cases List.mem_singleton.mp hother
          exact h.document target (mem_of_findTarget hfound)
      · cases hstep
  | report actor write =>
      simp only [TargetRegistry.step] at hstep
      split at hstep
      · next target hphase =>
          cases hstep
          have hheld := (h.actors actor).targets target (by
            rw [hphase]
            exact List.mem_singleton_self _)
          refine ⟨h.setActor actor ⟨?_, List.forall_mem_nil _⟩, Keeps.refl _⟩
          exact List.forall_mem_cons.mpr ⟨hheld.copyOf write, h.document⟩
      · cases hstep
  | save actor =>
      have hidle := h.setActor actor (soundPhase_idle s.secrets)
      have htargets := (h.actors actor).targets
      simp only [TargetRegistry.step] at hstep
      split at hstep
      · next document hphase =>
          cases hstep
          rw [hphase] at htargets
          exact ⟨⟨hidle.named, htargets, hidle.actors⟩, Keeps.refl _⟩
      · next target document hphase =>
          cases hstep
          rw [hphase] at htargets
          obtain ⟨htarget, hdocument⟩ := List.forall_mem_cons.mp htargets
          refine ⟨⟨hidle.named, ?_, hidle.actors⟩, Keeps.refl _⟩
          intro other hother
          rcases mem_putTarget hother with rfl | hold
          · exact htarget
          · exact hdocument other hold
      · cases hstep
  | leave actor =>
      cases hstep
      exact ⟨h.setActor actor (soundPhase_idle _), Keeps.refl _⟩

/-- Every run keeps the files of secrets, and everything sound. -/
theorem SoundRegistry.run {labels : List RegistryLabel} (h : SoundRegistry host s)
    (hrun : Steps (TargetRegistry.step host) (fun _ _ => True) s labels t) :
    SoundRegistry host t ∧ Keeps s.secrets t.secrets := by
  induction hrun with
  | refl s => exact ⟨h, Keeps.refl _⟩
  | head _ hstep _ ih =>
      obtain ⟨hnext, hkeeps⟩ := h.step hstep
      obtain ⟨hlast, hrest⟩ := ih hnext
      exact ⟨hlast, hkeeps.trans hrest⟩

end

/-! ## Connections -/

/-- A call that a connection needs raises. -/
def Faulted (faults : ConnectionFaults) : Prop :=
  faults.createKey = true ∨ faults.writeKey.isSome = true ∨ faults.knownHosts = true

/-- With the key at hand, only the operating system keeps a connection from being used. -/
theorem used_or_faulted {request : ConnectionRequest} (h : Connectable request.transport)
    (hauth : request.transport.authMode ≠ some .password) {key : Option PyStr}
    (hkey : request.privateKey = .ok key) (files : KeyFiles) :
    (request.prepare files).1 = .raised ∧ Faulted request.faults ∨
      ∃ material held, (request.prepare files).1 = .used material held ∧
        ∀ content, key = some content → held request.keyPath = some content := by
  obtain ⟨host, hhost⟩ := Option.isSome_iff_exists.mp h.host
  obtain ⟨username, husername⟩ := Option.isSome_iff_exists.mp h.username
  obtain ⟨remotePath, hremotePath⟩ := Option.isSome_iff_exists.mp h.remotePath
  have hoptions : request.knownHostOptions = .error .raised ∧ request.faults.knownHosts = true ∨
      ∃ options, request.knownHostOptions = .ok options := by
    unfold ConnectionRequest.knownHostOptions
    cases hmode : request.transport.knownHostMode with
    | none =>
        have hknown := h.knownHostMode
        rw [hmode] at hknown
        cases hknown
    | some mode =>
        cases mode with
        | strict | acceptNew =>
            cases hfault : request.faults.knownHosts with
            | true => exact .inl ⟨rfl, rfl⟩
            | false => exact .inr ⟨_, rfl⟩
        | disabled => exact .inr ⟨_, rfl⟩
  have hconnect : ∀ keyOptions written (before : KeyFiles),
      (request.connect host username remotePath keyOptions written before).1 = .raised ∧
          request.faults.knownHosts = true ∨
        ∃ material, (request.connect host username remotePath keyOptions written before).1 =
          .used material before := by
    intro keyOptions written before
    unfold ConnectionRequest.connect
    rcases hoptions with ⟨hraised, hfault⟩ | ⟨options, hok⟩
    · rw [hraised]
      exact .inl ⟨rfl, hfault⟩
    · rw [hok]
      exact .inr ⟨_, rfl⟩
  unfold ConnectionRequest.prepare
  rw [if_neg hauth, hhost, husername, hremotePath, hkey]
  cases key with
  | none =>
      rcases hconnect [] false files with ⟨hraised, hfault⟩ | ⟨material, hused⟩
      · exact .inl ⟨hraised, .inr (.inr hfault)⟩
      · exact .inr ⟨material, files, hused, fun _ hnone => by cases hnone⟩
  | some content =>
      cases hcreate : request.faults.createKey with
      | true => exact .inl ⟨rfl, .inl hcreate⟩
      | false =>
          cases hwrite : request.faults.writeKey with
          | some written =>
              refine .inl ⟨rfl, .inr (.inl ?_)⟩
              rw [hwrite]
              rfl
          | none =>
              simp only [Bool.false_eq_true, if_false]
              rcases hconnect [py "-i", request.keyPath] true (request.put content files) with
                ⟨hraised, hfault⟩ | ⟨material, hused⟩
              · exact .inl ⟨hraised, .inr (.inr hfault)⟩
              · refine .inr ⟨material, _, hused, ?_⟩
                intro other hother
                rw [← hother]
                exact if_pos rfl

/-- The key of a sound transport is at hand, and it is the same one later. -/
theorem privateKey_of_sound {host : RegistryHost} {s t : TargetRegistry}
    (hs : SoundRegistry host s) (hkeeps : Keeps s.secrets t.secrets) {target : BackupTargetConfig}
    (htarget : Sound s.secrets target) (hconnectable : Connectable target.transport)
    (hauth : target.transport.authMode ≠ some .password) {request : ConnectionRequest}
    (htransport : request.transport = target.transport) :
    ∃ key, ({ request with secrets := s.readable host } : ConnectionRequest).privateKey = .ok key ∧
      ({ request with secrets := t.readable host } : ConnectionRequest).privateKey = .ok key := by
  unfold ConnectionRequest.privateKey
  simp only [htransport]
  cases hmode : target.transport.authMode with
  | none =>
      have hsome := hconnectable.authMode
      rw [hmode] at hsome
      cases hsome
  | some mode =>
      cases mode with
      | password => exact absurd hmode hauth
      | agent => exact ⟨none, rfl, rfl⟩
      | privateKey =>
          obtain ⟨reference, hreference⟩ :=
            Option.isSome_iff_exists.mp (hconnectable.privateKey hmode)
          have hresolves := htarget.resolves reference
            (List.mem_append_right _ (Option.mem_toList.mpr hreference))
          obtain ⟨record, hfile, -⟩ := Option.map_eq_some_iff.mp hresolves
          have hlocated := hs.named.located _ _ hfile
          have hnow : s.readable host reference.secretId = some record := by
            rw [TargetRegistry.readable, hlocated, hfile]
          have hlater : t.readable host reference.secretId = some record := by
            rw [TargetRegistry.readable, hlocated, hkeeps _ _ hfile]
          refine ⟨some (normalizeMaterial record.kind record.material), ?_, ?_⟩
          · simp only [hreference, loadSecretMaterial, hnow, Option.map_some]
          · simp only [hreference, loadSecretMaterial, hlater, Option.map_some]

/-- In every run of operators and jobs, a remote target that the document has had can be
connected to at any later time with the key it had: only the operating system can prevent it. -/
theorem loaded_targets_connect {host : RegistryHost} {s t : TargetRegistry}
    {first second : List RegistryLabel}
    (hfirst : Steps (TargetRegistry.step host) (fun _ _ => True) .empty first s)
    (hsecond : Steps (TargetRegistry.step host) (fun _ _ => True) s second t)
    {target : BackupTargetConfig} (htarget : target ∈ s.document)
    (hremote : target.targetType.isRemote = true)
    (hauth : target.transport.authMode ≠ some .password) {request : ConnectionRequest}
    (htransport : request.transport = target.transport)
    (hsecrets : request.secrets = t.readable host) (files : KeyFiles) :
    ∃ key, ({ request with secrets := s.readable host } : ConnectionRequest).privateKey = .ok key ∧
      request.privateKey = .ok key ∧
      ((request.prepare files).1 = .raised ∧ Faulted request.faults ∨
        ∃ material held, (request.prepare files).1 = .used material held ∧
          ∀ content, key = some content → held request.keyPath = some content) := by
  obtain ⟨hs, -⟩ := (soundRegistry_empty host).run hfirst
  obtain ⟨-, hkeeps⟩ := hs.run hsecond
  have hsound := hs.document target htarget
  have hconnectable := hsound.connectable hremote
  obtain ⟨key, hnow, hlater⟩ :=
    privateKey_of_sound hs hkeeps hsound hconnectable hauth htransport
  rw [← hsecrets] at hlater
  refine ⟨key, hnow, hlater, used_or_faulted ?_ ?_ hlater files⟩
  · rw [htransport]
    exact hconnectable
  · rw [htransport]
    exact hauth

/-! ## A target that is deleted during a backup -/

def plainHost : RegistryHost :=
  ⟨id, id⟩

def keyedBody : TargetRequestBody where
  targetName := py "NAS"
  targetType := .ssh
  enabled := true
  path := none
  connectionString := some (py " backup@nas:2222 ")
  host := none
  port := none
  share := none
  remotePath := some (py "/volume1/immich")
  username := none
  authMode := some .privateKey
  mountStrategy := none
  mountedPath := none
  knownHostMode := none
  hostKeyVerification := some (some (py "known_hosts"))
  knownHostReference := none
  hostKeyReference := none
  domain := none
  mountOptions := none
  passwordSecret := none
  privateKeySecret := some ⟨none, some (py "KEY"), none⟩
  retentionPolicy := none

/-- An operator saves the target. -/
def savesKeyed : List RegistryLabel :=
  [.request 0 (.create keyedBody), .build 0 ⟨py "2026-01-01", py "t", py "k"⟩, .save 0]

/-- A job loads it, and the operator deletes it meanwhile. -/
def deletesKeyed : List RegistryLabel :=
  [.hold 1 (py "t"), .request 0 (.delete (py "t")), .build 0 ⟨py "2026-01-02", py "u", py "l"⟩,
    .save 0]

def keyedRegistry : TargetRegistry :=
  Steps.last (TargetRegistry.step plainHost) .empty savesKeyed

def deletedRegistry : TargetRegistry :=
  Steps.last (TargetRegistry.step plainHost) keyedRegistry deletesKeyed

/-- The job goes on to connect with the key. -/
def keyedConnection (target : BackupTargetConfig) : ConnectionRequest where
  transport := target.transport
  secrets := deletedRegistry.readable plainHost
  knownHostsPath := fun _ => py "/root/.ssh/known_hosts"
  keyPath := py "/tmp/immich-doctor-key-1"
  faults := ⟨false, none, false, false⟩

theorem loaded_targets_connect_deleted :
    deletedRegistry.document = [] ∧ ∃ target ∈ keyedRegistry.document, ∃ material held,
      ((keyedConnection target).prepare fun _ => none).1 = .used material held := by
  have hfirst : Steps (TargetRegistry.step plainHost) (fun _ _ => True) .empty savesKeyed
      keyedRegistry :=
    Steps.of_exec (fun _ _ _ => trivial) (Steps.exec_eq_last (by decide +kernel))
  have hsecond : Steps (TargetRegistry.step plainHost) (fun _ _ => True) keyedRegistry
      deletesKeyed deletedRegistry :=
    Steps.of_exec (fun _ _ _ => trivial) (Steps.exec_eq_last (by decide +kernel))
  have hfound : ∃ target ∈ keyedRegistry.document, target.targetType.isRemote = true ∧
      target.transport.authMode ≠ some .password := by decide +kernel
  obtain ⟨target, htarget, hremote, hauth⟩ := hfound
  obtain ⟨key, -, -, hends⟩ := loaded_targets_connect hfirst hsecond htarget hremote hauth
    (rfl : (keyedConnection target).transport = target.transport) rfl fun _ => none
  refine ⟨by decide +kernel, target, htarget, ?_⟩
  rcases hends with ⟨-, hfault⟩ | ⟨material, held, hused, -⟩
  · have hnone : ¬ Faulted (keyedConnection target).faults := by simp [Faulted, keyedConnection]
    exact absurd hfault hnone
  · exact ⟨material, held, hused⟩

end ImmichDoctor.Services
