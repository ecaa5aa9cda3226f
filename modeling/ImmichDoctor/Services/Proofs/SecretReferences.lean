import ImmichDoctor.Services.TargetRegistry
/-!
# What a build makes

A build keeps the files of secrets that are there, each reference of the target it makes leads
to a file, and the target has the fields that a connection asks for: the validators have asked
for the same ones.
-/

namespace ImmichDoctor.Services

open ImmichDoctor.Library
open ImmichDoctor.Backup

/-! ## Files of secrets -/

/-- The files that are there stay as they are. -/
def Keeps (before after : SecretFiles) : Prop :=
  ∀ secretId record, before secretId = some record → after secretId = some record

theorem Keeps.refl (secrets : SecretFiles) : Keeps secrets secrets :=
  fun _ _ h => h

theorem Keeps.trans {first second third : SecretFiles} (h : Keeps first second)
    (hmore : Keeps second third) : Keeps first third :=
  fun secretId record hfile => hmore secretId record (h secretId record hfile)

/-- The file of the reference has the secret of the reference. -/
def Resolves (secrets : SecretFiles) (reference : SecretReferenceSummary) : Prop :=
  reuseSecret secrets reference.secretId = some reference

theorem Resolves.mono {before after : SecretFiles} {reference : SecretReferenceSummary}
    (h : Resolves before reference) (hkeeps : Keeps before after) : Resolves after reference := by
  obtain ⟨record, hfile, hsummary⟩ := Option.map_eq_some_iff.mp h
  exact Option.map_eq_some_iff.mpr ⟨record, hkeeps _ _ hfile, hsummary⟩

/-- Each file has the id of its record for a name, and a plain one. -/
structure Named (host : RegistryHost) (secrets : SecretFiles) : Prop where
  secretId : ∀ name record, secrets name = some record → record.secretId = name
  located : ∀ name record, secrets name = some record → host.located name = name

section

variable {host : RegistryHost} {draws : BuildDraws} {secrets : SecretFiles}

theorem keeps_persistRequested (hfresh : secrets draws.newSecretId = none)
    (secretKind defaultLabel : PyStr) (requested : Option BackupTargetSecretInput) :
    Keeps secrets (persistRequested draws secretKind defaultLabel requested secrets) := by
  unfold persistRequested
  cases requested with
  | none => exact Keeps.refl secrets
  | some input =>
      simp only
      split
      · exact Keeps.refl secrets
      · intro secretId record hfile
        have hne : secretId ≠ draws.newSecretId := by
          rintro rfl
          rw [hfresh] at hfile
          cases hfile
        exact (if_neg hne).trans hfile

theorem named_persistRequested (hnamed : Named host secrets)
    (hplain : host.located draws.newSecretId = draws.newSecretId)
    (secretKind defaultLabel : PyStr) (requested : Option BackupTargetSecretInput) :
    Named host (persistRequested draws secretKind defaultLabel requested secrets) := by
  unfold persistRequested
  cases requested with
  | none => exact hnamed
  | some input =>
      simp only
      split
      · exact hnamed
      · constructor
        · intro name record hfile
          by_cases hname : name = draws.newSecretId
          · cases (if_pos hname).symm.trans hfile
            exact hname.symm
          · exact hnamed.secretId name record ((if_neg hname).symm.trans hfile)
        · intro name record hfile
          by_cases hname : name = draws.newSecretId
          · rw [hname]
            exact hplain
          · exact hnamed.located name record ((if_neg hname).symm.trans hfile)

/-- A reference that is kept, looked up or made leads to its file. -/
theorem resolves_resolveSecretReference (hnamed : Named host secrets)
    (hfresh : secrets draws.newSecretId = none) {secretKind defaultLabel : PyStr}
    {requested : Option BackupTargetSecretInput} {current : Option SecretReferenceSummary}
    (hcurrent : ∀ reference, current = some reference → Resolves secrets reference)
    {reference : SecretReferenceSummary}
    (h : (host.context draws secrets).resolveSecretReference secretKind defaultLabel requested
      current = .ok (some reference)) :
    Resolves (persistRequested draws secretKind defaultLabel requested secrets) reference := by
  have hkeeps := keeps_persistRequested hfresh secretKind defaultLabel requested
  unfold BuildContext.resolveSecretReference at h
  cases requested with
  | none => exact (hcurrent reference (Except.ok.inj h)).mono hkeeps
  | some input =>
      simp only at h
      split at h
      · split at h
        · exact (hcurrent reference (Except.ok.inj h)).mono hkeeps
        · split at h
          · exact (hcurrent reference (Except.ok.inj h)).mono hkeeps
          · split at h
            · cases h
            · rename_i secret hstored
              cases h
              obtain ⟨record, hfile, rfl⟩ := Option.map_eq_some_iff.mp hstored
              have hid := hnamed.secretId _ _ hfile
              refine Resolves.mono ?_ hkeeps
              rw [Resolves, reuseSecret, StoredSecretRecord.summary, hid, hfile, Option.map_some,
                StoredSecretRecord.summary, hid]
      · rename_i hmaterial
        cases h
        rw [persistRequested, if_neg hmaterial]
        simp only [Resolves, reuseSecret, persistSecret, RegistryHost.context, if_true,
          Option.map_some, StoredSecretRecord.summary]

theorem keeps_persistPassword (hfresh : secrets draws.newSecretId = none)
    (payload : BackupTargetUpsertPayload) :
    Keeps secrets (persistPassword draws payload secrets) := by
  unfold persistPassword
  cases payload.targetType with
  | local_ => exact Keeps.refl secrets
  | smb | ssh | rsync =>
      simp only
      split
      · exact keeps_persistRequested hfresh _ _ _
      · exact Keeps.refl secrets

theorem named_persistPassword (hnamed : Named host secrets)
    (hplain : host.located draws.newSecretId = draws.newSecretId)
    (payload : BackupTargetUpsertPayload) : Named host (persistPassword draws payload secrets) := by
  unfold persistPassword
  cases payload.targetType with
  | local_ => exact hnamed
  | smb | ssh | rsync =>
      simp only
      split
      · exact named_persistRequested hnamed hplain _ _ _
      · exact hnamed

/-- No password is asked for where a private key is. -/
theorem persistPassword_of_privateKey {payload : BackupTargetUpsertPayload}
    (hremote : payload.targetType.isRemote = true) (hauth : payload.authMode = some .privateKey) :
    persistPassword draws payload secrets = secrets := by
  unfold persistPassword
  rw [hauth]
  cases htype : payload.targetType with
  | local_ => rfl
  | smb =>
      rw [htype] at hremote
      cases hremote
  | ssh | rsync => rfl

theorem keeps_persistPrivateKey (hfresh : secrets draws.newSecretId = none)
    (payload : BackupTargetUpsertPayload) :
    Keeps (persistPassword draws payload secrets)
      (persistPrivateKey draws payload (persistPassword draws payload secrets)) := by
  have hkeyed : payload.targetType.isRemote = true → payload.authMode = some .privateKey →
      Keeps (persistPassword draws payload secrets) (persistRequested draws (py "private_key")
        (py "private key secret") payload.privateKeySecret
          (persistPassword draws payload secrets)) := by
    intro hremote hauth
    rw [persistPassword_of_privateKey hremote hauth]
    exact keeps_persistRequested hfresh _ _ _
  unfold persistPrivateKey
  cases htype : payload.targetType with
  | local_ | smb => exact Keeps.refl _
  | ssh | rsync =>
      rw [htype] at hkeyed
      simp only
      split
      · next hauth => exact hkeyed rfl hauth
      · exact Keeps.refl _

theorem named_persistPrivateKey (hnamed : Named host secrets)
    (hplain : host.located draws.newSecretId = draws.newSecretId)
    (payload : BackupTargetUpsertPayload) :
    Named host (persistPrivateKey draws payload secrets) := by
  unfold persistPrivateKey
  cases payload.targetType with
  | local_ | smb => exact hnamed
  | ssh | rsync =>
      simp only
      split
      · exact named_persistRequested hnamed hplain _ _ _
      · exact hnamed

/-! ## A build -/

variable {payload : BackupTargetUpsertPayload} {existing : Option BackupTargetConfig}

theorem keeps_secretsAfterBuild (hfresh : secrets draws.newSecretId = none)
    (context : BuildContext) :
    Keeps secrets (secretsAfterBuild context draws payload existing secrets) := by
  unfold secretsAfterBuild
  split
  · exact Keeps.refl secrets
  · split
    · exact Keeps.refl secrets
    · exact (keeps_persistPassword hfresh payload).trans (keeps_persistPrivateKey hfresh payload)

theorem named_secretsAfterBuild (hnamed : Named host secrets)
    (hplain : host.located draws.newSecretId = draws.newSecretId) (context : BuildContext) :
    Named host (secretsAfterBuild context draws payload existing secrets) := by
  unfold secretsAfterBuild
  split
  · exact hnamed
  · split
    · exact hnamed
    · exact named_persistPrivateKey (named_persistPassword hnamed hplain payload) hplain payload

/-- The references that a target keeps. -/
def references (target : BackupTargetConfig) : List SecretReferenceSummary :=
  target.transport.passwordSecretRef.toList ++ target.transport.privateKeySecretRef.toList

theorem resolves_passwordSecretReference (hnamed : Named host secrets)
    (hfresh : secrets draws.newSecretId = none)
    (hexisting : ∀ target, existing = some target → ∀ reference ∈ references target,
      Resolves secrets reference) {reference : SecretReferenceSummary}
    (h : (host.context draws secrets).passwordSecretReference payload existing =
      .ok (some reference)) : Resolves (persistPassword draws payload secrets) reference := by
  have hcurrent : ∀ current,
      existing.bind (·.transport.passwordSecretRef) = some current → Resolves secrets current := by
    intro current hbind
    obtain ⟨target, htarget, hreference⟩ := Option.bind_eq_some_iff.mp hbind
    exact hexisting target htarget current
      (List.mem_append_left _ (Option.mem_toList.mpr hreference))
  have hresolved : ∀ {found}, (host.context draws secrets).resolveSecretReference (py "password")
      (py "password secret") payload.passwordSecret
        (existing.bind (·.transport.passwordSecretRef)) = .ok (some found) →
      Resolves (persistRequested draws (py "password") (py "password secret")
        payload.passwordSecret secrets) found :=
    resolves_resolveSecretReference hnamed hfresh hcurrent
  unfold BuildContext.passwordSecretReference at h
  unfold persistPassword
  cases htype : payload.targetType with
  | local_ =>
      rw [htype] at h
      cases h
  | smb | ssh | rsync =>
      rw [htype] at h
      simp only at h ⊢
      split at h
      · next hasked =>
          rw [if_pos hasked]
          exact hresolved h
      · cases h

theorem resolves_privateKeySecretReference (hnamed : Named host secrets)
    (hfresh : secrets draws.newSecretId = none)
    (hexisting : ∀ target, existing = some target → ∀ reference ∈ references target,
      Resolves secrets reference) {reference : SecretReferenceSummary}
    (h : (host.context draws secrets).privateKeySecretReference payload existing =
      .ok (some reference)) :
    Resolves (persistPrivateKey draws payload (persistPassword draws payload secrets))
      reference := by
  have hcurrent : ∀ current,
      existing.bind (·.transport.privateKeySecretRef) = some current →
        Resolves secrets current := by
    intro current hbind
    obtain ⟨target, htarget, hreference⟩ := Option.bind_eq_some_iff.mp hbind
    exact hexisting target htarget current
      (List.mem_append_right _ (Option.mem_toList.mpr hreference))
  have hresolved : ∀ {found}, payload.targetType.isRemote = true →
      payload.authMode = some .privateKey →
      (host.context draws secrets).resolveSecretReference (py "private_key")
        (py "private key secret") payload.privateKeySecret
          (existing.bind (·.transport.privateKeySecretRef)) = .ok (some found) →
      Resolves (persistRequested draws (py "private_key") (py "private key secret")
        payload.privateKeySecret (persistPassword draws payload secrets)) found := by
    intro found hremote hauth hfound
    rw [persistPassword_of_privateKey hremote hauth]
    exact resolves_resolveSecretReference hnamed hfresh hcurrent hfound
  unfold BuildContext.privateKeySecretReference at h
  rw [persistPrivateKey.eq_def]
  cases htype : payload.targetType with
  | local_ | smb =>
      rw [htype] at h
      cases h
  | ssh | rsync =>
      rw [htype] at h hresolved
      simp only at h ⊢
      split at h
      · next hauth =>
          rw [if_pos hauth]
          exact hresolved rfl hauth h
      · cases h

/-- What a connection asks of a transport. -/
structure Connectable (transport : BackupTargetTransportSettings) : Prop where
  host : transport.host.isSome = true
  username : transport.username.isSome = true
  remotePath : transport.remotePath.isSome = true
  authMode : transport.authMode.isSome = true
  knownHostMode : transport.knownHostMode.isSome = true
  privateKey : transport.authMode = some .privateKey → transport.privateKeySecretRef.isSome = true

/-- A target whose references lead to files, and which can be connected to when it is remote. -/
structure Sound (secrets : SecretFiles) (target : BackupTargetConfig) : Prop where
  resolves : ∀ reference ∈ references target, Resolves secrets reference
  connectable : target.targetType.isRemote = true → Connectable target.transport

theorem Sound.mono {before after : SecretFiles} {target : BackupTargetConfig}
    (h : Sound before target) (hkeeps : Keeps before after) : Sound after target where
  resolves := fun reference hreference => (h.resolves reference hreference).mono hkeeps
  connectable := h.connectable

/-- What the validators promise of a payload for a remote target. -/
structure RemotePayload (payload : BackupTargetUpsertPayload) : Prop where
  host : payload.host.isSome = true
  username : payload.username.isSome = true
  remotePath : payload.remotePath.isSome = true
  authMode : payload.authMode.isSome = true
  knownHostMode : payload.knownHostMode.isSome = true

theorem isSome_of_not_missing {value : Option PyStr} (h : ¬ missing value = true) :
    value.isSome = true := by
  cases value with
  | none => exact absurd rfl h
  | some text => rfl

/-- The checks return the payload they are given. -/
theorem eq_of_checked {expandUser : PurePath → PurePath} {given : BackupTargetUpsertPayload}
    (h : validateTransportRequirements expandUser given = .ok payload) : given = payload := by
  have hok : ∀ {condition : Prop} [Decidable condition] {error : PayloadError},
      (if condition then Except.error error else .ok given) = .ok payload → given = payload := by
    intro condition _ error hchecked
    split at hchecked
    · cases hchecked
    · exact Except.ok.inj hchecked
  unfold validateTransportRequirements at h
  split at h
  · exact hok h
  · split at h
    · cases h
    · exact hok h
    · split at h
      · cases h
      · exact hok h
  · exact hok h
  · exact hok h

theorem remotePayload_of_checked {expandUser : PurePath → PurePath}
    (h : validateTransportRequirements expandUser payload = .ok payload)
    (hremote : payload.targetType.isRemote = true) : RemotePayload payload := by
  have hfields : ¬ (missing payload.host ∨ missing payload.remotePath ∨ missing payload.username ∨
      payload.authMode.isNone ∨ payload.knownHostMode.isNone) := by
    intro hmissing
    unfold validateTransportRequirements at h
    cases htype : payload.targetType with
    | local_ | smb =>
        rw [htype] at hremote
        cases hremote
    | ssh | rsync =>
        rw [htype] at h
        simp only at h
        rw [if_pos hmissing] at h
        cases h
  rw [not_or, not_or, not_or, not_or] at hfields
  obtain ⟨hhost, hpath, husername, hauth, hknown⟩ := hfields
  rw [Bool.not_eq_true, Option.isNone_eq_false_iff] at hauth hknown
  exact ⟨isSome_of_not_missing hhost, isSome_of_not_missing husername,
    isSome_of_not_missing hpath, hauth, hknown⟩

theorem remotePayload_of_validated {expandUser : PurePath → PurePath} {body : TargetRequestBody}
    (h : validatePayload expandUser body = .ok payload)
    (hremote : payload.targetType.isRemote = true) : RemotePayload payload := by
  unfold validatePayload at h
  cases hread : readPayload body with
  | error error =>
      rw [hread] at h
      cases h
  | ok read =>
      cases hconnected : applyConnectionString (strippedOrNone body.connectionString) read with
      | error error =>
          simp only [hread, hconnected, bind, Except.bind] at h
          cases h
      | ok connected =>
          simp only [hread, hconnected, bind, Except.bind] at h
          cases eq_of_checked h
          exact remotePayload_of_checked h hremote

/-- A target that a build makes is sound with the secrets it leaves. -/
theorem sound_buildTarget (hnamed : Named host secrets)
    (hfresh : secrets draws.newSecretId = none)
    (hexisting : ∀ target, existing = some target → Sound secrets target)
    (hpayload : payload.targetType.isRemote = true → RemotePayload payload)
    {target : BackupTargetConfig}
    (h : buildTarget (host.context draws secrets) payload existing = .ok target) :
    Sound (secretsAfterBuild (host.context draws secrets) draws payload existing secrets)
      target := by
  have hreferences : ∀ old, existing = some old → ∀ reference ∈ references old,
      Resolves secrets reference := fun old hold => (hexisting old hold).resolves
  unfold buildTarget at h
  cases hpath : (host.context draws secrets).transportPath payload with
  | error error =>
      simp only [hpath, bind, Except.bind] at h
      cases h
  | ok path =>
      cases hpassword : (host.context draws secrets).passwordSecretReference payload existing with
      | error error =>
          simp only [hpath, hpassword, bind, Except.bind] at h
          cases h
      | ok passwordRef =>
          cases hkey : (host.context draws secrets).privateKeySecretReference payload existing with
          | error error =>
              simp only [hpath, hpassword, hkey, bind, Except.bind] at h
              cases h
          | ok keyRef =>
              simp only [hpath, hpassword, hkey, bind, Except.bind] at h
              split at h
              · cases h
              · next hvalid =>
                  cases h
                  have hsecrets : secretsAfterBuild (host.context draws secrets) draws payload
                      existing secrets =
                        persistPrivateKey draws payload
                          (persistPassword draws payload secrets) := by
                    rw [secretsAfterBuild, hpath, hpassword]
                  rw [hsecrets]
                  constructor
                  · intro reference hreference
                    rcases List.mem_append.mp hreference with hmem | hmem
                    · have hsome := Option.mem_toList.mp hmem
                      cases hsome
                      exact (resolves_passwordSecretReference hnamed hfresh hreferences
                        hpassword).mono (keeps_persistPrivateKey hfresh payload)
                    · have hsome := Option.mem_toList.mp hmem
                      cases hsome
                      exact resolves_privateKeySecretReference hnamed hfresh hreferences hkey
                  · intro hremote
                    obtain ⟨hhost, husername, hremotePath, hauth, hknown⟩ := hpayload hremote
                    refine ⟨hhost, husername, hremotePath, hauth, hknown, ?_⟩
                    intro hprivate
                    simp only [validateResolvedTransport] at hvalid
                    cases htype : payload.targetType with
                    | local_ | smb =>
                        rw [htype] at hremote
                        cases hremote
                    | ssh | rsync =>
                        rw [htype] at hvalid
                        simp only at hprivate
                        rw [hprivate] at hvalid
                        simp only at hvalid ⊢
                        split at hvalid
                        · next hsome => exact hsome
                        · cases hvalid

end

end ImmichDoctor.Services
