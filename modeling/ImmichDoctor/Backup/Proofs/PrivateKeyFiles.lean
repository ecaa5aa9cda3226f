import ImmichDoctor.Backup.RemoteTransport
/-!
# Private keys in temporary files

The key file of a connection is removed when its user is done with it. What raises between the
moment the file is created and the moment the connection is given to its user leaves it behind.
-/

namespace ImmichDoctor.Backup

open ImmichDoctor.Library

/-! ## Secrets -/

section Secrets

theorem head_replaceReturnNewlines {material : PyStr} (h : material.head? ≠ some 0xFEFF) :
    (replaceReturnNewlines material).head? ≠ some 0xFEFF := by
  cases material with
  | nil => simp [replaceReturnNewlines]
  | cons c rest =>
      by_cases hreturn : ∃ rest', c = 13 ∧ rest = 10 :: rest'
      · obtain ⟨rest', rfl, rfl⟩ := hreturn
        simp [replaceReturnNewlines]
      · rw [replaceReturnNewlines]
        · simpa using h
        · rintro rest' rfl hrest
          exact hreturn ⟨rest', rfl, hrest⟩

/-- Without carriage returns there is nothing to replace. -/
theorem replaceReturnNewlines_of_not_mem {material : PyStr} (h : 13 ∉ material) :
    replaceReturnNewlines material = material := by
  induction material with
  | nil => rfl
  | cons c rest ih =>
      rw [List.mem_cons, not_or] at h
      rw [replaceReturnNewlines, ih h.2]
      exact fun rest' hc _ => h.1 hc.symm

/-- A key without byte order marks and carriage returns that ends with a newline, if it is not
empty. -/
structure Normalized (key : PyStr) : Prop where
  head : key.head? ≠ some 0xFEFF
  newlines : 13 ∉ key
  last : key ≠ [] → key.getLast? = some 10

theorem normalized_normalizeMaterial (material : PyStr) :
    Normalized (normalizeMaterial (py "private_key") material) := by
  have hstripped : (material.dropWhile (· = 0xFEFF)).head? ≠ some 0xFEFF := by
    intro hhead
    have hnot := List.head?_dropWhile_not (fun c => decide (c = 0xFEFF)) material
    rw [hhead] at hnot
    simp at hnot
  have hhead := head_replaceReturnNewlines hstripped
  rw [normalizeMaterial, if_neg (not_not_intro rfl)]
  generalize replaceReturnNewlines (material.dropWhile (· = 0xFEFF)) = text at hhead
  have hbody : (text.map fun c => if c = 13 then 10 else c).head? ≠ some 0xFEFF ∧
      13 ∉ text.map fun c => if c = 13 then 10 else c := by
    constructor
    · cases text with
      | nil => simp
      | cons c text =>
          simp only [List.map_cons, List.head?_cons, Option.some.injEq, ne_eq] at hhead ⊢
          split <;> omega
    · rintro hmem
      obtain ⟨c, -, hc⟩ := List.mem_map.mp hmem
      split at hc <;> omega
  generalize (text.map fun c => if c = 13 then 10 else c) = body at hbody
  simp only
  by_cases hopen : body ≠ [] ∧ body.getLast? ≠ some 10
  · rw [if_pos hopen]
    refine ⟨?_, ?_, fun _ => by simp⟩
    · rw [List.head?_append_of_ne_nil _ hopen.1]
      exact hbody.1
    · simp [hbody.2]
  · rw [if_neg hopen]
    refine ⟨hbody.1, hbody.2, fun hne => ?_⟩
    by_contra hlast
    exact hopen ⟨hne, hlast⟩

theorem normalizeMaterial_of_normalized {key : PyStr} (h : Normalized key) :
    normalizeMaterial (py "private_key") key = key := by
  have hstripped : key.dropWhile (· = 0xFEFF) = key := by
    cases key with
    | nil => rfl
    | cons c rest =>
        rw [List.dropWhile_cons_of_neg]
        simpa using h.head
  have hmap : (key.map fun c => if c = 13 then 10 else c) = key := by
    rw [List.map_congr_left (g := id) fun c hc => ?_, List.map_id]
    exact if_neg fun heq : c = 13 => h.newlines (heq ▸ hc)
  rw [normalizeMaterial, if_neg (not_not_intro rfl), hstripped,
    replaceReturnNewlines_of_not_mem h.newlines, hmap]
  exact if_neg fun hopen => hopen.2 (h.last hopen.1)

/-- What is stored as a secret is loaded as it was normalized, which changes nothing the second
time. -/
theorem loadSecretMaterial_persistSecret (secretId createdAt kind label material : PyStr)
    (files : SecretFiles) :
    loadSecretMaterial (persistSecret secretId createdAt kind label material files).2 secretId =
      some (normalizeMaterial kind material) := by
  have htwice : normalizeMaterial kind (normalizeMaterial kind material) =
      normalizeMaterial kind material := by
    by_cases hkind : kind = py "private_key"
    · rw [hkind]
      exact normalizeMaterial_of_normalized (normalized_normalizeMaterial material)
    · simp only [normalizeMaterial, ne_eq, hkind, not_false_eq_true, if_true]
  simp only [loadSecretMaterial, persistSecret, if_true, Option.map_some, htwice]

end Secrets

/-! ## Key files -/

section KeyFiles

variable {request : ConnectionRequest} {files : KeyFiles}

/-- The key that a connection writes to its temporary file. -/
def ConnectionRequest.key? (request : ConnectionRequest) : Option PyStr := do
  let _ ← request.transport.host
  let _ ← request.transport.username
  let _ ← request.transport.remotePath
  let summary ← request.transport.privateKeySecretRef
  let key ← loadSecretMaterial request.secrets summary.secretId
  if request.transport.authMode = some .privateKey ∧ request.faults.createKey = false then some key
  else none

/-- Whether something goes wrong between the creation of the key file and its removal: the write
raises, the mode for known hosts is missing, the file of known hosts cannot be made, or the removal
raises. -/
def ConnectionRequest.interrupted (request : ConnectionRequest) : Bool :=
  request.faults.writeKey.isSome || request.transport.knownHostMode.isNone ||
    (request.transport.knownHostMode != some .disabled && request.faults.knownHosts) ||
      request.faults.unlinkKey

/-- What a connection leaves in its temporary file. -/
def ConnectionRequest.left? (request : ConnectionRequest) : Option PyStr :=
  if request.interrupted then
    request.key?.map fun key => (request.faults.writeKey.elim key key.take)
  else none

theorem unlink_put (content : PyStr) (hfresh : files request.keyPath = none) :
    request.unlink (request.put content files) = files := by
  funext path
  by_cases hpath : path = request.keyPath
  · rw [ConnectionRequest.unlink, if_pos hpath, hpath, hfresh]
  · rw [ConnectionRequest.unlink, if_neg hpath, ConnectionRequest.put, if_neg hpath]

/-- A connection without a key file leaves the files as they are. -/
theorem files_connect_false (host username remotePath : PyStr) (keyOptions : List PyStr) :
    (request.connect host username remotePath keyOptions false files).2 = files := by
  rw [ConnectionRequest.connect]
  split <;> rfl

/-- The files after a connection whose key file was written. -/
theorem files_connect_true (host username remotePath key : PyStr) (keyOptions : List PyStr)
    (hwrite : request.faults.writeKey = none) (hfresh : files request.keyPath = none) :
    (request.connect host username remotePath keyOptions true (request.put key files)).2 =
      if request.interrupted then request.put key files else files := by
  have hinterrupted : request.interrupted = (request.transport.knownHostMode.isNone ||
      (request.transport.knownHostMode != some .disabled && request.faults.knownHosts) ||
        request.faults.unlinkKey) := by
    rw [ConnectionRequest.interrupted, hwrite]
    rfl
  rw [hinterrupted, ConnectionRequest.connect, ConnectionRequest.knownHostOptions]
  have hunlink := unlink_put key hfresh
  rcases request.transport.knownHostMode with _ | _ | _ | _
  · rfl
  all_goals
    cases request.faults.knownHosts <;> cases request.faults.unlinkKey <;>
      first | rfl | exact hunlink

/-- The temporary file of a connection is there afterwards exactly when something went wrong while
it was there. -/
theorem files_prepare (hfresh : files request.keyPath = none) :
    (request.prepare files).2 =
      match request.left? with
      | none => files
      | some content => request.put content files := by
  have hnone : request.key? = none → request.left? = none := by
    intro hkey
    rw [ConnectionRequest.left?, hkey]
    split <;> rfl
  rw [ConnectionRequest.prepare]
  by_cases hpassword : request.transport.authMode = some .password
  · rw [if_pos hpassword, hnone (by simp [ConnectionRequest.key?, hpassword])]
  rw [if_neg hpassword]
  cases hhost : request.transport.host with
  | none => rw [hnone (by simp [ConnectionRequest.key?, hhost])]
  | some host =>
  cases husername : request.transport.username with
  | none => rw [hnone (by simp [ConnectionRequest.key?, husername])]
  | some username =>
  cases hpath : request.transport.remotePath with
  | none => rw [hnone (by simp [ConnectionRequest.key?, hpath])]
  | some remotePath =>
  simp only [ConnectionRequest.privateKey]
  cases hauth : request.transport.authMode with
  | none => rw [hnone (by simp [ConnectionRequest.key?, hauth])]
  | some mode =>
  cases mode with
  | password => exact absurd hauth hpassword
  | agent =>
      rw [hnone (by simp [ConnectionRequest.key?, hauth])]
      exact files_connect_false host username remotePath []
  | privateKey =>
  cases hsecret : request.transport.privateKeySecretRef with
  | none => rw [hnone (by simp [ConnectionRequest.key?, hsecret])]
  | some summary =>
  cases hload : loadSecretMaterial request.secrets summary.secretId with
  | none => simp only [hload, hnone (by simp [ConnectionRequest.key?, hsecret, hload])]
  | some key =>
  simp only [hload]
  cases hcreate : request.faults.createKey with
  | true => rw [if_pos rfl, hnone (by simp [ConnectionRequest.key?, hcreate])]
  | false =>
  have hkey : request.key? = some key := by
    simp [ConnectionRequest.key?, hhost, husername, hpath, hsecret, hload, hauth, hcreate]
  rw [if_neg Bool.false_ne_true, ConnectionRequest.left?, hkey]
  cases hwrite : request.faults.writeKey with
  | some written => simp [ConnectionRequest.interrupted, hwrite]
  | none =>
      simp only [files_connect_true host username remotePath key _ hwrite hfresh]
      split <;> rfl

/-! ## Connections one after the other -/

/-- The temporary files after some connections. -/
def filesAfter (requests : List ConnectionRequest) (files : KeyFiles) : KeyFiles :=
  requests.foldl (fun files request => (request.prepare files).2) files

/-- After any connections, of which no two have a file of the same name, a private key is in a
temporary file exactly where a connection was interrupted while its key file was there, and that is
the key of this connection as far as it was written. -/
theorem private_keys_left_behind {requests : List ConnectionRequest}
    (hnames : (requests.map (·.keyPath)).Nodup) (path content : PyStr) :
    filesAfter requests (fun _ => none) path = some content ↔
      ∃ request ∈ requests, request.keyPath = path ∧ request.left? = some content := by
  suffices hstart : ∀ files : KeyFiles, (∀ request ∈ requests, files request.keyPath = none) →
      (filesAfter requests files path = some content ↔ files path = some content ∨
        ∃ request ∈ requests, request.keyPath = path ∧ request.left? = some content) by
    rw [hstart _ fun _ _ => rfl]
    simp
  intro files hfresh
  induction requests generalizing files with
  | nil => simp [filesAfter]
  | cons request requests ih =>
      rw [List.map_cons, List.nodup_cons] at hnames
      obtain ⟨hfirst, hrest⟩ := List.forall_mem_cons.mp hfresh
      have hother : ∀ later ∈ requests, later.keyPath ≠ request.keyPath :=
        fun later hlater heq => hnames.1 (heq ▸ List.mem_map_of_mem hlater)
      rw [filesAfter, List.foldl_cons, ← filesAfter, files_prepare hfirst]
      cases hleft : request.left? with
      | none =>
          rw [ih hnames.2 files hrest]
          simp [hleft]
      | some left =>
          have hput : ∀ later ∈ requests, request.put left files later.keyPath = none := by
            intro later hlater
            rw [ConnectionRequest.put, if_neg (hother later hlater)]
            exact hrest later hlater
          rw [ih hnames.2 _ hput, ConnectionRequest.put]
          by_cases hpath : path = request.keyPath
          · rw [if_pos hpath, hpath, hfirst]
            simp [hleft]
          · rw [if_neg hpath]
            simp [Ne.symm hpath]

end KeyFiles

/-! ## A file of known hosts that cannot be made -/

def keyRecord : StoredSecretRecord where
  secretId := py "s1"
  kind := py "private_key"
  label := py "key"
  createdAt := []
  material := py "key\n"

def keyTransport : BackupTargetTransportSettings where
  path := none
  host := some (py "backup")
  port := some 22
  share := none
  remotePath := some (py "/srv/backup")
  username := some (py "doctor")
  authMode := some .privateKey
  mountStrategy := none
  mountedPath := none
  knownHostMode := some .strict
  knownHostReference := none
  domain := none
  mountOptions := none
  passwordSecretRef := none
  privateKeySecretRef := some keyRecord.summary

def keyRequest (keyPath : String) (knownHosts : Bool) : ConnectionRequest where
  transport := keyTransport
  secrets := fun id => if id = py "s1" then some keyRecord else none
  knownHostsPath := fun _ => py "/root/.ssh/known_hosts"
  keyPath := py keyPath
  faults := ⟨false, none, knownHosts, false⟩

/-- The first of two connections leaves its key in the temporary directory. -/
theorem private_keys_left_behind_known_hosts :
    filesAfter [keyRequest "/tmp/k1" true, keyRequest "/tmp/k2" false] (fun _ => none)
        (py "/tmp/k1") = some (py "key\n") ∧
      ∀ content, filesAfter [keyRequest "/tmp/k1" true, keyRequest "/tmp/k2" false]
        (fun _ => none) (py "/tmp/k2") ≠ some content := by
  have hnames : ([keyRequest "/tmp/k1" true, keyRequest "/tmp/k2" false].map
      (·.keyPath)).Nodup := by
    decide
  constructor
  · rw [private_keys_left_behind hnames]
    exact ⟨_, List.mem_cons_self, rfl, by decide⟩
  · intro content hcontent
    rw [private_keys_left_behind hnames] at hcontent
    obtain ⟨request, hrequest, hpath, hleft⟩ := hcontent
    rcases List.mem_cons.mp hrequest with rfl | hsecond
    · revert hpath
      decide
    · rw [List.mem_singleton.mp hsecond, show (keyRequest "/tmp/k2" false).left? = none by decide]
        at hleft
      cases hleft

end ImmichDoctor.Backup
