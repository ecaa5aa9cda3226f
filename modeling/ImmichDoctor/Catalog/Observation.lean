import ImmichDoctor.Catalog.Discovery
/-!
# Observing files

`_observe_file_batch` of a static tree: what a worker records for the paths of the
row it has claimed. `lower` stands for `str.lower`.
-/

namespace ImmichDoctor.Catalog

open ImmichDoctor.Library

namespace Entries

/-- The regular files of `base` and below with the answer of `stat`. -/
def fileStats (base : PyStr) : Entries → List (PyStr × Option FileStat)
  | nil => []
  | leaf name (.file stat) rest => (childPath base name, stat) :: rest.fileStats base
  | leaf _ _ rest => rest.fileStats base
  | directory name entries rest =>
      entries.fileStats (childPath base name) ++ rest.fileStats base

end Entries

/-- The answer of `stat` for a relative path; `none` when it is not a regular file. -/
def DirectoryTree.fileStat (tree : DirectoryTree) (path : PyStr) : Option (Option FileStat) :=
  ((tree.root.elim [] (Entries.fileStats [])).find? fun entry => entry.1 = path).map Prod.snd

/-! ## The parts of a path -/

/-- `Path(path).name`. -/
def fileNameOf (path : PyStr) : PyStr :=
  (path.reverse.takeWhile (· ≠ 47)).reverse

/-- `Path(path).parent` as text, where `.` becomes the empty text. -/
def parentOf (path : PyStr) : PyStr :=
  ((path.reverse.dropWhile (· ≠ 47)).tail.reverse).map fun c => if c = 92 then 47 else c

/-- `Path(name).suffix`: from the last dot on, unless the dot is the first or the last
character. -/
def suffixOf (name : PyStr) : PyStr :=
  let extension := name.reverse.takeWhile (· ≠ 46)
  if extension.length + 1 < name.length ∧ extension ≠ [] then 46 :: extension.reverse else []

/-! ## Guessed types -/

def imageExtensions : List PyStr :=
  [py ".jpg", py ".jpeg", py ".png", py ".webp", py ".gif", py ".bmp", py ".tif", py ".tiff"]

def videoExtensions : List PyStr :=
  [py ".mp4", py ".mov", py ".m4v", py ".avi", py ".mkv", py ".webm"]

def audioExtensions : List PyStr :=
  [py ".mp3", py ".wav", py ".flac", py ".ogg", py ".aac", py ".m4a"]

/-- `_guess_types`: the file type and the media class. -/
def guessTypes : Option PyStr → PyStr × PyStr
  | none => (py "unknown", py "unknown")
  | some extension =>
      if extension ∈ imageExtensions then (py "image", py "image")
      else if extension ∈ videoExtensions then (py "video", py "video")
      else if extension ∈ audioExtensions then (py "audio", py "audio")
      else (py "generic", py "unknown")

/-! ## Observations -/

/-- `value or None`. -/
def orNone (text : PyStr) : Option PyStr :=
  if text = [] then none else some text

def buildObservation (lower : PyStr → PyStr) (path : PyStr) (stat : FileStat) :
    CatalogFileObservation :=
  let extension := orNone (lower (suffixOf (fileNameOf path)))
  { relativePath := path
    parentRelativePath := parentOf path
    fileName := fileNameOf path
    extension := extension
    sizeBytes := stat.stSize
    createdAtFs := some stat.stCtime
    modifiedAtFs := some stat.stMtime
    fileTypeGuess := (guessTypes extension).1
    mediaClassGuess := (guessTypes extension).2
    zeroByteFlag := stat.stSize = 0
    statDevice := orNone (PyStr.decimal stat.stDev)
    statInode := orNone (PyStr.decimal stat.stIno) }

/-- One path of the batch. -/
def observePath (lower : PyStr → PyStr) (tree : DirectoryTree) (batch : ObservedBatch)
    (path : PyStr) : ObservedBatch :=
  match tree.fileStat path with
  | none => batch
  | some none => { batch with errorCount := batch.errorCount + 1 }
  | some (some stat) =>
      let observation := buildObservation lower path stat
      { files := batch.files ++ [observation]
        errorCount := batch.errorCount
        bytesDelta := batch.bytesDelta + observation.sizeBytes
        lastRelativePath := some observation.relativePath }

/-- `_observe_file_batch`. -/
def observeFileBatch (lower : PyStr → PyStr) (tree : DirectoryTree) (paths : List PyStr) :
    ObservedBatch :=
  let batch := paths.foldl (observePath lower tree) ⟨[], 0, 0, none⟩
  { batch with
    files := batch.files.insertionSort fun a b => a.relativePath ≤ b.relativePath }

/-- An observation is that of its path. -/
theorem of_mem_observeFileBatch {lower : PyStr → PyStr} {tree : DirectoryTree}
    {paths : List PyStr} {observation : CatalogFileObservation}
    (h : observation ∈ (observeFileBatch lower tree paths).files) :
    ∃ stat, tree.fileStat observation.relativePath = some (some stat) ∧
      observation = buildObservation lower observation.relativePath stat := by
  have hbatch : observation ∈ (paths.foldl (observePath lower tree) ⟨[], 0, 0, none⟩).files :=
    (List.perm_insertionSort _ _).mem_iff.mp h
  have hinit : ∀ batch : ObservedBatch,
      observation ∈ (paths.foldl (observePath lower tree) batch).files →
      observation ∈ batch.files ∨ ∃ stat,
        tree.fileStat observation.relativePath = some (some stat) ∧
        observation = buildObservation lower observation.relativePath stat := by
    clear h hbatch
    induction paths with
    | nil => exact fun batch h => Or.inl h
    | cons path rest ih =>
        intro batch h
        rcases ih _ h with hfirst | hrest
        · unfold observePath at hfirst
          split at hfirst
          · exact Or.inl hfirst
          · exact Or.inl hfirst
          · next stat hstat =>
              rcases List.mem_append.mp hfirst with hold | hnew
              · exact Or.inl hold
              · rw [List.mem_singleton.mp hnew]
                exact Or.inr ⟨stat, hstat, rfl⟩
        · exact Or.inr hrest
  rcases hinit _ hbatch with hnil | hstat
  · cases hnil
  · exact hstat

/-- Two observations of a tree with the same path are the same. -/
theorem observation_eq_of_path_eq {lower : PyStr → PyStr} {tree : DirectoryTree}
    {paths others : List PyStr} {a b : CatalogFileObservation}
    (ha : a ∈ (observeFileBatch lower tree paths).files)
    (hb : b ∈ (observeFileBatch lower tree others).files)
    (hpath : a.relativePath = b.relativePath) :
    a = b := by
  obtain ⟨stat, hstat, hobserved⟩ := of_mem_observeFileBatch ha
  obtain ⟨otherStat, hother, hotherObserved⟩ := of_mem_observeFileBatch hb
  rw [hpath, hother] at hstat
  rw [hobserved, hotherObserved, hpath, Option.some.inj (Option.some.inj hstat)]

end ImmichDoctor.Catalog
