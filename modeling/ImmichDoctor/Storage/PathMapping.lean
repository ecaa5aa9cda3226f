import ImmichDoctor.Library.PurePath
/-!
# Path mapping

`ImmichStoragePathResolver`: from a path text of the Immich database to a configured
storage root and a path relative to it. A path below a configured root is mapped at
runtime; a path below the upload location of a stock container is mapped to the root
that took its place.
-/

namespace ImmichDoctor.Storage

open ImmichDoctor.Library

/-- The storage paths of `AppSettings`. -/
structure StorageSettings where
  immichLibraryRoot : Option PurePath
  immichUploadsPath : Option PurePath
  immichThumbsPath : Option PurePath
  immichProfilePath : Option PurePath
  immichVideoPath : Option PurePath

inductive MappingMode
  | runtime
  | legacy
  deriving DecidableEq

structure ResolvedStoragePath where
  rootSlug : PyStr
  relativePath : PyStr
  absolutePath : PurePath
  mappingMode : MappingMode
  deriving DecidableEq

structure RootMapping where
  slug : PyStr
  rootPath : PurePath
  runtimePrefix : PurePath
  legacyPrefix : Option PurePath

def legacyRootPrefix : PurePath :=
  .parse (py "/usr/src/app/upload")

/-- `_LEGACY_SEGMENTS_BY_ROOT`. -/
def legacySegmentsByRoot : List (PyStr × PyStr) :=
  [(py "library", py "library"), (py "uploads", py "upload"), (py "thumbs", py "thumbs"),
    (py "profile", py "profile"), (py "video", py "encoded-video")]

/-- `_LEGACY_ROOT_PREFIX / _LEGACY_SEGMENTS_BY_ROOT[slug]`. -/
def legacyPrefixOf (slug : PyStr) : Option PurePath :=
  (legacySegmentsByRoot.lookup slug).map fun segment =>
    legacyRootPrefix.joinParts (PurePath.partsOf segment) (PurePath.valid_partsOf segment)

def rootMapping (slug : PyStr) (path : PurePath) : RootMapping where
  slug := slug
  rootPath := path
  runtimePrefix := .parse path.text.forwardSlashes
  legacyPrefix := legacyPrefixOf slug

/-- `_build_roots`. -/
def buildRoots (settings : StorageSettings) : List RootMapping :=
  [(py "library", settings.immichLibraryRoot), (py "uploads", settings.immichUploadsPath),
    (py "thumbs", settings.immichThumbsPath), (py "profile", settings.immichProfilePath),
    (py "video", settings.immichVideoPath)].filterMap fun entry =>
      entry.2.map (rootMapping entry.1)

/-- `_normalize`. -/
def normalize (pathText : PyStr) : Option PurePath :=
  let value := pathText.strip
  if value = [] then none else some (.parse value.forwardSlashes)

/-- `_relative_to`. -/
def relativeTo (path base : PurePath) : Option PyStr :=
  (path.relativeTo? base).map PurePath.joined

/-- `_join_root`. -/
def joinRoot (rootPath : PurePath) (relativePath : PyStr) : PurePath :=
  rootPath.joinParts (PurePath.parse relativePath).parts (PurePath.parse relativePath).valid

def RootMapping.resolved (root : RootMapping) (mode : MappingMode) (relative : PyStr) :
    ResolvedStoragePath where
  rootSlug := root.slug
  relativePath := relative
  absolutePath := joinRoot root.rootPath relative
  mappingMode := mode

def RootMapping.resolveRuntime (path : PurePath) (root : RootMapping) :
    Option ResolvedStoragePath :=
  (relativeTo path root.runtimePrefix).map (root.resolved .runtime)

def RootMapping.resolveLegacy (path : PurePath) (root : RootMapping) :
    Option ResolvedStoragePath := do
  let legacyPrefix ← root.legacyPrefix
  (relativeTo path legacyPrefix).map (root.resolved .legacy)

/-- `resolve`: the first runtime root above the path, else the first legacy one. -/
def resolve (settings : StorageSettings) (pathText : PyStr) : Option ResolvedStoragePath := do
  let normalized ← normalize pathText
  (buildRoots settings).findSome? (RootMapping.resolveRuntime normalized) <|>
    (buildRoots settings).findSome? (RootMapping.resolveLegacy normalized)

/-- `looks_like_legacy_immich_path`. -/
def looksLikeLegacyImmichPath (pathText : PyStr) : Bool :=
  (normalize pathText).any fun path => (relativeTo path legacyRootPrefix).isSome

example : (resolve ⟨none, some (.parse (py "/data/upload")), none, none, none⟩
    (py " /data//upload/./user\\a.jpg")).map (·.relativePath) = some (py "user/a.jpg") := by decide

end ImmichDoctor.Storage
