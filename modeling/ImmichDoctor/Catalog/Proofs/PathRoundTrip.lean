import ImmichDoctor.Catalog.ConsistencyState
import ImmichDoctor.Catalog.Proofs.TreePaths
import ImmichDoctor.Storage.Proofs.PathResolution
import Mathlib.Data.List.TakeWhile
/-!
# From the scanner to the resolver and back

The scanner records a file of a root under its path relative to the root; the resolver
finds root and relative path in the text of the whole path. It strips white space and
takes backslashes for slashes first, so that the two agree for ordinary names only.
-/

namespace ImmichDoctor.Catalog

open ImmichDoctor.Library
open ImmichDoctor.Library.PurePath
open ImmichDoctor.Storage

/-- The text of the path of a file of the root is resolved to the root and to the
relative path the scanner records. -/
def RoundTrips (settings : StorageSettings) (root : RootMapping) (path : PyStr) : Prop :=
  (resolve settings (joinRoot root.rootPath path).text).map
    (fun resolved => (resolved.rootSlug, resolved.relativePath)) = some (root.slug, path)

/-- The roots that are tried before the root. -/
def rootsBefore (settings : StorageSettings) (root : RootMapping) : List RootMapping :=
  (buildRoots settings).takeWhile fun other => other.slug ≠ root.slug

/-! ## The text of a path below a root -/

section Text

variable {root : PurePath} {names front : List PyStr} {last : PyStr}

/-- The text of an absolute path ends with a slash and its last name. -/
theorem text_snoc {path : PurePath} (habs : path.anchor ≠ .relative)
    (hparts : path.parts = front ++ [last]) :
    ∃ head, path.text = head ++ 47 :: last ∧ slashedParts head = front.flatMap slashedParts := by
  have htext : path.text = Anchor.text path.anchor ++ joined (front ++ [last]) := by
    unfold PurePath.text
    rw [if_neg (fun h => habs h.1), hparts]
  by_cases hfront : front = []
  · rw [htext, hfront]
    cases hanchor : path.anchor with
    | relative => exact absurd hanchor habs
    | slash => exact ⟨[], by simp [Anchor.text, joined], rfl⟩
    | doubleSlash => exact ⟨[47], by simp [Anchor.text, joined], rfl⟩
  · refine ⟨Anchor.text path.anchor ++ joined front, ?_, ?_⟩
    · rw [htext, joined_append hfront (List.cons_ne_nil _ _), List.append_assoc]
      simp [joined]
    · rw [slashedParts_anchor, slashedParts_joined]

/-- An absolute path starts with a slash. -/
theorem strip_text {path : PurePath} (habs : path.anchor ≠ .relative) :
    path.text.strip = PyStr.rstrip path.text := by
  unfold PurePath.text
  rw [if_neg (fun h => habs h.1)]
  cases hanchor : path.anchor with
  | relative => exact absurd hanchor habs
  | slash => exact PyStr.strip_eq_rstrip rfl
  | doubleSlash => exact PyStr.strip_eq_rstrip rfl

/-- What is left of the path after `strip`. -/
theorem normalize_text {path : PurePath} (habs : path.anchor ≠ .relative)
    (hparts : path.parts = front ++ [last]) :
    ImmichDoctor.Storage.normalize path.text =
      some (.parse (PyStr.rstrip path.text).forwardSlashes) := by
  have hne : PyStr.rstrip path.text ≠ [] := by
    obtain ⟨head, htext, -⟩ := text_snoc habs hparts
    rw [htext, PyStr.rstrip_append_cons _ _ rfl]
    simp
  unfold ImmichDoctor.Storage.normalize
  rw [strip_text habs, if_neg hne]

theorem parts_normalized {path : PurePath} (habs : path.anchor ≠ .relative)
    (hparts : path.parts = front ++ [last]) :
    (PurePath.parse (PyStr.rstrip path.text).forwardSlashes).parts =
      front.flatMap slashedParts ++ slashedParts (PyStr.rstrip last) := by
  obtain ⟨head, htext, hhead⟩ := text_snoc habs hparts
  rw [parse_parts, htext, PyStr.rstrip_append_cons _ _ rfl]
  exact (slashedParts_append_slash _ _).trans (by rw [hhead])

/-- Without white space at its end or a backslash a name keeps itself, else it does not. -/
theorem slashedParts_rstrip_eq_iff (hlast : validPart last = true) :
    slashedParts (PyStr.rstrip last) = [last] ↔
      92 ∉ last ∧ ∀ c ∈ last.getLast?, PyStr.isSpace c = false := by
  rw [← PyStr.rstrip_eq_self_iff]
  constructor
  · intro h
    have hback : 92 ∉ last :=
      backslash_notMem_of_mem_slashedParts (h ▸ List.mem_singleton_self last)
    have hslash : 47 ∉ last := (validPart_iff.mp hlast).2.2
    have hstripBack : 92 ∉ PyStr.rstrip last := fun hmem => hback (PyStr.mem_of_mem_rstrip hmem)
    have hstripSlash : 47 ∉ PyStr.rstrip last := fun hmem => hslash (PyStr.mem_of_mem_rstrip hmem)
    rw [slashedParts, PyStr.forwardSlashes_eq_self hstripBack] at h
    rcases partsOf_of_notMem hstripSlash with hnone | hself
    · rw [hnone] at h
      cases h
    · rw [hself] at h
      exact ⟨hback, (List.cons.inj h).1⟩
  · rintro ⟨hback, hstrip⟩
    rw [hstrip]
    exact slashedParts_of_valid hlast hback

end Text

/-! ## Agreement of the parts -/

/-- The normalised path has the parts of the root and the names of the file if and only if
no name has a backslash and the last one does not end with white space. -/
theorem parts_agree_iff {front : List PyStr} {last : PyStr}
    (hvalid : (front ++ [last]).all validPart = true) :
    front.flatMap slashedParts ++ slashedParts (PyStr.rstrip last) = front ++ [last] ↔
      (∀ name ∈ front ++ [last], 92 ∉ name) ∧ ∀ c ∈ last.getLast?, PyStr.isSpace c = false := by
  rw [List.all_append, Bool.and_eq_true, List.all_cons, Bool.and_eq_true] at hvalid
  obtain ⟨hfront, hlast, -⟩ := hvalid
  have hflat : (∀ name ∈ front, 92 ∉ name) → front.flatMap slashedParts = front :=
    flatMap_slashedParts hfront
  constructor
  · intro h
    have hback : ∀ name ∈ front ++ [last], 92 ∉ name := by
      intro name hname
      rw [← h] at hname
      rcases List.mem_append.mp hname with hmem | hmem
      · obtain ⟨text, -, hpart⟩ := List.mem_flatMap.mp hmem
        exact backslash_notMem_of_mem_slashedParts hpart
      · exact backslash_notMem_of_mem_slashedParts hmem
    rw [hflat fun name hname => hback name (List.mem_append_left _ hname)] at h
    exact ⟨hback, ((slashedParts_rstrip_eq_iff hlast).mp (List.append_cancel_left h)).2⟩
  · rintro ⟨hback, hspace⟩
    rw [hflat fun name hname => hback name (List.mem_append_left _ hname),
      (slashedParts_rstrip_eq_iff hlast).mpr
        ⟨hback last (List.mem_append_right _ (List.mem_singleton_self last)), hspace⟩]

/-! ## Agreement of the roots -/

theorem exists_joined_eq_cons {names : List PyStr} (hne : names ≠ [])
    (hvalid : names.all validPart = true) : ∃ c rest, joined names = c :: rest ∧ c ≠ 47 := by
  have hhead : ∀ first : PyStr, validPart first = true → ∃ c rest, first = c :: rest ∧ c ≠ 47 := by
    intro first hfirst
    cases first with
    | nil => cases hfirst
    | cons c rest =>
        refine ⟨c, rest, rfl, ?_⟩
        rintro rfl
        exact (validPart_iff.mp hfirst).2.2 List.mem_cons_self
  cases names with
  | nil => exact absurd rfl hne
  | cons first names =>
      rw [List.all_cons, Bool.and_eq_true] at hvalid
      obtain ⟨c, rest, rfl, hc⟩ := hhead first hvalid.1
      cases names with
      | nil => exact ⟨c, rest, by simp [joined], hc⟩
      | cons second names => exact ⟨c, _, joined_cons_cons _ _ _, hc⟩

theorem text_joinParts {root : PurePath} {names : List PyStr}
    (hnames : names.all validPart = true) (habs : root.anchor ≠ .relative)
    (hroot : root.parts ≠ []) (hne : names ≠ []) :
    (root.joinParts names hnames).text = root.text ++ 47 :: joined names := by
  unfold PurePath.text
  rw [if_neg (fun h => habs h.1), if_neg (fun h => habs h.1)]
  change Anchor.text root.anchor ++ joined (root.parts ++ names) = _
  rw [joined_append hroot hne, List.append_assoc]

/-- Below a root with a part, a path has the anchor of the root. -/
theorem anchor_eq_of_parts_ne_nil {root : PurePath} {names : List PyStr}
    (hnames : names.all validPart = true) (habs : root.anchor ≠ .relative) (hne : names ≠ [])
    (hparts : slashedParts root.text ≠ []) :
    (PurePath.parse (PyStr.rstrip (root.joinParts names hnames).text).forwardSlashes).anchor =
      (PurePath.parse root.text.forwardSlashes).anchor := by
  have hroot : root.parts ≠ [] := by
    intro hnil
    rw [slashedParts_text, hnil] at hparts
    exact hparts rfl
  rw [text_joinParts hnames habs hroot hne, PyStr.rstrip_append_cons _ _ rfl,
    PyStr.forwardSlashes_append, PyStr.forwardSlashes_cons_slash]
  exact splitRoot_append_slash _ hparts

/-- Only the root `/\` reads as the double slash it does not give to the paths below. -/
theorem anchor_agrees_iff {root : PurePath} {names : List PyStr}
    (hnames : names.all validPart = true) (habs : root.anchor ≠ .relative) (hne : names ≠ [])
    (hback : ∀ name ∈ names, 92 ∉ name) :
    (PurePath.parse (root.joinParts names hnames).text.forwardSlashes).anchor =
      (PurePath.parse root.text.forwardSlashes).anchor ↔ root.text ≠ [47, 92] := by
  have hkept : (joined names).forwardSlashes = joined names := by
    refine PyStr.forwardSlashes_eq_self fun hmem => ?_
    obtain ⟨name, hname, hc⟩ := (mem_joined_iff (by decide)).mp hmem
    exact hback name hname hc
  obtain ⟨c, rest, hjoined, hc⟩ := exists_joined_eq_cons hne hnames
  have hrootText : root.text = Anchor.text root.anchor ++ joined root.parts := by
    unfold PurePath.text
    rw [if_neg fun h => habs h.1]
  by_cases hroot : root.parts = []
  · have htext : (root.joinParts names hnames).text = Anchor.text root.anchor ++ joined names := by
      unfold PurePath.text
      rw [if_neg fun h => habs h.1]
      change Anchor.text root.anchor ++ joined (root.parts ++ names) = _
      rw [hroot, List.nil_append]
    rw [htext, hrootText, hroot, PyStr.forwardSlashes_append, hkept, hjoined]
    cases hanchor : root.anchor with
    | relative => exact absurd hanchor habs
    | slash => exact iff_of_true (by simp [parse, splitRoot, Anchor.text, PyStr.forwardSlashes,
        joined, hc]) (by decide)
    | doubleSlash => exact iff_of_true (by simp [parse, splitRoot, Anchor.text,
        PyStr.forwardSlashes, joined, hc]) (by decide)
  · obtain ⟨d, others, hfirst, hd⟩ := exists_joined_eq_cons hroot root.valid
    rw [text_joinParts hnames habs hroot hne, PyStr.forwardSlashes_append,
      PyStr.forwardSlashes_cons_slash, hkept, hrootText, hfirst]
    cases hanchor : root.anchor with
    | relative => exact absurd hanchor habs
    | slash =>
        -- the root is `/` and a name; the anchors differ when the name is a backslash
        by_cases hd92 : d = 92
        · rw [hd92]
          cases others with
          | nil => exact iff_of_false (by simp [parse, splitRoot, Anchor.text,
              PyStr.forwardSlashes]) (by simp [Anchor.text])
          | cons e others =>
              refine iff_of_true ?_ (by simp [Anchor.text])
              by_cases he : (if e = 92 then 47 else e) = 47
              · simp [parse, splitRoot, Anchor.text, PyStr.forwardSlashes, he]
              · simp [parse, splitRoot, Anchor.text, PyStr.forwardSlashes, he]
        · refine iff_of_true ?_ (by simp [Anchor.text, hd92])
          simp [parse, splitRoot, Anchor.text, PyStr.forwardSlashes, hd, hd92]
    | doubleSlash =>
        refine iff_of_true ?_ (by simp [Anchor.text])
        by_cases hd92 : (if d = 92 then 47 else d) = 47
        · simp [parse, splitRoot, Anchor.text, PyStr.forwardSlashes, hd92]
        · simp [parse, splitRoot, Anchor.text, PyStr.forwardSlashes, hd92]

/-! ## The roots tried first -/

theorem exists_split_rootsBefore {settings : StorageSettings} {root : RootMapping}
    (hroot : root ∈ buildRoots settings) :
    ∃ after, buildRoots settings = rootsBefore settings root ++ root :: after := by
  have hsplit := List.takeWhile_append_dropWhile (p := fun other : RootMapping =>
    decide (other.slug ≠ root.slug)) (l := buildRoots settings)
  cases hdrop : (buildRoots settings).dropWhile fun other => decide (other.slug ≠ root.slug) with
  | nil =>
      have hall := List.dropWhile_eq_nil_iff.mp hdrop root hroot
      simp at hall
  | cons first after =>
      have hhead := List.head_dropWhile_not (fun other : RootMapping =>
        decide (other.slug ≠ root.slug)) (by rw [hdrop]; exact List.cons_ne_nil _ _)
      simp only [hdrop, List.head_cons, decide_eq_false_iff_not, not_not] at hhead
      have hmem : first ∈ buildRoots settings := by
        rw [← hsplit, hdrop]
        exact List.mem_append_right _ List.mem_cons_self
      have heq := eq_of_slug_eq hroot hmem hhead
      exact ⟨after, by rw [← heq, ← hdrop, heq]; exact hsplit.symm⟩

theorem eq_rootsBefore {settings : StorageSettings} {root : RootMapping}
    {before after : List RootMapping} (h : buildRoots settings = before ++ root :: after) :
    before = rootsBefore settings root := by
  have hnodup := buildRoots_slugs_nodup settings
  rw [h, List.map_append, List.map_cons] at hnodup
  have hbefore : ∀ other ∈ before, decide (other.slug ≠ root.slug) = true := by
    intro other hother
    rw [decide_eq_true_eq]
    intro heq
    have hdisjoint := (List.nodup_append.mp hnodup).2.2
    exact hdisjoint other.slug (List.mem_map_of_mem hother) root.slug List.mem_cons_self heq
  rw [rootsBefore, h, List.takeWhile_append_of_pos hbefore,
    List.takeWhile_cons_of_neg (by simp), List.append_nil]

/-! ## Resolution of a file of a root -/

section File

variable {settings : StorageSettings} {root : RootMapping} {front : List PyStr} {last : PyStr}

/-- What the text of the file's path is taken for. -/
def readBack (root : RootMapping) (names : List PyStr) (hnames : names.all validPart = true) :
    PurePath :=
  .parse (PyStr.rstrip (root.rootPath.joinParts names hnames).text).forwardSlashes

theorem readBack_parts (hroot : root ∈ buildRoots settings)
    (habs : root.rootPath.anchor ≠ .relative)
    (hnames : (front ++ [last]).all validPart = true) :
    (readBack root (front ++ [last]) hnames).parts = root.runtimePrefix.parts ++
      (front.flatMap slashedParts ++ slashedParts (PyStr.rstrip last)) := by
  have hparts : (root.rootPath.joinParts (front ++ [last]) hnames).parts =
      (root.rootPath.parts ++ front) ++ [last] := (List.append_assoc _ _ _).symm
  have hanchor : (root.rootPath.joinParts (front ++ [last]) hnames).anchor ≠ .relative := habs
  rw [readBack, parts_normalized hanchor hparts, List.flatMap_append, runtimePrefix_of_mem hroot,
    parse_parts, List.append_assoc]
  exact congrArg (· ++ _) (slashedParts_text root.rootPath).symm

theorem rstrip_text {path : PurePath} (habs : path.anchor ≠ .relative)
    (hparts : path.parts = front ++ [last])
    (hspace : ∀ c ∈ last.getLast?, PyStr.isSpace c = false) :
    PyStr.rstrip path.text = path.text := by
  obtain ⟨head, htext, -⟩ := text_snoc habs hparts
  rw [htext, PyStr.rstrip_append_cons _ _ rfl, PyStr.rstrip_eq_self_iff.mpr hspace]

/-- The file is found again below its root if and only if its names are ordinary and the
root is not the one that reads as a double slash. -/
theorem readBack_eq_iff (hroot : root ∈ buildRoots settings)
    (habs : root.rootPath.anchor ≠ .relative)
    (hnames : (front ++ [last]).all validPart = true) :
    ((readBack root (front ++ [last]) hnames).anchor = root.runtimePrefix.anchor ∧
        (readBack root (front ++ [last]) hnames).parts =
          root.runtimePrefix.parts ++ (front ++ [last])) ↔
      (∀ name ∈ front ++ [last], 92 ∉ name) ∧
        (∀ c ∈ last.getLast?, PyStr.isSpace c = false) ∧ root.rootPath.text ≠ [47, 92] := by
  have hparts : (readBack root (front ++ [last]) hnames).parts =
        root.runtimePrefix.parts ++ (front ++ [last]) ↔
      (∀ name ∈ front ++ [last], 92 ∉ name) ∧
        ∀ c ∈ last.getLast?, PyStr.isSpace c = false := by
    rw [readBack_parts hroot habs hnames, List.append_cancel_left_eq]
    exact parts_agree_iff hnames
  rw [and_comm, hparts, and_assoc]
  refine and_congr_right fun hback => and_congr_right fun hspace => ?_
  have hsplit : (root.rootPath.joinParts (front ++ [last]) hnames).parts =
      (root.rootPath.parts ++ front) ++ [last] := (List.append_assoc _ _ _).symm
  have hanchor : (root.rootPath.joinParts (front ++ [last]) hnames).anchor ≠ .relative := habs
  rw [readBack, rstrip_text hanchor hsplit hspace, runtimePrefix_of_mem hroot]
  exact anchor_agrees_iff hnames habs (by simp) hback

/-- A file is never found at the container's place of its root under its own path. -/
theorem resolveLegacy_readBack_ne (hroot : root ∈ buildRoots settings)
    (habs : root.rootPath.anchor ≠ .relative)
    (hnames : (front ++ [last]).all validPart = true)
    (hnot : ¬ (readBack root (front ++ [last]) hnames).Below root.runtimePrefix)
    {resolved : ResolvedStoragePath}
    (h : root.resolveLegacy (readBack root (front ++ [last]) hnames) = some resolved) :
    resolved.relativePath ≠ joined (front ++ [last]) := by
  obtain ⟨base, segment, hbase, hanchor, hbaseParts, -⟩ := legacyPrefix_of_mem hroot
  obtain ⟨parts, hsame, hsplit, rfl⟩ := (resolveLegacy_eq_some_iff hbase).mp h
  intro hjoined
  have hread := readBack_parts hroot habs hnames
  have hpartsEq : parts = front ++ [last] :=
    joined_inj (valid_of_parts_eq_append hsplit) hnames hjoined
  -- the root has no part left, so its anchor is not that of the path
  have hnil : root.runtimePrefix.parts = [] := by
    by_contra hne
    have hrootParts : slashedParts root.rootPath.text ≠ [] := by
      rw [runtimePrefix_of_mem hroot, parse_parts] at hne
      exact hne
    refine hnot ⟨?_, ?_⟩
    · rw [runtimePrefix_of_mem hroot]
      exact anchor_eq_of_parts_ne_nil hnames habs (by simp) hrootParts
    · rw [hread]
      exact List.prefix_append _ _
  have hback : ∀ name ∈ front ++ [last], 92 ∉ name := by
    intro name hname
    have hmem : name ∈ (readBack root (front ++ [last]) hnames).parts := by
      rw [hsplit, hpartsEq]
      exact List.mem_append_right _ hname
    rw [readBack, parse_parts] at hmem
    exact backslash_notMem_of_mem_slashedParts hmem
  have hfront : front.flatMap slashedParts = front := by
    rw [List.all_append, Bool.and_eq_true] at hnames
    exact flatMap_slashedParts hnames.1 fun name hname => hback name (List.mem_append_left _ hname)
  have hstrip : (slashedParts (PyStr.rstrip last)).length ≤ 1 := by
    have hmem : last ∈ front ++ [last] := List.mem_append_right _ (List.mem_singleton_self last)
    have hslash : 47 ∉ last := (validPart_iff.mp (List.all_eq_true.mp hnames last hmem)).2.2
    rw [slashedParts, PyStr.forwardSlashes_eq_self
      fun hc => hback last hmem (PyStr.mem_of_mem_rstrip hc)]
    rcases partsOf_of_notMem fun hc => hslash (PyStr.mem_of_mem_rstrip hc) with hnone | hself
    · rw [hnone]
      exact Nat.zero_le 1
    · rw [hself]
      exact Nat.le_refl 1
  rw [hread, hnil, hfront, hbaseParts, hpartsEq] at hsplit
  have hlength := congrArg List.length hsplit
  simp only [List.length_append, List.length_cons, List.length_nil] at hlength
  have hplaces : legacyRootPrefix.parts.length = 4 := by decide
  omega

/-- What is resolved to the root and the names of the file is read back as the file, which
no root tried before contains. -/
theorem resolve_file_iff (hroot : root ∈ buildRoots settings)
    (habs : root.rootPath.anchor ≠ .relative)
    (hnames : (front ++ [last]).all validPart = true) :
    (resolve settings (root.rootPath.joinParts (front ++ [last]) hnames).text).map
        (fun resolved => (resolved.rootSlug, resolved.relativePath)) =
          some (root.slug, joined (front ++ [last])) ↔
      ((readBack root (front ++ [last]) hnames).anchor = root.runtimePrefix.anchor ∧
        (readBack root (front ++ [last]) hnames).parts =
          root.runtimePrefix.parts ++ (front ++ [last])) ∧
        ∀ other ∈ rootsBefore settings root,
          ¬ (readBack root (front ++ [last]) hnames).Below other.runtimePrefix := by
  have hsplit : (root.rootPath.joinParts (front ++ [last]) hnames).parts =
      (root.rootPath.parts ++ front) ++ [last] := (List.append_assoc _ _ _).symm
  have hanchor : (root.rootPath.joinParts (front ++ [last]) hnames).anchor ≠ .relative := habs
  have hnormal : ImmichDoctor.Storage.normalize
      (root.rootPath.joinParts (front ++ [last]) hnames).text =
        some (readBack root (front ++ [last]) hnames) := normalize_text hanchor hsplit
  rw [Option.map_eq_some_iff]
  constructor
  · rintro ⟨resolved, hresolved, hpair⟩
    obtain ⟨hslug, hrelative⟩ := Prod.mk.inj hpair
    obtain ⟨path, hpath, hcases⟩ := resolve_eq_some_iff.mp hresolved
    cases hnormal.symm.trans hpath
    rcases hcases with ⟨before, found, after, hroots, hbefore, hfound⟩ |
      ⟨hnone, before, found, after, hroots, -, hfound⟩
    · obtain ⟨parts, hsame, hparts, rfl⟩ := resolveRuntime_eq_some_iff.mp hfound
      have hmem : found ∈ buildRoots settings := by
        rw [hroots]
        exact List.mem_append_right _ List.mem_cons_self
      cases eq_of_slug_eq hroot hmem hslug
      have hnamesEq : parts = front ++ [last] :=
        joined_inj (valid_of_parts_eq_append hparts) hnames hrelative
      exact ⟨⟨hsame, hparts.trans (by rw [hnamesEq])⟩, eq_rootsBefore hroots ▸ hbefore⟩
    · have hmem : found ∈ buildRoots settings := by
        rw [hroots]
        exact List.mem_append_right _ List.mem_cons_self
      have hfoundSlug : found.slug = root.slug := by
        obtain ⟨base, -, hbase, -⟩ := legacyPrefix_of_mem hmem
        obtain ⟨parts, -, -, rfl⟩ := (resolveLegacy_eq_some_iff hbase).mp hfound
        exact hslug
      cases eq_of_slug_eq hroot hmem hfoundSlug
      exact absurd hrelative
        (resolveLegacy_readBack_ne hroot habs hnames (hnone root hroot) hfound)
  · rintro ⟨⟨hsame, hparts⟩, hbefore⟩
    obtain ⟨after, hroots⟩ := exists_split_rootsBefore hroot
    refine ⟨root.resolved .runtime (joined (front ++ [last])), ?_, rfl⟩
    exact resolve_eq_some_iff.mpr ⟨_, hnormal, Or.inl ⟨_, root, after, hroots, hbefore,
      resolveRuntime_eq_some_iff.mpr ⟨_, hsame, hparts, rfl⟩⟩⟩

end File

/-! ## The files the scanner records -/

theorem validPart_of_validName {name : PyStr} (h : validName name = true) :
    validPart name = true := by
  simp only [validName, Bool.and_eq_true, decide_eq_true_eq] at h
  obtain ⟨⟨⟨⟨⟨hne, hdot⟩, -⟩, hslash⟩, -⟩, -⟩ := h
  rw [Bool.not_eq_true', List.contains_eq_mem, decide_eq_false_iff_not] at hslash
  exact validPart_iff.mpr ⟨hne, hdot, hslash⟩

/-- Every path below a directory is the join of valid names. -/
theorem exists_names_of_mem_paths {entries : Entries} {path : PyStr} {above : List PyStr}
    (hwell : entries.wellFormed = true) (habove : above.all validPart = true)
    (hpath : path ∈ entries.paths (joined above)) :
    ∃ front last, (front ++ [last]).all validPart = true ∧ path = joined (front ++ [last]) := by
  have hchild : ∀ {above : List PyStr} {name : PyStr}, above.all validPart = true →
      validName name = true → (above ++ [name]).all validPart = true ∧
        childPath (joined above) name = joined (above ++ [name]) := by
    intro above name habove hname
    have hproper : ∀ part ∈ above, part ≠ [] := fun part hpart =>
      (validPart_iff.mp (List.all_eq_true.mp habove part hpart)).1
    refine ⟨by simp [habove, validPart_of_validName hname], ?_⟩
    unfold childPath
    by_cases hnil : above = []
    · rw [hnil]
      simp [joined]
    · rw [if_neg (mt (joined_eq_nil_iff hproper).mp hnil), joined_append hnil (by simp)]
      simp [joined]
  induction entries generalizing above with
  | nil => cases hpath
  | leaf name leaf rest ih =>
      obtain ⟨hname, -, hrestWell⟩ := Entries.wellFormed_leaf.mp hwell
      obtain ⟨hall, hjoin⟩ := hchild habove hname
      rcases List.mem_cons.mp hpath with rfl | hrest
      · exact ⟨above, name, hall, hjoin⟩
      · exact ih hrestWell habove hrest
  | directory name entries rest ihEntries ihRest =>
      obtain ⟨hname, -, hrestWell, hentries⟩ := Entries.wellFormed_directory.mp hwell
      obtain ⟨hall, hjoin⟩ := hchild habove hname
      rcases List.mem_cons.mp hpath with rfl | hbelow
      · exact ⟨above, name, hall, hjoin⟩
      · rcases List.mem_append.mp hbelow with hinner | hrest
        · exact ihEntries hentries hall (hjoin ▸ hinner)
        · exact ihRest hrestWell habove hrest

theorem exists_names_of_mem_regularFiles {tree : DirectoryTree} {path : PyStr}
    (hpath : path ∈ tree.regularFiles) :
    ∃ front last, (front ++ [last]).all validPart = true ∧ path = joined (front ++ [last]) := by
  unfold DirectoryTree.regularFiles at hpath
  cases hroot : tree.root with
  | none =>
      rw [hroot] at hpath
      cases hpath
  | some entries =>
      rw [hroot] at hpath
      have hwell : entries.wellFormed = true := by
        have := tree.wellFormed
        rwa [hroot] at this
      have hmem : path ∈ entries.paths (joined []) := (entries.regularFiles_sublist []).subset hpath
      exact exists_names_of_mem_paths hwell rfl hmem

theorem joinRoot_joined {root : PurePath} {names : List PyStr}
    (hvalid : names.all validPart = true) :
    joinRoot root (joined names) = root.joinParts names hvalid := by
  have hparts : (PurePath.parse (joined names)).parts = names := by
    rw [parse_parts, partsOf_joined hvalid]
  unfold joinRoot
  congr 1

/-- A path of proper names is found below its absolute root if and only if it has no
backslash and no white space at its end, the root is not `/\`, and no root tried before is
above it. -/
theorem roundTrips_joined_iff {settings : StorageSettings} {root : RootMapping}
    {front : List PyStr} {last : PyStr} (hroot : root ∈ buildRoots settings)
    (habs : root.rootPath.anchor ≠ .relative)
    (hnames : (front ++ [last]).all validPart = true) :
    RoundTrips settings root (joined (front ++ [last])) ↔
      92 ∉ joined (front ++ [last]) ∧
        (∀ c ∈ (joined (front ++ [last])).getLast?, PyStr.isSpace c = false) ∧
        root.rootPath.text ≠ [47, 92] ∧
        ∀ other ∈ rootsBefore settings root,
          ¬ (joinRoot root.runtimePrefix (joined (front ++ [last]))).Below other.runtimePrefix := by
  have hlast : last ≠ [] := by
    rintro rfl
    simp [validPart] at hnames
  have hback : 92 ∉ joined (front ++ [last]) ↔ ∀ name ∈ front ++ [last], 92 ∉ name := by
    rw [mem_joined_iff (by decide)]
    push Not
    rfl
  have hbelow : ((readBack root (front ++ [last]) hnames).anchor = root.runtimePrefix.anchor ∧
      (readBack root (front ++ [last]) hnames).parts =
        root.runtimePrefix.parts ++ (front ++ [last])) → ∀ other : RootMapping,
      (readBack root (front ++ [last]) hnames).Below other.runtimePrefix ↔
        (root.runtimePrefix.joinParts (front ++ [last]) hnames).Below other.runtimePrefix := by
    rintro ⟨hanchor, hparts⟩ other
    unfold Below
    rw [hanchor, hparts]
    rfl
  rw [RoundTrips, joinRoot_joined hnames, joinRoot_joined hnames,
    resolve_file_iff hroot habs hnames, hback, getLast?_joined hlast]
  calc _ ↔ _ ∧ ∀ other ∈ rootsBefore settings root,
        ¬ (root.runtimePrefix.joinParts (front ++ [last]) hnames).Below other.runtimePrefix :=
      and_congr_right fun hread => forall₂_congr fun other _ => not_congr (hbelow hread other)
    _ ↔ _ := by rw [readBack_eq_iff hroot habs hnames, and_assoc, and_assoc]

/-- A file of an absolute root is found under the path the scanner records if and only if
that path has no backslash and no white space at its end, the root is not `/\`, and no
root tried before is above the file. -/
theorem round_trips_iff {settings : StorageSettings} {root : RootMapping} {tree : DirectoryTree}
    {path : PyStr} (hroot : root ∈ buildRoots settings) (habs : root.rootPath.anchor ≠ .relative)
    (hpath : path ∈ tree.regularFiles) :
    RoundTrips settings root path ↔
      92 ∉ path ∧ (∀ c ∈ path.getLast?, PyStr.isSpace c = false) ∧
        root.rootPath.text ≠ [47, 92] ∧
        ∀ other ∈ rootsBefore settings root,
          ¬ (joinRoot root.runtimePrefix path).Below other.runtimePrefix := by
  obtain ⟨front, last, hnames, rfl⟩ := exists_names_of_mem_regularFiles hpath
  exact roundTrips_joined_iff hroot habs hnames

theorem round_trips_plain_name :
    RoundTrips ⟨none, some (.parse (py "/data/upload")), none, none, none⟩
      (rootMapping (py "uploads") (.parse (py "/data/upload"))) (py "a b.jpg") := by
  have hfile : py "a b.jpg" ∈ (DirectoryTree.mk (some (.leaf (py "a b.jpg") (.file none) .nil))
    (by decide)).regularFiles := List.mem_cons_self
  refine (round_trips_iff List.mem_cons_self (by decide) hfile).mpr
    ⟨by decide, by decide, by decide, ?_⟩
  have hfirst : rootsBefore ⟨none, some (.parse (py "/data/upload")), none, none, none⟩
      (rootMapping (py "uploads") (.parse (py "/data/upload"))) = [] := rfl
  rw [hfirst]
  exact List.forall_mem_nil _

/-- A file whose name ends with a space is looked up under a name without it. -/
theorem trailing_space_lost :
    ¬ ∀ (settings : StorageSettings) (root : RootMapping) (tree : DirectoryTree) (path : PyStr),
      root ∈ buildRoots settings → root.rootPath.anchor ≠ .relative →
        path ∈ tree.regularFiles → RoundTrips settings root path := by
  intro h
  have hread := h ⟨none, some (.parse (py "/data/upload")), none, none, none⟩
    (rootMapping (py "uploads") (.parse (py "/data/upload")))
    ⟨some (.leaf (py "a.jpg ") (.file none) .nil), by decide⟩ (py "a.jpg ")
    List.mem_cons_self (by decide) List.mem_cons_self
  revert hread
  unfold RoundTrips
  decide

/-! ## The lookup of a database path -/

/-- `truthy_path` strips no more than the resolver does. -/
theorem resolve_truthyPath (settings : StorageSettings) (text : PyStr) :
    (truthyPath (some text)).bind (resolve settings) = resolve settings text := by
  unfold truthyPath resolve ImmichDoctor.Storage.normalize
  rw [Option.getD_some]
  by_cases hempty : text.strip = []
  · simp [hempty]
  · simp [hempty, PyStr.strip_strip]

/-- An asset whose path text round trips is not reported missing when the scanned file is
among the latest ones. -/
theorem not_missing_of_round_trips {context : ComparisonContext} {root : RootMapping}
    {path : PyStr} {asset : AssetRow} {classified : ClassifiedAssets}
    (h : RoundTrips context.settings root path) (hslug : root.slug = sourceRootSlug)
    (hasset : asset.originalPath = some (joinRoot root.rootPath path).text)
    (hscanned : ∃ row ∈ context.latestFiles, row.rootSlug = root.slug ∧ row.relativePath = path) :
    (classifyAsset context classified asset).dbMissingRows = classified.dbMissingRows := by
  obtain ⟨resolved, hresolved, hpair⟩ := Option.map_eq_some_iff.mp h
  obtain ⟨hresolvedSlug, hresolvedPath⟩ := Prod.mk.inj hpair
  obtain ⟨row, hrow, hrowSlug, hrowPath⟩ := hscanned
  have hindex : resolved.relativePath ∈ context.uploadsIndex := by
    rw [hresolvedPath, ← hrowPath]
    exact List.mem_map_of_mem (List.mem_filter.mpr ⟨hrow, by simp [hrowSlug, hslug]⟩)
  rw [← resolve_truthyPath, ← hasset] at hresolved
  obtain ⟨originalPath, htruthy, hresolve⟩ := Option.bind_eq_some_iff.mp hresolved
  unfold classifyAsset
  simp only [htruthy, hresolve]
  rw [if_neg (not_not_intro (hresolvedSlug.trans hslug))]
  exact if_pos hindex

end ImmichDoctor.Catalog
