import ImmichDoctor.Library.Text
/-!
# Pure POSIX paths

`pathlib.PurePosixPath` as its root and its parts. A part is not empty, is not `.` and
has no slash, so two paths are the same if and only if they are equal as structures;
`..` is a part like any other.
-/

namespace ImmichDoctor.Library

/-- The root of a path: none, `/`, or `//`, which POSIX leaves to the implementation. -/
inductive Anchor
  | relative
  | slash
  | doubleSlash
  deriving DecidableEq

def validPart (part : PyStr) : Bool :=
  part ≠ [] && part ≠ [46] && !part.contains 47

theorem validPart_iff {part : PyStr} :
    validPart part = true ↔ part ≠ [] ∧ part ≠ [46] ∧ 47 ∉ part := by
  simp [validPart, and_assoc]

structure PurePath where
  anchor : Anchor
  parts : List PyStr
  valid : parts.all validPart = true
  deriving DecidableEq

/-- `text.strip()`. -/
def PyStr.strip (text : PyStr) : PyStr :=
  ((text.dropWhile PyStr.isSpace).reverse.dropWhile PyStr.isSpace).reverse

/-- `text.replace("\\", "/")`. -/
def PyStr.forwardSlashes (text : PyStr) : PyStr :=
  text.map fun c => if c = 92 then 47 else c

namespace PurePath

/-- `posixpath.splitroot` without the drive. -/
def splitRoot : PyStr → Anchor × PyStr
  | 47 :: 47 :: 47 :: tail => (.slash, 47 :: 47 :: tail)
  | 47 :: 47 :: tail => (.doubleSlash, tail)
  | 47 :: tail => (.slash, tail)
  | text => (.relative, text)

/-- The parts of a text without its root. -/
def partsOf (text : PyStr) : List PyStr :=
  (text.splitOn 47).filter fun part => part ≠ [] && part ≠ [46]

theorem not_mem_of_mem_splitOn {text part : PyStr} (h : part ∈ text.splitOn 47) : 47 ∉ part := by
  induction text generalizing part with
  | nil =>
      rw [List.splitOn_nil, List.mem_singleton] at h
      rw [h]
      exact List.not_mem_nil
  | cons c text ih =>
      rw [List.splitOn_cons_eq_if_modifyHead] at h
      split at h
      · rcases List.mem_cons.mp h with rfl | hrest
        · exact List.not_mem_nil
        · exact ih hrest
      · next hc =>
          cases hsplit : text.splitOn 47 with
          | nil => exact absurd hsplit (List.splitOn_ne_nil 47 text)
          | cons first rest =>
              rw [hsplit, List.modifyHead_cons] at h
              have hpart : ∀ other ∈ first :: rest, 47 ∉ other := fun other hother =>
                ih (hsplit ▸ hother)
              rcases List.mem_cons.mp h with rfl | hrest
              · intro hmem
                rcases List.mem_cons.mp hmem with heq | hmem
                · exact hc (by rw [heq]; exact beq_self_eq_true c)
                · exact hpart first List.mem_cons_self hmem
              · exact hpart part (List.mem_cons_of_mem _ hrest)

theorem valid_partsOf (text : PyStr) : (partsOf text).all validPart = true := by
  rw [List.all_eq_true]
  intro part hpart
  obtain ⟨hsplit, hproper⟩ := List.mem_filter.mp hpart
  have hslash := not_mem_of_mem_splitOn hsplit
  simp only [Bool.and_eq_true, decide_eq_true_eq] at hproper
  exact validPart_iff.mpr ⟨hproper.1, hproper.2, hslash⟩

/-- A name is its own only part. -/
theorem partsOf_of_valid {name : PyStr} (h : validPart name = true) : partsOf name = [name] := by
  obtain ⟨hne, hdot, hslash⟩ := validPart_iff.mp h
  rw [partsOf, List.splitOn_eq_singleton hslash]
  simp [hne, hdot]

/-- `PurePosixPath(text)`. -/
def parse (text : PyStr) : PurePath where
  anchor := (splitRoot text).1
  parts := partsOf (splitRoot text).2
  valid := valid_partsOf _

/-- The parts joined by slashes. -/
def joined (parts : List PyStr) : PyStr :=
  [47].intercalate parts

theorem joined_eq_nil_iff {parts : List PyStr} (h : ∀ part ∈ parts, part ≠ []) :
    joined parts = [] ↔ parts = [] := by
  cases parts with
  | nil => exact iff_of_true rfl rfl
  | cons first rest =>
      refine iff_of_false ?_ (List.cons_ne_nil _ _)
      cases rest with
      | nil => simpa [joined] using h first List.mem_cons_self
      | cons second rest => simp [joined, List.intercalate_cons_cons]

theorem partsOf_joined {parts : List PyStr} (h : parts.all validPart = true) :
    partsOf (joined parts) = parts := by
  have hproper : ∀ part ∈ parts, part ≠ [] ∧ part ≠ [46] ∧ 47 ∉ part := fun part hpart =>
    validPart_iff.mp (List.all_eq_true.mp h part hpart)
  cases parts with
  | nil => rfl
  | cons first rest =>
      rw [partsOf, joined, List.splitOn_intercalate _ (fun part hpart => (hproper part hpart).2.2)
        (List.cons_ne_nil _ _), List.filter_eq_self]
      intro part hpart
      simp [hproper part hpart]

/-- Names are read from their join. -/
theorem joined_inj {parts others : List PyStr} (hparts : parts.all validPart = true)
    (hothers : others.all validPart = true) (h : joined parts = joined others) :
    parts = others := by
  rw [← partsOf_joined hparts, ← partsOf_joined hothers, h]

def Anchor.text : Anchor → PyStr
  | .relative => []
  | .slash => [47]
  | .doubleSlash => [47, 47]

/-- `str(path)`. -/
def text (path : PurePath) : PyStr :=
  if path.anchor = .relative ∧ path.parts = [] then [46]
  else Anchor.text path.anchor ++ joined path.parts

/-- `path.relative_to(other)`, as its parts; `none` for a `ValueError`. -/
def relativeTo? (path other : PurePath) : Option (List PyStr) :=
  if path.anchor = other.anchor ∧ other.parts <+: path.parts then
    some (path.parts.drop other.parts.length)
  else none

theorem relativeTo?_eq_some_iff {path other : PurePath} {parts : List PyStr} :
    path.relativeTo? other = some parts ↔
      path.anchor = other.anchor ∧ path.parts = other.parts ++ parts := by
  unfold relativeTo?
  constructor
  · intro h
    split at h
    · next hunder =>
        obtain ⟨hanchor, rest, hrest⟩ := hunder
        rw [← hrest, List.drop_left] at h
        exact ⟨hanchor, by rw [← hrest, Option.some.inj h]⟩
    · cases h
  · rintro ⟨hanchor, hparts⟩
    have hunder : other.parts <+: path.parts := ⟨parts, hparts.symm⟩
    rw [if_pos ⟨hanchor, hunder⟩, hparts, List.drop_left]

/-- The parts below another path are valid names. -/
theorem valid_of_parts_eq_append {path : PurePath} {above parts : List PyStr}
    (h : path.parts = above ++ parts) : parts.all validPart = true := by
  have hall := path.valid
  rw [h, List.all_append, Bool.and_eq_true] at hall
  exact hall.2

/-- `path.joinpath(*parts)` for parts of another path. -/
def joinParts (path : PurePath) (parts : List PyStr) (hparts : parts.all validPart = true) :
    PurePath where
  anchor := path.anchor
  parts := path.parts ++ parts
  valid := by rw [List.all_append, path.valid, hparts]; rfl

end PurePath

end ImmichDoctor.Library
