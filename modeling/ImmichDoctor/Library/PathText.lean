import ImmichDoctor.Library.PurePath
/-!
# Texts of paths

How the parts and the root of a path follow from its text: joining texts with a slash
joins their parts, and neither white space at the end nor a backslash in a name survives
`strip` and the replacement of backslashes.
-/

namespace ImmichDoctor.Library

/-! ## Stripping -/

namespace PyStr

/-- `text.rstrip()`. -/
def rstrip (text : PyStr) : PyStr :=
  (text.reverse.dropWhile isSpace).reverse

theorem rstrip_append_cons {c : Nat} (head tail : PyStr) (hc : isSpace c = false) :
    rstrip (head ++ c :: tail) = head ++ c :: rstrip tail := by
  have hdrop : ∀ front back : PyStr,
      (front ++ c :: back).dropWhile isSpace = front.dropWhile isSpace ++ c :: back := by
    intro front back
    induction front with
    | nil => rw [List.nil_append, List.dropWhile_cons_of_neg (by simp [hc]), List.dropWhile_nil,
        List.nil_append]
    | cons d front ih =>
        by_cases hd : isSpace d = true
        · rw [List.cons_append, List.dropWhile_cons_of_pos hd, List.dropWhile_cons_of_pos hd, ih]
        · rw [List.cons_append, List.dropWhile_cons_of_neg hd, List.dropWhile_cons_of_neg hd,
            List.cons_append]
  rw [rstrip, List.reverse_append, List.reverse_cons, List.append_assoc, List.singleton_append,
    hdrop]
  simp [rstrip]

/-- A text that does not start with white space is stripped at its end only. -/
theorem strip_eq_rstrip {c : Nat} {text : PyStr} (hc : isSpace c = false) :
    strip (c :: text) = rstrip (c :: text) := by
  rw [strip, List.dropWhile_cons_of_neg (by simp [hc]), rstrip]

theorem rstrip_eq_self_iff {text : PyStr} :
    rstrip text = text ↔ ∀ c ∈ text.getLast?, isSpace c = false := by
  have hrev : rstrip text = text ↔ text.reverse.dropWhile isSpace = text.reverse := by
    rw [rstrip, ← List.reverse_inj, List.reverse_reverse]
  rw [hrev, ← List.head?_reverse]
  cases text.reverse with
  | nil => simp
  | cons c rest =>
      by_cases hc : isSpace c = true
      · rw [List.dropWhile_cons_of_pos hc]
        refine iff_of_false ?_ (by simp [hc])
        intro heq
        have hlength := (List.dropWhile_suffix (l := rest) isSpace).length_le
        rw [heq, List.length_cons] at hlength
        omega
      · rw [List.dropWhile_cons_of_neg hc]
        simpa using hc

theorem mem_of_mem_rstrip {c : Nat} {text : PyStr} (h : c ∈ rstrip text) : c ∈ text := by
  have hmem : c ∈ text.reverse.dropWhile isSpace := List.mem_reverse.mp h
  exact List.mem_reverse.mp ((List.dropWhile_suffix _).subset hmem)

theorem dropWhile_isSpace_idem (text : PyStr) :
    (text.dropWhile isSpace).dropWhile isSpace = text.dropWhile isSpace := by
  induction text with
  | nil => rfl
  | cons c text ih =>
      by_cases hc : isSpace c = true
      · rw [List.dropWhile_cons_of_pos hc, ih]
      · rw [List.dropWhile_cons_of_neg hc, List.dropWhile_cons_of_neg hc]

theorem rstrip_idem (text : PyStr) : rstrip (rstrip text) = rstrip text := by
  rw [rstrip, rstrip, List.reverse_reverse, dropWhile_isSpace_idem]

theorem strip_strip (text : PyStr) : strip (strip text) = strip text := by
  have hstrip : strip text = rstrip (text.dropWhile isSpace) := rfl
  have hfront : (rstrip (text.dropWhile isSpace)).dropWhile isSpace =
      rstrip (text.dropWhile isSpace) := by
    cases hdrop : text.dropWhile isSpace with
    | nil => rfl
    | cons c rest =>
        have hc : isSpace c = false := by
          have hhead := List.head_dropWhile_not isSpace (l := text)
            (by rw [hdrop]; exact List.cons_ne_nil _ _)
          simpa only [hdrop, List.head_cons] using hhead
        have hsplit := rstrip_append_cons [] rest hc
        rw [List.nil_append, List.nil_append] at hsplit
        rw [hsplit, List.dropWhile_cons_of_neg (by simp [hc])]
  rw [hstrip]
  exact (congrArg rstrip hfront).trans (rstrip_idem _)

theorem strip_infix (text : PyStr) : strip text <:+: text := by
  have hback : strip text <+: text.dropWhile isSpace := by
    have hsuffix := List.dropWhile_suffix (l := (text.dropWhile isSpace).reverse) isSpace
    rw [← List.reverse_prefix, List.reverse_reverse] at hsuffix
    exact hsuffix
  exact hback.isInfix.trans (List.dropWhile_suffix (l := text) isSpace).isInfix

/-- A text is stripped when it neither starts nor ends with white space. -/
theorem strip_eq_self_iff {text : PyStr} : strip text = text ↔
    (∀ c ∈ text.head?, isSpace c = false) ∧ ∀ c ∈ text.getLast?, isSpace c = false := by
  rw [← rstrip_eq_self_iff]
  cases text with
  | nil => simp [strip, rstrip]
  | cons c rest =>
      by_cases hc : isSpace c = true
      · refine iff_of_false (fun heq => ?_) (by simp [hc])
        have hdrop : strip (c :: rest) = strip rest := by
          rw [strip, List.dropWhile_cons_of_pos hc, strip]
        have hshort : (strip rest).length ≤ rest.length := by
          rw [strip, List.length_reverse]
          have hback := (List.dropWhile_suffix (l := (rest.dropWhile isSpace).reverse)
            isSpace).length_le
          have hfront := (List.dropWhile_suffix (l := rest) isSpace).length_le
          rw [List.length_reverse] at hback
          omega
        rw [← hdrop, heq, List.length_cons] at hshort
        omega
      · rw [Bool.not_eq_true] at hc
        rw [strip_eq_rstrip hc]
        simp [hc]

/-! ## Backslashes -/

theorem forwardSlashes_append (a b : PyStr) :
    forwardSlashes (a ++ b) = forwardSlashes a ++ forwardSlashes b :=
  List.map_append

theorem forwardSlashes_cons_slash (text : PyStr) :
    forwardSlashes (47 :: text) = 47 :: forwardSlashes text :=
  rfl

theorem forwardSlashes_eq_self {text : PyStr} (h : 92 ∉ text) : forwardSlashes text = text := by
  have hmap : ∀ c ∈ text, (if c = 92 then 47 else c) = c := by
    intro c hc
    rw [if_neg]
    rintro rfl
    exact h hc
  rw [forwardSlashes, List.map_congr_left hmap, List.map_id']

theorem backslash_notMem_forwardSlashes (text : PyStr) : 92 ∉ forwardSlashes text := by
  intro hmem
  obtain ⟨c, -, hc⟩ := List.mem_map.mp hmem
  by_cases h92 : c = 92
  · rw [if_pos h92] at hc
    cases hc
  · rw [if_neg h92] at hc
    exact h92 hc

end PyStr

namespace PurePath

/-! ## Parts -/

theorem partsOf_append_slash (a b : PyStr) : partsOf (a ++ 47 :: b) = partsOf a ++ partsOf b := by
  rw [partsOf, List.splitOn_append_cons_self, List.filter_append]
  rfl

theorem partsOf_slash (text : PyStr) : partsOf (47 :: text) = partsOf text :=
  partsOf_append_slash [] text

/-- The root of a text has no parts. -/
theorem partsOf_splitRoot (text : PyStr) : partsOf (splitRoot text).2 = partsOf text := by
  unfold splitRoot
  split
  · rw [partsOf_slash, partsOf_slash, partsOf_slash, partsOf_slash, partsOf_slash]
  · rw [partsOf_slash, partsOf_slash]
  · rw [partsOf_slash]
  · rfl

theorem parse_parts (text : PyStr) : (parse text).parts = partsOf text :=
  partsOf_splitRoot text

theorem mem_of_mem_splitOn {text part : PyStr} {c : Nat} (hpart : part ∈ text.splitOn 47)
    (hc : c ∈ part) : c ∈ text := by
  induction text generalizing part with
  | nil =>
      rw [List.splitOn_nil, List.mem_singleton] at hpart
      exact hpart ▸ hc
  | cons d text ih =>
      rw [List.splitOn_cons_eq_if_modifyHead] at hpart
      split at hpart
      · rcases List.mem_cons.mp hpart with rfl | hrest
        · cases hc
        · exact List.mem_cons_of_mem _ (ih hrest hc)
      · cases hsplit : text.splitOn 47 with
        | nil => exact absurd hsplit (List.splitOn_ne_nil 47 text)
        | cons first rest =>
            rw [hsplit, List.modifyHead_cons] at hpart
            rcases List.mem_cons.mp hpart with rfl | hrest
            · rcases List.mem_cons.mp hc with rfl | hfirst
              · exact List.mem_cons_self
              · exact List.mem_cons_of_mem _ (ih (hsplit ▸ List.mem_cons_self) hfirst)
            · exact List.mem_cons_of_mem _ (ih (hsplit ▸ List.mem_cons_of_mem _ hrest) hc)

theorem mem_of_mem_partsOf {text part : PyStr} {c : Nat} (hpart : part ∈ partsOf text)
    (hc : c ∈ part) : c ∈ text :=
  mem_of_mem_splitOn (List.mem_filter.mp hpart).1 hc

/-- A text without a slash is its own part or, as the empty text or a dot, none. -/
theorem partsOf_of_notMem {text : PyStr} (h : 47 ∉ text) :
    partsOf text = [] ∨ partsOf text = [text] := by
  rw [partsOf, List.splitOn_eq_singleton h, List.filter_cons]
  split
  · exact Or.inr rfl
  · exact Or.inl rfl

/-! ## Parts with the backslashes replaced -/

/-- The parts of the text after `replace("\\", "/")`. -/
def slashedParts (text : PyStr) : List PyStr :=
  partsOf text.forwardSlashes

theorem slashedParts_append_slash (a b : PyStr) :
    slashedParts (a ++ 47 :: b) = slashedParts a ++ slashedParts b := by
  rw [slashedParts, PyStr.forwardSlashes_append, PyStr.forwardSlashes_cons_slash,
    partsOf_append_slash]
  rfl

theorem backslash_notMem_of_mem_slashedParts {text part : PyStr} (h : part ∈ slashedParts text) :
    92 ∉ part :=
  fun hmem => PyStr.backslash_notMem_forwardSlashes text (mem_of_mem_partsOf h hmem)

theorem joined_cons_cons (first second : PyStr) (rest : List PyStr) :
    joined (first :: second :: rest) = first ++ 47 :: joined (second :: rest) := by
  simp [joined, List.intercalate_cons_cons]

theorem joined_append {left right : List PyStr} (hleft : left ≠ []) (hright : right ≠ []) :
    joined (left ++ right) = joined left ++ 47 :: joined right := by
  induction left with
  | nil => exact absurd rfl hleft
  | cons first rest ih =>
      cases rest with
      | nil =>
          cases right with
          | nil => exact absurd rfl hright
          | cons second right => rw [List.singleton_append, joined_cons_cons]; simp [joined]
      | cons second rest =>
          have hrest := ih (List.cons_ne_nil _ _)
          rw [List.cons_append, List.cons_append, joined_cons_cons, joined_cons_cons,
            List.append_assoc, List.cons_append, ← hrest, List.cons_append]

theorem slashedParts_joined (parts : List PyStr) :
    slashedParts (joined parts) = parts.flatMap slashedParts := by
  induction parts with
  | nil => rfl
  | cons first rest ih =>
      cases rest with
      | nil => simp [joined]
      | cons second rest =>
          rw [joined_cons_cons, slashedParts_append_slash, ih]
          exact List.flatMap_cons.symm

theorem slashedParts_anchor (anchor : Anchor) (text : PyStr) :
    slashedParts (Anchor.text anchor ++ text) = slashedParts text := by
  cases anchor with
  | relative => rfl
  | slash => exact partsOf_slash _
  | doubleSlash => exact (partsOf_slash _).trans (partsOf_slash _)

/-- The parts of the text of a path are those of its parts. -/
theorem slashedParts_text (path : PurePath) :
    slashedParts path.text = path.parts.flatMap slashedParts := by
  unfold text
  split
  · next h => rw [h.2]; decide
  · rw [slashedParts_anchor, slashedParts_joined]

/-- A valid name without a backslash keeps itself. -/
theorem slashedParts_of_valid {name : PyStr} (hname : validPart name = true) (h : 92 ∉ name) :
    slashedParts name = [name] := by
  rw [slashedParts, PyStr.forwardSlashes_eq_self h, partsOf_of_valid hname]

theorem flatMap_slashedParts {names : List PyStr} (hvalid : names.all validPart = true)
    (h : ∀ name ∈ names, 92 ∉ name) : names.flatMap slashedParts = names := by
  induction names with
  | nil => rfl
  | cons name names ih =>
      rw [List.all_cons, Bool.and_eq_true] at hvalid
      rw [List.flatMap_cons, slashedParts_of_valid hvalid.1 (h name List.mem_cons_self),
        ih hvalid.2 (fun other hother => h other (List.mem_cons_of_mem _ hother)),
        List.singleton_append]

theorem mem_joined_iff {names : List PyStr} {c : Nat} (hc : c ≠ 47) :
    c ∈ joined names ↔ ∃ name ∈ names, c ∈ name := by
  induction names with
  | nil => simp [joined]
  | cons first rest ih =>
      cases rest with
      | nil => simp [joined]
      | cons second rest =>
          rw [joined_cons_cons, List.mem_append, List.mem_cons, ih, or_iff_right hc]
          exact (List.exists_mem_cons_iff (fun name => c ∈ name) first (second :: rest)).symm

/-- The last character of a path is that of its last name. -/
theorem getLast?_joined {front : List PyStr} {last : PyStr} (hlast : last ≠ []) :
    (joined (front ++ [last])).getLast? = last.getLast? := by
  by_cases hfront : front = []
  · rw [hfront]
    simp [joined]
  · rw [joined_append hfront (List.cons_ne_nil _ _), List.getLast?_append]
    cases last with
    | nil => exact absurd rfl hlast
    | cons c last => simp [joined, List.getLast?_cons]

/-! ## Roots -/

/-- What follows a text with a part does not change its root. -/
theorem splitRoot_append_slash {text : PyStr} (tail : PyStr) (h : partsOf text ≠ []) :
    (splitRoot (text ++ 47 :: tail)).1 = (splitRoot text).1 := by
  match text with
  | [] => exact absurd rfl h
  | [a] =>
      by_cases ha : a = 47
      · rw [ha] at h
        exact absurd rfl h
      · rw [List.singleton_append]
        simp [splitRoot, ha]
  | [a, b] =>
      by_cases ha : a = 47
      · by_cases hb : b = 47
        · rw [ha, hb] at h
          exact absurd rfl h
        · simp [splitRoot, ha, hb]
      · simp [splitRoot, ha]
  | a :: b :: c :: rest =>
      by_cases ha : a = 47
      · by_cases hb : b = 47
        · by_cases hc : c = 47
          · simp [splitRoot, ha, hb, hc]
          · simp [splitRoot, ha, hb, hc]
        · simp [splitRoot, ha, hb]
      · simp [splitRoot, ha]

theorem head?_joined {parts : List PyStr} (hvalid : parts.all validPart = true) :
    (joined parts).head? ≠ some 47 := by
  cases parts with
  | nil => simp [joined]
  | cons first rest =>
      obtain ⟨hne, -, hslash⟩ :=
        validPart_iff.mp (List.all_eq_true.mp hvalid first List.mem_cons_self)
      obtain ⟨c, name, rfl⟩ := List.exists_cons_of_ne_nil hne
      have hc : c ≠ 47 := fun heq => hslash (heq ▸ List.mem_cons_self)
      cases rest with
      | nil => simpa [joined] using hc
      | cons second rest => simpa [joined, List.intercalate_cons_cons] using hc

theorem splitRoot_anchor (anchor : Anchor) {text : PyStr} (h : text.head? ≠ some 47) :
    splitRoot (Anchor.text anchor ++ text) = (anchor, text) := by
  cases text with
  | nil => cases anchor <;> rfl
  | cons c text =>
      have hc : c ≠ 47 := fun heq => h (heq ▸ rfl)
      cases anchor with
      | relative => simp [splitRoot, Anchor.text, hc]
      | slash => simp [splitRoot, Anchor.text, hc]
      | doubleSlash => simp [splitRoot, Anchor.text, hc]

/-- A path is read from its text. -/
theorem parse_text (path : PurePath) : parse path.text = path := by
  obtain ⟨anchor, parts, hvalid⟩ := path
  unfold text
  by_cases hempty : anchor = .relative ∧ parts = []
  · obtain ⟨rfl, rfl⟩ := hempty
    rfl
  · rw [if_neg hempty]
    have hsplit := splitRoot_anchor anchor (head?_joined hvalid)
    simp only [parse, hsplit, partsOf_joined hvalid]

/-! ## Lexical normalisation -/

/-- A round of `posixpath.normpath`; the parts so far are in reverse. -/
def collapse (anchor : Anchor) : List PyStr → PyStr → List PyStr
  | [], part => if part = [46, 46] ∧ anchor ≠ .relative then [] else [part]
  | top :: stack, part =>
      if part = [46, 46] ∧ top ≠ [46, 46] then stack else part :: top :: stack

theorem all_foldl_collapse {anchor : Anchor} {parts stack : List PyStr}
    (hparts : parts.all validPart = true) (hstack : stack.all validPart = true) :
    (parts.foldl (collapse anchor) stack).all validPart = true := by
  induction parts generalizing stack with
  | nil => exact hstack
  | cons part parts ih =>
      rw [List.all_cons, Bool.and_eq_true] at hparts
      refine ih hparts.2 ?_
      cases stack with
      | nil =>
          simp only [collapse]
          split
          · rfl
          · simp [hparts.1]
      | cons top stack =>
          rw [List.all_cons, Bool.and_eq_true] at hstack
          simp only [collapse]
          split
          · exact hstack.2
          · rw [List.all_cons, List.all_cons, hparts.1, hstack.1, hstack.2]
            rfl

/-- `os.path.normpath`. -/
def lexicalNormal (path : PurePath) : PurePath where
  anchor := path.anchor
  parts := (path.parts.foldl (collapse path.anchor) []).reverse
  valid := by
    rw [List.all_reverse]
    exact all_foldl_collapse path.valid rfl

/-- Names that are not `..` are kept. -/
theorem foldl_collapse_of_notMem {anchor : Anchor} {parts : List PyStr} {stack : List PyStr}
    (h : [46, 46] ∉ parts) :
    parts.foldl (collapse anchor) stack = parts.reverse ++ stack := by
  induction parts generalizing stack with
  | nil => rfl
  | cons part parts ih =>
      have hpart : part ≠ [46, 46] := fun heq => h (heq ▸ List.mem_cons_self)
      have hpush : collapse anchor stack part = part :: stack := by
        cases stack with
        | nil => exact if_neg fun hup => hpart hup.1
        | cons top stack => exact if_neg fun hup => hpart hup.1
      rw [List.foldl_cons, hpush, ih fun hmem => h (List.mem_cons_of_mem _ hmem),
        List.reverse_cons, List.append_assoc, List.singleton_append]

end PurePath

end ImmichDoctor.Library
