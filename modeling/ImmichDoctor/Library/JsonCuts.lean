import ImmichDoctor.Library.JsonLines
import ImmichDoctor.Library.JsonScan
/-!
# Documents and lines that were cut

What is read from a file whose last write was cut, and from a file of lines some of whose appends
were. A cut document is read as it was meant or not at all; a cut line is either the last thing in
its file, whole but for its end, or it makes the file unreadable for good.
-/

namespace ImmichDoctor.Library.JsonValue

/-! ## Records -/

/-- `a` to `z`. -/
def startsWithLetter (key : PyStr) : Bool :=
  key.head?.any fun c => decide (97 ≤ c ∧ c ≤ 122)

/-- An object with plain texts whose keys start with a letter. -/
structure NamedRecord (payload : JsonValue) : Prop where
  plain : Plain payload
  fields : ∃ fields, payload = obj fields ∧ fields ≠ [] ∧
    (fields.map (·.1)).all startsWithLetter = true

section Records

variable {payload : JsonValue}

theorem NamedRecord.of_keys {fields : List (PyStr × JsonValue)} (h : Plain (obj fields))
    (hne : fields ≠ []) (hletters : (fields.map (·.1)).all startsWithLetter = true) :
    NamedRecord (obj fields) :=
  ⟨h, fields, rfl, hne, hletters⟩

theorem NamedRecord.sorted (h : NamedRecord payload) : ∃ key value fields,
    payload.sortKeys = obj ((key, value) :: fields) ∧ ∃ c ∈ key.head?, 97 ≤ c ∧ c ≤ 122 := by
  obtain ⟨fields, rfl, hne, hkeys⟩ := h.fields
  have hperm := List.perm_insertionSort (fun a b => a.1 ≤ b.1) (sortFields fields)
  cases hsorted : (sortFields fields).insertionSort fun a b => a.1 ≤ b.1 with
  | nil =>
      have hlength := (hperm.length_eq).symm
      rw [hsorted, sortFields_eq_map, List.length_map, List.length_nil] at hlength
      exact absurd (List.length_eq_zero_iff.mp hlength) hne
  | cons field rest =>
      obtain ⟨key, value⟩ := field
      refine ⟨key, value, rest, by rw [sortKeys, hsorted], ?_⟩
      have hmem : (key, value) ∈ sortFields fields := by
        rw [← hperm.mem_iff, hsorted]
        exact List.mem_cons_self
      rw [sortFields_eq_map] at hmem
      obtain ⟨old, hold, heq⟩ := List.mem_map.mp hmem
      have hkey : old.1 = key := congrArg Prod.fst heq
      have hletter := List.all_eq_true.mp hkeys old.1 (List.mem_map_of_mem hold)
      rw [hkey, startsWithLetter, Option.any_eq_true] at hletter
      obtain ⟨c, hc, hbounds⟩ := hletter
      exact ⟨c, hc, of_decide_eq_true hbounds⟩

theorem NamedRecord.head_dumpsIn (h : NamedRecord payload) (layout : Layout) :
    (dumpsIn layout payload).head? = some 123 := by
  obtain ⟨key, value, fields, hsorted, -⟩ := h.sorted
  rw [dumpsIn, hsorted, writeIn, List.head?_cons]

/-- The first letter of the first key is the third code point of the line. -/
theorem NamedRecord.namedObject (h : NamedRecord payload) :
    NamedObject (dumpsIn .line payload) := by
  obtain ⟨key, value, fields, hsorted, c, hc, hlower, hupper⟩ := h.sorted
  constructor
  case named =>
    cases key with
    | nil => cases hc
    | cons first key =>
        rw [List.head?_cons, Option.mem_some_iff] at hc
        have hescape : Json.escapeChar first = [first] := by
          unfold Json.escapeChar
          rw [if_neg (by omega), if_neg (by omega), if_neg (by omega), if_neg (by omega),
            if_neg (by omega), if_neg (by omega), if_neg (by omega), if_pos (by omega)]
        rw [dumpsIn, hsorted, writeIn, Json.dumpsString, List.flatMap_cons, hescape]
        exact ⟨first, _, rfl, by omega, by omega⟩
  case loads =>
    have hnone : ∀ c ∈ ([] : PyStr), Json.isBlank c = true :=
      fun c hc => absurd hc List.not_mem_nil
    have hloads := loads_dumpsIn .line h.plain hnone
    rw [List.append_nil] at hloads
    rw [hloads]
    rfl

theorem isSpace_of_isBlank {c : Nat} (h : Json.isBlank c = true) : PyStr.isSpace c = true := by
  simp only [Json.isBlank, Bool.or_eq_true, beq_iff_eq] at h
  rcases h with ((rfl | rfl) | rfl) | rfl <;> rfl

/-- A document does not end with a blank. -/
theorem getLast_dumpsIn (layout : Layout) (payload : JsonValue) :
    ∃ c ∈ (dumpsIn layout payload).getLast?, Json.isBlank c = false := by
  obtain ⟨front, c, hwrite, hspace⟩ := exists_writeIn layout 0 payload.sortKeys
  refine ⟨c, by rw [dumpsIn, hwrite, List.getLast?_append_cons]; rfl, ?_⟩
  rw [Bool.eq_false_iff]
  intro hblank
  rw [isSpace_of_isBlank hblank] at hspace
  cases hspace

/-- A proper beginning of a document is unfinished. -/
theorem NamedRecord.unfinished (h : NamedRecord payload) (layout : Layout) {p : PyStr}
    (hp : p <+: dumpsIn layout payload) (hne : p ≠ []) (hproper : p ≠ dumpsIn layout payload) :
    Unfinished p := by
  obtain ⟨q, hq⟩ := hp
  obtain ⟨c, hc, hblank⟩ := getLast_dumpsIn layout payload
  have hnone : ∀ c ∈ ([] : PyStr), Json.isBlank c = true :=
    fun c hc => absurd hc List.not_mem_nil
  have hloads := loads_dumpsIn layout h.plain hnone
  rw [List.append_nil] at hloads
  have hrest : q ≠ [] := by
    rintro rfl
    exact hproper (by rw [← hq, List.append_nil])
  have hlast : c ∈ q.getLast? := by
    rw [← hq, List.getLast?_append_of_ne_nil _ hrest] at hc
    exact hc
  exact unfinished_of_prefix hloads (h.head_dumpsIn layout) hq.symm hne hlast hblank

/-! ## A document -/

/-- A document of which a part was written is read when at most its last line end is missing. -/
theorem loads_take_jsonDocument (h : NamedRecord payload) (kept : Nat) :
    loads (payload.jsonDocument.take kept) =
      if payload.jsonDocument.length ≤ kept + 1 then some payload.sortKeys else none := by
  have hlength : payload.jsonDocument.length = (dumpsIn .indented payload).length + 1 :=
    List.length_append
  by_cases hkept : payload.jsonDocument.length ≤ kept + 1
  · rw [if_pos hkept]
    have htake : payload.jsonDocument.take kept =
        dumpsIn .indented payload ++ [10].take (kept - (dumpsIn .indented payload).length) := by
      rw [jsonDocument, List.take_append, List.take_of_length_le (by omega)]
    rw [htake]
    refine loads_dumpsIn .indented h.plain fun c hc => ?_
    rw [List.mem_singleton.mp (List.mem_of_mem_take hc)]
    rfl
  · rw [if_neg hkept]
    have htake : payload.jsonDocument.take kept = (dumpsIn .indented payload).take kept := by
      rw [jsonDocument, List.take_append_of_le_length (by omega)]
    rw [htake]
    cases hcut : (dumpsIn .indented payload).take kept with
    | nil => rfl
    | cons c tail =>
        have hprefix : c :: tail <+: dumpsIn .indented payload := hcut ▸ List.take_prefix _ _
        have hproper : c :: tail ≠ dumpsIn .indented payload := by
          intro heq
          have hsame := congrArg List.length (hcut.trans heq)
          rw [List.length_take] at hsame
          omega
        have hhead : c = 123 := by
          have hfirst := h.head_dumpsIn .indented
          obtain ⟨q, hq⟩ := hprefix
          rw [← hq, List.cons_append, List.head?_cons, Option.some.injEq] at hfirst
          exact hfirst
        subst hhead
        exact loads_of_unfinished (h.unfinished .indented hprefix (List.cons_ne_nil _ _) hproper)

end Records

/-! ## Lines -/

/-- The append of a line of which so many code points reached the file. -/
structure LineCut where
  payload : JsonValue
  kept : Nat

namespace LineCut

def text (cut : LineCut) : PyStr :=
  cut.payload.jsonLine.take cut.kept

/-- At most the end of the line is missing. -/
def complete (cut : LineCut) : Bool :=
  decide (cut.payload.jsonLine.length ≤ cut.kept + 1)

/-- A line was cut inside of its document, or behind it and something was appended later. -/
def damaged : List LineCut → Bool
  | [] => false
  | cut :: cuts =>
      if cut.kept = 0 then damaged cuts
      else if cut.payload.jsonLine.length ≤ cut.kept then damaged cuts
      else !cut.complete || cuts.any fun later => decide (later.kept ≠ 0)

end LineCut

section Lines

/-- Printable ASCII, as a document on one line is. -/
def Printable (line : PyStr) : Prop :=
  ∀ c ∈ line, 32 ≤ c ∧ c ≤ 126

theorem printable_dumpsIn (payload : JsonValue) : Printable (dumpsIn .line payload) :=
  writeIn_line_ascii payload.sortKeys 0

theorem not_lineEnd_of_printable {line : PyStr} (h : Printable line) :
    ∀ c ∈ line, (decide (c = 10) || decide (c = 13)) = false := by
  intro c hc
  have hbounds := h c hc
  rw [Bool.or_eq_false_iff, decide_eq_false_iff_not, decide_eq_false_iff_not]
  omega

/-- The lines of a file that does not end with a line end. -/
theorem readJsonLines_last {line : PyStr} (h : Printable line) (hne : PyStr.strip line ≠ []) :
    readJsonLines line = (loads (PyStr.strip line)).map fun value => [value] := by
  rw [readJsonLines, List.splitOnP_eq_singleton (not_lineEnd_of_printable h), List.map_singleton,
    List.filter_cons_of_pos (by simpa using hne), List.filter_nil, List.mapM_cons, List.mapM_nil]
  cases loads (PyStr.strip line) <;> rfl

theorem readJsonLines_cons {line rest : PyStr} (h : Printable line) (hne : PyStr.strip line ≠ []) :
    readJsonLines (line ++ 10 :: rest) = (loads (PyStr.strip line)).bind fun value =>
      (readJsonLines rest).map fun values => value :: values := by
  rw [readJsonLines, List.splitOnP_append_cons_of_forall_mem (not_lineEnd_of_printable h) 10 rfl,
    List.map_cons, List.filter_cons_of_pos (by simpa using hne), List.mapM_cons]
  cases loads (PyStr.strip line) with
  | none => rfl
  | some value =>
      simp only [Option.bind_eq_bind, Option.bind_some]
      rw [readJsonLines]
      generalize List.mapM loads _ = values
      cases values <;> rfl

/-- A line on which a document was begun that nothing behind it can finish. -/
structure Broken (line : PyStr) : Prop where
  head : line.head? = some 123
  printable : Printable line
  unfinished : Unfinished line

section Broken

variable {line p : PyStr} {payload other : JsonValue}

/-- Stripping takes blanks from the end, and the line stays unfinished. -/
theorem Broken.loads_strip (h : Broken line) :
    PyStr.strip line ≠ [] ∧ loads (PyStr.strip line) = none := by
  obtain ⟨hhead, hprintable, hline⟩ := h
  obtain ⟨tail, rfl⟩ : ∃ tail, line = 123 :: tail := ⟨_, (List.cons_head?_tail hhead).symm⟩
  have hstrip : PyStr.strip (123 :: tail) = PyStr.rstrip (123 :: tail) :=
    PyStr.strip_eq_rstrip rfl
  have hcons : PyStr.rstrip (123 :: tail) = 123 :: PyStr.rstrip tail :=
    PyStr.rstrip_append_cons [] tail rfl
  obtain ⟨spaces, hsplit, hspaces⟩ : ∃ spaces, 123 :: tail = PyStr.rstrip (123 :: tail) ++ spaces ∧
      ∀ c ∈ spaces, PyStr.isSpace c = true := by
    refine ⟨((123 :: tail).reverse.takeWhile PyStr.isSpace).reverse, ?_, fun c hc => ?_⟩
    · rw [PyStr.rstrip, ← List.reverse_append, List.takeWhile_append_dropWhile,
        List.reverse_reverse]
    · exact List.mem_takeWhile_imp (List.mem_reverse.mp hc)
  rw [hcons] at hsplit hstrip
  rw [hstrip]
  refine ⟨List.cons_ne_nil _ _, loads_of_unfinished fun s hs => ?_⟩
  cases s with
  | start => exact absurd rfl (scan_ne_start hs (List.cons_ne_nil _ _))
  | done =>
      have hdone : ScanState.start.scan (123 :: tail) = some .done := by
        rw [hsplit, ScanState.scan_append, hs, Option.bind_some, ScanState.scan_done_iff]
        refine ⟨rfl, fun c hc => ?_⟩
        have hspace := hspaces c hc
        have hbounds := hprintable c (by rw [hsplit]; exact List.mem_append_right _ hc)
        have hall : ∀ c < 127, 32 ≤ c → PyStr.isSpace c = true → Json.isBlank c = true := by
          decide
        exact hall c (by omega) hbounds.1 hspace
      exact absurd (hline .done hdone) id
  | within depth => trivial
  | text depth => trivial
  | escape depth => trivial
  | behind depth => trivial

/-- Nothing is read of a file with such a line. -/
theorem Broken.readJsonLines_last (h : Broken line) : readJsonLines line = none := by
  obtain ⟨hne, hnone⟩ := h.loads_strip
  rw [JsonValue.readJsonLines_last h.printable hne, hnone, Option.map_none]

theorem Broken.readJsonLines_cons (h : Broken line) (rest : PyStr) :
    readJsonLines (line ++ 10 :: rest) = none := by
  obtain ⟨hne, hnone⟩ := h.loads_strip
  rw [JsonValue.readJsonLines_cons h.printable hne, hnone, Option.bind_none]

theorem printable_append (hline : Printable line) (hp : p <+: dumpsIn .line payload) :
    Printable (line ++ p) := by
  intro c hc
  rcases List.mem_append.mp hc with hold | hnew
  · exact hline c hold
  · exact printable_dumpsIn payload c (hp.subset hnew)

theorem head_append (hline : line.head? = some 123) (p : PyStr) :
    (line ++ p).head? = some 123 := by
  rw [← List.cons_head?_tail hline]
  rfl

/-- It stays broken when a document is begun behind it. -/
theorem Broken.append (h : Broken line) (hpayload : NamedRecord payload)
    (hp : p <+: dumpsIn .line payload) : Broken (line ++ p) where
  head := head_append h.head p
  printable := printable_append h.printable hp
  unfinished := h.unfinished.append hpayload.namedObject hp

/-- A document with another one begun behind it. -/
theorem NamedRecord.broken_append (h : NamedRecord payload) (hother : NamedRecord other)
    (hp : p <+: dumpsIn .line other) (hne : p ≠ []) : Broken (dumpsIn .line payload ++ p) where
  head := head_append (h.head_dumpsIn .line) p
  printable := printable_append (printable_dumpsIn payload) hp
  unfinished := unfinished_append_doc h.namedObject hother.namedObject hp hne

/-- A document that was cut. -/
theorem NamedRecord.broken_prefix (h : NamedRecord payload) (hp : p <+: dumpsIn .line payload)
    (hne : p ≠ []) (hproper : p ≠ dumpsIn .line payload) : Broken p where
  head := by
    obtain ⟨q, hq⟩ := hp
    have hfirst := h.head_dumpsIn .line
    rwa [← hq, List.head?_append_of_ne_nil _ hne] at hfirst
  printable c hc := printable_dumpsIn payload c (hp.subset hc)
  unfinished := h.unfinished .line hp hne hproper

theorem NamedRecord.loads_line (h : NamedRecord payload) :
    PyStr.strip (dumpsIn .line payload) ≠ [] ∧
      loads (PyStr.strip (dumpsIn .line payload)) = some payload.sortKeys := by
  have hnone : ∀ c ∈ ([] : PyStr), Json.isBlank c = true :=
    fun c hc => absurd hc List.not_mem_nil
  have hloads := loads_dumpsIn .line h.plain hnone
  rw [List.append_nil] at hloads
  rw [strip_dumpsIn_line]
  refine ⟨fun hnil => ?_, hloads⟩
  have hhead := h.head_dumpsIn .line
  rw [hnil] at hhead
  cases hhead

end Broken

namespace LineCut

variable {cut : LineCut} {cuts : List LineCut}

theorem length_jsonLine (payload : JsonValue) :
    payload.jsonLine.length = (dumpsIn .line payload).length + 1 :=
  List.length_append

/-- How much of a line there is: nothing, all of it, or a beginning of its document. -/
theorem text_cases (cut : LineCut) :
    (cut.kept = 0 ∧ cut.text = []) ∨
      (cut.kept ≠ 0 ∧ cut.payload.jsonLine.length ≤ cut.kept ∧
        cut.text = dumpsIn .line cut.payload ++ [10]) ∨
      (cut.kept ≠ 0 ∧ cut.kept < cut.payload.jsonLine.length ∧
        cut.text <+: dumpsIn .line cut.payload ∧ cut.text.length = cut.kept) := by
  have hlength := length_jsonLine cut.payload
  by_cases hzero : cut.kept = 0
  · exact .inl ⟨hzero, by rw [text, hzero, List.take_zero]⟩
  · by_cases hwhole : cut.payload.jsonLine.length ≤ cut.kept
    · refine .inr (.inl ⟨hzero, hwhole, ?_⟩)
      rw [text, List.take_of_length_le hwhole, jsonLine]
    · refine .inr (.inr ⟨hzero, by omega, ?_, ?_⟩)
      · rw [text, jsonLine, List.take_append_of_le_length (by omega)]
        exact List.take_prefix _ _
      · rw [text, List.length_take]
        omega

theorem text_ne_nil (hzero : cut.kept ≠ 0) (hlength : cut.text.length = cut.kept) :
    cut.text ≠ [] := by
  rw [← List.length_pos_iff]
  omega

/-- Nothing is read behind a broken line, whatever is appended to it. -/
theorem readJsonLines_broken {line : PyStr} (h : Broken line)
    (hcuts : ∀ cut ∈ cuts, NamedRecord cut.payload) :
    readJsonLines (line ++ cuts.flatMap text) = none := by
  induction cuts generalizing line with
  | nil => rw [List.flatMap_nil, List.append_nil, h.readJsonLines_last]
  | cons cut cuts ih =>
      obtain ⟨hcut, hrest⟩ := List.forall_mem_cons.mp hcuts
      rw [List.flatMap_cons]
      rcases cut.text_cases with ⟨-, hnil⟩ | ⟨-, -, hwhole⟩ | ⟨-, -, hprefix, -⟩
      · rw [hnil, List.nil_append]
        exact ih h hrest
      · rw [hwhole, List.append_assoc, List.singleton_append, ← List.append_assoc]
        exact (h.append hcut (List.prefix_refl _)).readJsonLines_cons _
      · rw [← List.append_assoc]
        exact ih (h.append hcut hprefix) hrest

/-- A document without its line end is read as long as nothing is appended behind it. -/
theorem readJsonLines_unended {payload : JsonValue} (h : NamedRecord payload)
    (hcuts : ∀ cut ∈ cuts, NamedRecord cut.payload) :
    readJsonLines (dumpsIn .line payload ++ cuts.flatMap text) =
      if cuts.any fun later => decide (later.kept ≠ 0) then none
      else some [payload.sortKeys] := by
  obtain ⟨hne, hloads⟩ := h.loads_line
  induction cuts with
  | nil =>
      rw [List.flatMap_nil, List.append_nil, readJsonLines_last (printable_dumpsIn payload) hne,
        hloads]
      rfl
  | cons cut cuts ih =>
      obtain ⟨hcut, hrest⟩ := List.forall_mem_cons.mp hcuts
      rw [List.flatMap_cons, List.any_cons]
      rcases cut.text_cases with ⟨hzero, hnil⟩ | ⟨hzero, -, hwhole⟩ |
        ⟨hzero, -, hprefix, hlength⟩
      · rw [hnil, List.nil_append, ih hrest, hzero]
        rfl
      · have hdoc : dumpsIn .line cut.payload ≠ [] := by
          intro hnil
          have hhead := hcut.head_dumpsIn .line
          rw [hnil] at hhead
          cases hhead
        rw [decide_eq_true hzero, Bool.true_or, if_pos rfl, hwhole, List.append_assoc,
          List.singleton_append, ← List.append_assoc]
        exact (h.broken_append hcut (List.prefix_refl _) hdoc).readJsonLines_cons _
      · rw [decide_eq_true hzero, Bool.true_or, if_pos rfl, ← List.append_assoc]
        exact readJsonLines_broken (h.broken_append hcut hprefix (text_ne_nil hzero hlength)) hrest

theorem not_complete_of_zero (h : cut.kept = 0) : cut.complete = false := by
  have hlength := length_jsonLine cut.payload
  have hpos : 0 < (dumpsIn .line cut.payload).length := length_writeIn_pos .line 0 _
  exact decide_eq_false (by omega)

/-- What is read of a file of lines: nothing when it is damaged, else the complete lines. -/
theorem readJsonLines_cuts (hcuts : ∀ cut ∈ cuts, NamedRecord cut.payload) :
    readJsonLines (cuts.flatMap text) = if damaged cuts then none
      else some ((cuts.filter complete).map fun cut => cut.payload.sortKeys) := by
  induction cuts with
  | nil => rfl
  | cons cut cuts ih =>
      obtain ⟨hcut, hrest⟩ := List.forall_mem_cons.mp hcuts
      have hlength := length_jsonLine cut.payload
      rw [List.flatMap_cons, damaged, List.filter_cons]
      rcases cut.text_cases with ⟨hzero, hnil⟩ | ⟨hzero, hkept, hwhole⟩ |
        ⟨hzero, hkept, hprefix, htext⟩
      · rw [hnil, List.nil_append, ih hrest, if_pos hzero, not_complete_of_zero hzero]
        rfl
      · have hcomplete : cut.complete = true := decide_eq_true (by omega)
        obtain ⟨hne, hloads⟩ := hcut.loads_line
        rw [hwhole, List.append_assoc, List.singleton_append,
          readJsonLines_cons (printable_dumpsIn cut.payload) hne, hloads, Option.bind_some,
          ih hrest, if_neg hzero, if_pos hkept, hcomplete, if_pos rfl]
        split <;> rfl
      · rw [if_neg hzero, if_neg (Nat.not_le.mpr hkept)]
        by_cases hall : cut.text = dumpsIn .line cut.payload
        · have hcomplete : cut.complete = true := by
            refine decide_eq_true ?_
            rw [hall] at htext
            omega
          rw [hall, readJsonLines_unended hcut hrest, hcomplete, Bool.not_true, Bool.false_or,
            if_pos rfl]
          by_cases hlater : (cuts.any fun later => decide (later.kept ≠ 0)) = true
          · rw [if_pos hlater, if_pos hlater]
          · have hnone : cuts.filter complete = [] := by
              rw [List.filter_eq_nil_iff]
              intro later hmem hcomplete
              refine hlater (List.any_eq_true.mpr ⟨later, hmem, decide_eq_true fun hzero => ?_⟩)
              rw [not_complete_of_zero hzero] at hcomplete
              cases hcomplete
            rw [if_neg hlater, if_neg hlater, hnone]
            rfl
        · have hincomplete : cut.complete = false := by
            refine decide_eq_false fun hle => hall ?_
            exact hprefix.eq_of_length (by omega)
          rw [hincomplete, Bool.not_false, Bool.true_or, if_pos rfl]
          exact readJsonLines_broken
            (hcut.broken_prefix hprefix (text_ne_nil hzero htext) hall) hrest

/-- The text of whole lines that was cut somewhere is one of lines that were cut. -/
theorem exists_cuts (payloads : List JsonValue) (kept : Nat) : ∃ cuts : List LineCut,
    cuts.map (·.payload) = payloads ∧ (jsonLines payloads).take kept = cuts.flatMap text := by
  induction payloads generalizing kept with
  | nil => exact ⟨[], rfl, List.take_nil⟩
  | cons payload payloads ih =>
      obtain ⟨cuts, hpayloads, htext⟩ := ih (kept - payload.jsonLine.length)
      refine ⟨⟨payload, kept⟩ :: cuts, by rw [List.map_cons, hpayloads], ?_⟩
      rw [jsonLines, List.flatMap_cons, List.take_append, List.flatMap_cons, ← htext]
      rfl

end LineCut

/-- What is read of lines of which the end was cut off are some of them. -/
theorem readJsonLines_take {payloads values : List JsonValue} {kept : Nat}
    (hpayloads : ∀ payload ∈ payloads, NamedRecord payload)
    (h : readJsonLines ((jsonLines payloads).take kept) = some values) :
    ∃ read : List JsonValue, read.Sublist payloads ∧ values = read.map sortKeys := by
  obtain ⟨cuts, rfl, htext⟩ := LineCut.exists_cuts payloads kept
  have hcuts : ∀ cut ∈ cuts, NamedRecord cut.payload := fun cut hcut =>
    hpayloads cut.payload (List.mem_map_of_mem hcut)
  rw [htext, LineCut.readJsonLines_cuts hcuts] at h
  by_cases hdamaged : LineCut.damaged cuts = true
  · rw [if_pos hdamaged] at h
    cases h
  · rw [if_neg hdamaged, Option.some.injEq] at h
    refine ⟨(cuts.filter LineCut.complete).map (·.payload), List.filter_sublist.map _, ?_⟩
    rw [← h, List.map_map]
    rfl

end Lines

end ImmichDoctor.Library.JsonValue
