import ImmichDoctor.Library.JsonDocuments
import ImmichDoctor.Library.OptionLists
import ImmichDoctor.Library.PathText
/-!
# Files of JSON lines

A file that holds one document, a file to which documents are appended, one on a line, and the
reading of its lines. Every line that was appended is read back in its place.
-/

namespace ImmichDoctor.Library.JsonValue

/-! ## Documents -/

/-- `json.dumps(payload, indent=2, sort_keys=True) + "\n"`. -/
def jsonDocument (payload : JsonValue) : PyStr :=
  dumpsIn .indented payload ++ [10]

theorem loads_jsonDocument {payload : JsonValue} (h : Plain payload) :
    loads payload.jsonDocument = some payload.sortKeys := by
  have hblank : ∀ c ∈ [10], Json.isBlank c = true := by decide
  exact loads_dumpsIn .indented h hblank

/-! ## Lines -/

/-- `json.dumps(payload, sort_keys=True) + "\n"`. -/
def jsonLine (payload : JsonValue) : PyStr :=
  dumpsIn .line payload ++ [10]

/-- The documents of a file, line by line; blank lines are passed over. -/
def readJsonLines (text : PyStr) : Option (List JsonValue) :=
  (((text.splitOnP fun c => c = 10 || c = 13).map PyStr.strip).filter fun line =>
    !line.isEmpty).mapM loads

/-! ## The text of a line -/

theorem literal_ascii :
    ∀ word ∈ [py "null", py "true", py "false"], ∀ c ∈ word, 32 ≤ c ∧ c ≤ 126 := by
  decide

mutual

/-- A document on one line is printable ASCII. -/
theorem writeIn_line_ascii : ∀ (value : JsonValue) (depth : Nat),
    ∀ c ∈ writeIn .line depth value, 32 ≤ c ∧ c ≤ 126
  | .null, _, c, hc => literal_ascii _ List.mem_cons_self c hc
  | .bool true, _, c, hc => literal_ascii _ (List.mem_cons_of_mem _ List.mem_cons_self) c hc
  | .bool false, _, c, hc => literal_ascii _
      (List.mem_cons_of_mem _ (List.mem_cons_of_mem _ List.mem_cons_self)) c hc
  | .int value, _, c, hc => by
      have hdigit : ∀ n : Nat, c ∈ PyStr.decimal n → 32 ≤ c ∧ c ≤ 126 := by
        intro n hn
        have hbounds : 48 ≤ c ∧ c ≤ 57 := PyStr.isDigit_of_mem_decimal hn
        omega
      cases value with
      | ofNat n => exact hdigit n hc
      | negSucc n =>
          rcases List.mem_cons.mp hc with rfl | hc
          · omega
          · exact hdigit _ hc
  | .str text, _, c, hc => Json.dumpsString_ascii hc
  | .list [], _, c, hc => by
      simp only [writeIn, List.mem_cons, List.not_mem_nil, or_false] at hc
      omega
  | .list (item :: items), depth, c, hc => by
      simp only [writeIn, Layout.line, List.nil_append, List.mem_cons, List.mem_append] at hc
      rcases hc with rfl | hitem | hitems
      · omega
      · exact writeIn_line_ascii item _ c hitem
      · exact writeItemsIn_line_ascii items _ c hitems
  | .obj [], _, c, hc => by
      simp only [writeIn, List.mem_cons, List.not_mem_nil, or_false] at hc
      omega
  | .obj ((key, value) :: fields), depth, c, hc => by
      simp only [writeIn, Layout.line, List.nil_append, List.mem_cons, List.mem_append] at hc
      rcases hc with rfl | hkey | rfl | (rfl | hnil) | hvalue | hfields
      · omega
      · exact Json.dumpsString_ascii hkey
      · omega
      · omega
      · cases hnil
      · exact writeIn_line_ascii value _ c hvalue
      · exact writeFieldsIn_line_ascii fields _ c hfields

theorem writeItemsIn_line_ascii : ∀ (items : List JsonValue) (depth : Nat),
    ∀ c ∈ writeItemsIn .line depth items, 32 ≤ c ∧ c ≤ 126
  | [], _, c, hc => by
      rw [List.mem_singleton.mp hc]
      omega
  | item :: items, depth, c, hc => by
      simp only [writeItemsIn, Layout.line, List.mem_cons, List.mem_append] at hc
      rcases hc with rfl | (rfl | hnil) | hitem | hitems
      · omega
      · omega
      · cases hnil
      · exact writeIn_line_ascii item _ c hitem
      · exact writeItemsIn_line_ascii items _ c hitems

theorem writeFieldsIn_line_ascii : ∀ (fields : List (PyStr × JsonValue)) (depth : Nat),
    ∀ c ∈ writeFieldsIn .line depth fields, 32 ≤ c ∧ c ≤ 126
  | [], _, c, hc => by
      rw [List.mem_singleton.mp hc]
      omega
  | (key, value) :: fields, depth, c, hc => by
      simp only [writeFieldsIn, Layout.line, List.mem_cons, List.mem_append] at hc
      rcases hc with rfl | (rfl | hnil) | hkey | rfl | (rfl | hnil) | hvalue | hfields
      · omega
      · omega
      · cases hnil
      · exact Json.dumpsString_ascii hkey
      · omega
      · omega
      · cases hnil
      · exact writeIn_line_ascii value _ c hvalue
      · exact writeFieldsIn_line_ascii fields _ c hfields

end

/-- The end of a list of items. -/
theorem exists_writeItemsIn (layout : Layout) (depth : Nat) (items : List JsonValue) :
    ∃ front, writeItemsIn layout depth items = front ++ [93] := by
  induction items with
  | nil => exact ⟨_, rfl⟩
  | cons item items ih =>
      obtain ⟨front, hfront⟩ := ih
      refine ⟨44 :: (layout.comma (depth + 1) ++ (writeIn layout (depth + 1) item ++ front)), ?_⟩
      rw [writeItemsIn, hfront, List.cons_append, List.append_assoc, List.append_assoc]

theorem exists_writeFieldsIn (layout : Layout) (depth : Nat) (fields : List (PyStr × JsonValue)) :
    ∃ front, writeFieldsIn layout depth fields = front ++ [125] := by
  induction fields with
  | nil => exact ⟨_, rfl⟩
  | cons field fields ih =>
      obtain ⟨front, hfront⟩ := ih
      obtain ⟨key, value⟩ := field
      refine ⟨44 :: (layout.comma (depth + 1) ++ (Json.dumpsString key ++ 58 :: (layout.colon ++
        (writeIn layout (depth + 1) value ++ front)))), ?_⟩
      rw [writeFieldsIn, hfront]
      simp only [List.cons_append, List.append_assoc]

theorem not_isSpace_of_isDigit {c : Nat} (h : PyStr.IsDigit c) : PyStr.isSpace c = false := by
  have hall : ∀ c < 58, 48 ≤ c → PyStr.isSpace c = false := by decide
  exact hall c (Nat.lt_succ_of_le h.2) h.1

/-- A document does not end with white space. -/
theorem exists_writeIn (layout : Layout) (depth : Nat) (value : JsonValue) :
    ∃ front c, writeIn layout depth value = front ++ [c] ∧ PyStr.isSpace c = false := by
  have hnumber : ∀ n : Nat, ∃ front c, PyStr.decimal n = front ++ [c] ∧
      PyStr.isSpace c = false := by
    intro n
    have hne := PyStr.decimal_ne_nil n
    refine ⟨_, _, (List.dropLast_append_getLast hne).symm, not_isSpace_of_isDigit ?_⟩
    exact PyStr.isDigit_of_mem_decimal (List.getLast_mem hne)
  cases value with
  | null => exact ⟨py "nul", 108, rfl, rfl⟩
  | bool value =>
      cases value
      · exact ⟨py "fals", 101, rfl, rfl⟩
      · exact ⟨py "tru", 101, rfl, rfl⟩
  | int value =>
      cases value with
      | ofNat n => exact hnumber n
      | negSucc n =>
          obtain ⟨front, c, heq, hc⟩ := hnumber (n + 1)
          exact ⟨45 :: front, c, congrArg (List.cons 45) heq, hc⟩
  | str text => exact ⟨34 :: text.flatMap Json.escapeChar, 34, rfl, rfl⟩
  | list items =>
      cases items with
      | nil => exact ⟨[91], 93, rfl, rfl⟩
      | cons item items =>
          obtain ⟨front, hfront⟩ := exists_writeItemsIn layout depth items
          refine ⟨91 :: (layout.opening (depth + 1) ++ (writeIn layout (depth + 1) item ++ front)),
            93, ?_, rfl⟩
          rw [writeIn, hfront, List.cons_append, List.append_assoc, List.append_assoc]
  | obj fields =>
      cases fields with
      | nil => exact ⟨[123], 125, rfl, rfl⟩
      | cons field fields =>
          obtain ⟨key, value⟩ := field
          obtain ⟨front, hfront⟩ := exists_writeFieldsIn layout depth fields
          refine ⟨123 :: (layout.opening (depth + 1) ++ (Json.dumpsString key ++ 58 ::
            (layout.colon ++ (writeIn layout (depth + 1) value ++ front)))), 125, ?_, rfl⟩
          rw [writeIn, hfront]
          simp only [List.cons_append, List.append_assoc]

/-- Nor does one on a line start with it. -/
theorem strip_dumpsIn_line (value : JsonValue) :
    PyStr.strip (dumpsIn .line value) = dumpsIn .line value := by
  rw [PyStr.strip_eq_self_iff]
  constructor
  · intro c hc
    have hascii := writeIn_line_ascii value.sortKeys 0 c (List.mem_of_mem_head? hc)
    obtain ⟨d, tail, hwrite, hkind⟩ := head_writeIn .line 0 value.sortKeys
    rw [dumpsIn, hwrite, List.head?_cons, Option.mem_some_iff] at hc
    rw [hc] at hkind
    have hblank := (start_of_kind hkind).1
    have hall : ∀ c < 127, 32 ≤ c → Json.isBlank c = false → PyStr.isSpace c = false := by decide
    exact hall c (by omega) hascii.1 hblank
  · intro c hc
    obtain ⟨front, d, hwrite, hspace⟩ := exists_writeIn .line 0 value.sortKeys
    rw [dumpsIn, hwrite, List.getLast?_append_cons, List.getLast?_singleton,
      Option.mem_some_iff] at hc
    rw [← hc]
    exact hspace

/-! ## Appending -/

/-- The file to which these documents were appended. -/
def jsonLines (payloads : List JsonValue) : PyStr :=
  payloads.flatMap jsonLine

theorem jsonLines_append (payloads : List JsonValue) (payload : JsonValue) :
    jsonLines (payloads ++ [payload]) = jsonLines payloads ++ jsonLine payload := by
  rw [jsonLines, List.flatMap_append, List.flatMap_singleton, jsonLines]

/-- The lines of a file are its documents and what is behind the last one. -/
theorem splitOnP_jsonLines (payloads : List JsonValue) :
    (jsonLines payloads).splitOnP (fun c => c = 10 || c = 13) =
      payloads.map (dumpsIn .line) ++ [[]] := by
  induction payloads with
  | nil => rfl
  | cons payload payloads ih =>
      have hinside : ∀ c ∈ dumpsIn .line payload, (decide (c = 10) || decide (c = 13)) = false := by
        intro c hc
        have hascii := writeIn_line_ascii payload.sortKeys 0 c hc
        rw [Bool.or_eq_false_iff, decide_eq_false_iff_not, decide_eq_false_iff_not]
        omega
      have htext : jsonLines (payload :: payloads) =
          dumpsIn .line payload ++ 10 :: jsonLines payloads := by
        rw [jsonLines, List.flatMap_cons, jsonLine, List.append_assoc]
        rfl
      rw [htext, List.splitOnP_append_cons_of_forall_mem hinside 10 rfl, ih]
      rfl

/-- Every line is read back, in the order in which they were appended. -/
theorem readJsonLines_jsonLines {payloads : List JsonValue}
    (h : ∀ payload ∈ payloads, Plain payload) :
    readJsonLines (jsonLines payloads) = some (payloads.map sortKeys) := by
  have hstrip : (payloads.map (dumpsIn .line) ++ [[]]).map PyStr.strip =
      payloads.map (dumpsIn .line) ++ [[]] := by
    rw [List.map_append, List.map_map]
    congr 1
    exact List.map_congr_left fun payload _ => strip_dumpsIn_line payload
  have hfilter : (payloads.map (dumpsIn .line) ++ [[]]).filter (fun line => !line.isEmpty) =
      payloads.map (dumpsIn .line) := by
    rw [List.filter_append, List.filter_eq_self.mpr]
    · exact List.append_nil _
    · intro line hline
      obtain ⟨payload, -, rfl⟩ := List.mem_map.mp hline
      obtain ⟨c, tail, hwrite, -⟩ := head_writeIn .line 0 payload.sortKeys
      rw [dumpsIn, hwrite]
      rfl
  rw [readJsonLines, splitOnP_jsonLines, hstrip, hfilter, mapM_eq_some_iff, List.map_map,
    List.map_map]
  apply List.map_congr_left
  intro payload hpayload
  have hnone : ∀ c ∈ ([] : PyStr), Json.isBlank c = true :=
    fun c hc => absurd hc List.not_mem_nil
  have hloads := loads_dumpsIn .line (h payload hpayload) hnone
  rw [List.append_nil] at hloads
  exact hloads

/-- The documents of a file, none when the file does not exist. -/
def readJsonLinesOf : Option PyStr → Option (List JsonValue)
  | none => some []
  | some text => readJsonLines text

/-- A file that does not exist reads as an empty one. -/
theorem readJsonLinesOf_eq (file : Option PyStr) :
    readJsonLinesOf file = readJsonLines (file.getD []) := by
  cases file with
  | none => rfl
  | some text => rfl

theorem readJsonLinesOf_of_getD {file : Option PyStr} {payloads : List JsonValue}
    (hplain : ∀ payload ∈ payloads, Plain payload) (h : file.getD [] = jsonLines payloads) :
    readJsonLinesOf file = some (payloads.map sortKeys) := by
  rw [readJsonLinesOf_eq, h, readJsonLines_jsonLines hplain]

end ImmichDoctor.Library.JsonValue
