import ImmichDoctor.Library.Digits
import ImmichDoctor.Library.JsonRecords
/-!
# JSON documents

`json.dumps(value, sort_keys=True)` with the blanks of a layout, and `json.loads`, which is
`none` on a text that is no document and on one with a float in it. What is written is read
back, with the keys of its objects sorted.
-/

namespace ImmichDoctor.Library

namespace JsonValue

/-! ## Values that are read back -/

/-- Code points of a `str`, without a high surrogate right before a low one. -/
structure PlainText (text : PyStr) : Prop where
  settled : Json.Settled text
  bounded : ∀ c ∈ text, c ≤ 0x10FFFF

instance : DecidablePred PlainText :=
  fun text => decidable_of_iff (Json.Settled text ∧ ∀ c ∈ text, c ≤ 0x10FFFF)
    ⟨fun h => ⟨h.1, h.2⟩, fun h => ⟨h.settled, h.bounded⟩⟩

mutual

/-- Every text of the value is plain, and no two fields of an object have one key. -/
def Plain : JsonValue → Prop
  | str text => PlainText text
  | list items => ItemsPlain items
  | obj fields => (fields.map (·.1)).Nodup ∧ FieldsPlain fields
  | _ => True

def ItemsPlain : List JsonValue → Prop
  | [] => True
  | item :: items => Plain item ∧ ItemsPlain items

def FieldsPlain : List (PyStr × JsonValue) → Prop
  | [] => True
  | field :: fields => (PlainText field.1 ∧ Plain field.2) ∧ FieldsPlain fields

end

theorem plainText_py (text : String) : PlainText (py text) where
  settled := Json.settled_of_readable (Json.readable_py text)
  bounded := fun c hc => (Json.readable_py text c hc).1

theorem itemsPlain_iff {items : List JsonValue} :
    ItemsPlain items ↔ ∀ item ∈ items, Plain item := by
  induction items with
  | nil => exact iff_of_true trivial (by simp)
  | cons item items ih => rw [ItemsPlain, ih, List.forall_mem_cons]

theorem fieldsPlain_iff {fields : List (PyStr × JsonValue)} :
    FieldsPlain fields ↔ ∀ field ∈ fields, PlainText field.1 ∧ Plain field.2 := by
  induction fields with
  | nil => exact iff_of_true trivial (by simp)
  | cons field fields ih => rw [FieldsPlain, ih, List.forall_mem_cons]

mutual

theorem Plain.sortKeys : ∀ {v : JsonValue}, Plain v → Plain v.sortKeys
  | .null, h => h
  | .bool _, h => h
  | .int _, h => h
  | .str _, h => h
  | .list _, h => ItemsPlain.sortItems h
  | .obj fields, h => by
      have hperm := List.perm_insertionSort (fun a b => a.1 ≤ b.1) (sortFields fields)
      rw [JsonValue.sortKeys, Plain, fieldsPlain_iff]
      constructor
      · rw [(hperm.map (·.1)).nodup_iff, keys_sortFields]
        exact h.1
      · intro field hfield
        exact fieldsPlain_iff.mp (FieldsPlain.sortFields h.2) field (hperm.mem_iff.mp hfield)

theorem ItemsPlain.sortItems : ∀ {items : List JsonValue}, ItemsPlain items →
    ItemsPlain (sortItems items)
  | [], h => h
  | _ :: _, h => ⟨h.1.sortKeys, ItemsPlain.sortItems h.2⟩

theorem FieldsPlain.sortFields : ∀ {fields : List (PyStr × JsonValue)},
    FieldsPlain fields → FieldsPlain (sortFields fields)
  | [], h => h
  | (_, _) :: _, h => ⟨⟨h.1.1, h.1.2.sortKeys⟩, FieldsPlain.sortFields h.2⟩

end

/-! ## Writing -/

/-- The blanks between the parts of a value, by the depth of what they stand before. -/
structure Layout where
  opening : Nat → PyStr
  comma : Nat → PyStr
  colon : PyStr
  closing : Nat → PyStr
  blank_opening : ∀ depth, ∀ c ∈ opening depth, Json.isBlank c = true
  blank_comma : ∀ depth, ∀ c ∈ comma depth, Json.isBlank c = true
  blank_colon : ∀ c ∈ colon, Json.isBlank c = true
  blank_closing : ∀ depth, ∀ c ∈ closing depth, Json.isBlank c = true

/-- A new line at a depth, with two spaces for each level. -/
def newline (depth : Nat) : PyStr :=
  10 :: List.replicate (2 * depth) 32

theorem isBlank_newline {depth c : Nat} (hc : c ∈ newline depth) : Json.isBlank c = true := by
  rcases List.mem_cons.mp hc with rfl | hspace
  · rfl
  · rw [List.eq_of_mem_replicate hspace]
    rfl

theorem isBlank_space {c : Nat} (hc : c ∈ [32]) : Json.isBlank c = true := by
  rw [List.mem_singleton.mp hc]
  rfl

/-- The default separators. -/
def Layout.line : Layout where
  opening _ := []
  comma _ := [32]
  colon := [32]
  closing _ := []
  blank_opening _ _ hc := absurd hc List.not_mem_nil
  blank_comma _ _ hc := isBlank_space hc
  blank_colon _ hc := isBlank_space hc
  blank_closing _ _ hc := absurd hc List.not_mem_nil

/-- `indent=2`. -/
def Layout.indented : Layout where
  opening := newline
  comma := newline
  colon := [32]
  closing := newline
  blank_opening _ _ hc := isBlank_newline hc
  blank_comma _ _ hc := isBlank_newline hc
  blank_colon _ hc := isBlank_space hc
  blank_closing _ _ hc := isBlank_newline hc

mutual

/-- The text of a value at a depth, its fields in the order they have. -/
def writeIn (layout : Layout) (depth : Nat) : JsonValue → PyStr
  | null => py "null"
  | bool true => py "true"
  | bool false => py "false"
  | int value => writeInt value
  | str text => Json.dumpsString text
  | list [] => [91, 93]
  | list (item :: items) =>
      91 :: (layout.opening (depth + 1) ++
        (writeIn layout (depth + 1) item ++ writeItemsIn layout depth items))
  | obj [] => [123, 125]
  | obj ((key, value) :: fields) =>
      123 :: (layout.opening (depth + 1) ++ (Json.dumpsString key ++ 58 :: (layout.colon ++
        (writeIn layout (depth + 1) value ++ writeFieldsIn layout depth fields))))

/-- The items after the first one, up to the end of the array at this depth. -/
def writeItemsIn (layout : Layout) (depth : Nat) : List JsonValue → PyStr
  | [] => layout.closing depth ++ [93]
  | item :: items =>
      44 :: (layout.comma (depth + 1) ++
        (writeIn layout (depth + 1) item ++ writeItemsIn layout depth items))

def writeFieldsIn (layout : Layout) (depth : Nat) : List (PyStr × JsonValue) → PyStr
  | [] => layout.closing depth ++ [125]
  | (key, value) :: fields =>
      44 :: (layout.comma (depth + 1) ++ (Json.dumpsString key ++ 58 :: (layout.colon ++
        (writeIn layout (depth + 1) value ++ writeFieldsIn layout depth fields))))

end

/-- `json.dumps(value, sort_keys=True)` in a layout. -/
def dumpsIn (layout : Layout) (value : JsonValue) : PyStr :=
  writeIn layout 0 value.sortKeys

/-! ## Reading -/

def skipBlanks (text : PyStr) : PyStr :=
  text.dropWhile Json.isBlank

/-- The string up to its closing quote, and what follows. -/
def parseString (text : PyStr) : Option (PyStr × PyStr) := do
  let (body, rest) ← Json.closingQuote text
  let reader ← Json.Reader.read ⟨[], .text []⟩ (body ++ [34])
  let content ← reader.items.head?
  some (content, rest)

/-- The digits of the number that a text starts with; none follow a leading zero. -/
def leadingDigits (text : PyStr) : PyStr :=
  if text.head? = some 48 then [48] else text.takeWhile fun c => decide (PyStr.IsDigit c)

/-- A number without a fraction or an exponent. -/
def parseInt (text : PyStr) : Option (JsonValue × PyStr) :=
  let unsigned := if text.head? = some 45 then text.tail else text
  let digits := leadingDigits unsigned
  let rest := unsigned.drop digits.length
  if digits = [] ∨ rest.head? = some 46 ∨ rest.head? = some 69 ∨ rest.head? = some 101 then none
  else
    let number : Int := PyStr.numberOf (digits.map (· - 48))
    some (int (if text.head? = some 45 then -number else number), rest)

/-- `dict(pairs)`. -/
def dictOf (pairs : List (PyStr × JsonValue)) : List (PyStr × JsonValue) :=
  pairs.foldl (fun dict pair =>
    if pair.1 ∈ dict.map (·.1) then
      dict.map fun field => if field.1 = pair.1 then pair else field
    else dict ++ [pair]) []

mutual

/-- The value at the start of a text, and what follows. -/
def parseValue : Nat → PyStr → Option (JsonValue × PyStr)
  | 0, _ => none
  | fuel + 1, text =>
      if text.head? = some 34 then
        (parseString text.tail).map fun cut => (str cut.1, cut.2)
      else if text.head? = some 91 then
        if (skipBlanks text.tail).head? = some 93 then some (list [], (skipBlanks text.tail).tail)
        else (parseItems fuel (skipBlanks text.tail)).map fun cut => (list cut.1, cut.2)
      else if text.head? = some 123 then
        if (skipBlanks text.tail).head? = some 125 then some (obj [], (skipBlanks text.tail).tail)
        else (parseFields fuel (skipBlanks text.tail)).map fun cut => (obj (dictOf cut.1), cut.2)
      else if text.take 4 = py "null" then some (null, text.drop 4)
      else if text.take 4 = py "true" then some (bool true, text.drop 4)
      else if text.take 5 = py "false" then some (bool false, text.drop 5)
      else parseInt text

/-- The items of an array from here to its end. -/
def parseItems : Nat → PyStr → Option (List JsonValue × PyStr)
  | 0, _ => none
  | fuel + 1, text => do
      let (item, rest) ← parseValue fuel text
      if (skipBlanks rest).head? = some 93 then some ([item], (skipBlanks rest).tail)
      else if (skipBlanks rest).head? = some 44 then
        (parseItems fuel (skipBlanks (skipBlanks rest).tail)).map fun cut => (item :: cut.1, cut.2)
      else none

def parseFields : Nat → PyStr → Option (List (PyStr × JsonValue) × PyStr)
  | 0, _ => none
  | fuel + 1, text =>
      if text.head? ≠ some 34 then none
      else do
        let (key, behindKey) ← parseString text.tail
        if (skipBlanks behindKey).head? ≠ some 58 then none
        else
          let (value, rest) ← parseValue fuel (skipBlanks (skipBlanks behindKey).tail)
          if (skipBlanks rest).head? = some 125 then some ([(key, value)], (skipBlanks rest).tail)
          else if (skipBlanks rest).head? = some 44 then
            (parseFields fuel (skipBlanks (skipBlanks rest).tail)).map fun cut =>
              ((key, value) :: cut.1, cut.2)
          else none

end

/-- `json.loads`; every call for a part of the text leaves less of it. -/
def loads (text : PyStr) : Option JsonValue := do
  let (value, rest) ← parseValue (text.length + 1) (skipBlanks text)
  if skipBlanks rest = [] then some value else none

example : (loads
    (dumpsIn .indented (obj [(py "b", list [int (-12), null]), (py "a", bool true)]))).map
    dumps = some (py "\x7b\"a\":true,\"b\":[-12,null]\x7d") := by
  decide +kernel

/-! ## Round trip -/

theorem skipBlanks_append {blanks rest : PyStr} (h : ∀ c ∈ blanks, Json.isBlank c = true) :
    skipBlanks (blanks ++ rest) = skipBlanks rest := by
  induction blanks with
  | nil => rfl
  | cons c blanks ih =>
      rw [List.cons_append, skipBlanks, List.dropWhile_cons_of_pos (h c List.mem_cons_self)]
      exact ih fun d hd => h d (List.mem_cons_of_mem c hd)

theorem skipBlanks_cons {c : Nat} {rest : PyStr} (h : Json.isBlank c = false) :
    skipBlanks (c :: rest) = c :: rest :=
  List.dropWhile_cons_of_neg (by rw [h]; exact Bool.false_ne_true)

/-- What may follow a value in a larger document. -/
def Ended (rest : PyStr) : Prop :=
  ∀ c ∈ rest.head?, Json.isBlank c = true ∨ c = 44 ∨ c = 93 ∨ c = 125

theorem ended_cons {c : Nat} {rest : PyStr}
    (hc : Json.isBlank c = true ∨ c = 44 ∨ c = 93 ∨ c = 125) : Ended (c :: rest) := by
  intro d hd
  rw [← Option.some.inj hd]
  exact hc

theorem ended_closing {blanks rest : PyStr} {c : Nat}
    (hblanks : ∀ d ∈ blanks, Json.isBlank d = true)
    (hc : c = 93 ∨ c = 125) : Ended (blanks ++ c :: rest) := by
  cases blanks with
  | nil => exact ended_cons (.inr (.inr hc))
  | cons d blanks => exact ended_cons (.inl (hblanks d List.mem_cons_self))

theorem ended_writeItemsIn (layout : Layout) (depth : Nat) (items : List JsonValue) (rest : PyStr) :
    Ended (writeItemsIn layout depth items ++ rest) := by
  cases items with
  | nil =>
      rw [writeItemsIn, List.append_assoc]
      exact ended_closing (layout.blank_closing depth) (.inl rfl)
  | cons item items => exact ended_cons (.inr (.inl rfl))

theorem ended_writeFieldsIn (layout : Layout) (depth : Nat) (fields : List (PyStr × JsonValue))
    (rest : PyStr) : Ended (writeFieldsIn layout depth fields ++ rest) := by
  cases fields with
  | nil =>
      rw [writeFieldsIn, List.append_assoc]
      exact ended_closing (layout.blank_closing depth) (.inr rfl)
  | cons field fields => exact ended_cons (.inr (.inl rfl))

/-- What follows a value starts with no part of a number. -/
theorem not_number_of_ended {rest : PyStr} (h : Ended rest) : ∀ c ∈ rest.head?,
    ¬ PyStr.IsDigit c ∧ c ≠ 46 ∧ c ≠ 69 ∧ c ≠ 101 := by
  intro c hc
  have hbounds : c = 32 ∨ c = 9 ∨ c = 10 ∨ c = 13 ∨ c = 44 ∨ c = 93 ∨ c = 125 := by
    rcases h c hc with hblank | hother
    · simp only [Json.isBlank, Bool.or_eq_true, beq_iff_eq] at hblank
      omega
    · omega
  unfold PyStr.IsDigit
  omega

theorem parseString_dumpsString {text : PyStr} (htext : PlainText text) (rest : PyStr) :
    parseString (text.flatMap Json.escapeChar ++ 34 :: rest) = some (text, rest) := by
  have hread := (Json.Reader.read_closed [] [] htext.bounded).1
  rw [Json.reread_of_settled htext.settled, List.nil_append, List.nil_append] at hread
  rw [parseString, Json.closingQuote_escaped]
  simp only [Option.bind_eq_bind, Option.bind_some, hread]
  rfl

/-- The digits of a number are read up to their end. -/
theorem leadingDigits_decimal {n : Nat} {rest : PyStr} (h : Ended rest) :
    leadingDigits (PyStr.decimal n ++ rest) = PyStr.decimal n := by
  obtain ⟨c, tail, hcons⟩ := List.exists_cons_of_ne_nil (PyStr.decimal_ne_nil n)
  have hhead : (PyStr.decimal n ++ rest).head? = (PyStr.decimal n).head? := by
    rw [hcons]
    rfl
  unfold leadingDigits
  rw [hhead]
  by_cases hzero : n = 0
  · rw [hzero]
    rfl
  · rw [if_neg (PyStr.head_decimal_ne (by omega)), List.takeWhile_append_of_pos]
    · cases rest with
      | nil => exact List.append_nil _
      | cons d rest =>
          rw [List.takeWhile_cons_of_neg, List.append_nil]
          rw [decide_eq_true_eq]
          exact (not_number_of_ended h d rfl).1
    · intro d hd
      exact decide_eq_true (PyStr.isDigit_of_mem_decimal hd)

theorem parseInt_writeInt (value : Int) {rest : PyStr} (h : Ended rest) :
    parseInt (writeInt value ++ rest) = some (int value, rest) := by
  have hnumber : ∀ n : Nat, ¬ (leadingDigits (PyStr.decimal n ++ rest) = [] ∨
      rest.head? = some 46 ∨ rest.head? = some 69 ∨ rest.head? = some 101) := by
    intro n hor
    rw [leadingDigits_decimal h] at hor
    rcases hor with hnil | hpoint | hupper | hlower
    · exact PyStr.decimal_ne_nil n hnil
    · exact (not_number_of_ended h 46 hpoint).2.1 rfl
    · exact (not_number_of_ended h 69 hupper).2.2.1 rfl
    · exact (not_number_of_ended h 101 hlower).2.2.2 rfl
  cases value with
  | ofNat n =>
      have hhead : (PyStr.decimal n ++ rest).head? ≠ some 45 := by
        obtain ⟨c, tail, hcons⟩ := List.exists_cons_of_ne_nil (PyStr.decimal_ne_nil n)
        have hdigit : PyStr.IsDigit c := PyStr.isDigit_of_mem_decimal (hcons ▸ List.mem_cons_self)
        rw [hcons, List.cons_append, List.head?_cons, ne_eq, Option.some.injEq]
        unfold PyStr.IsDigit at hdigit
        omega
      have hdrop := hnumber n
      simp only [writeInt, parseInt, hhead, if_false]
      rw [if_neg (by simpa only [leadingDigits_decimal h, List.drop_left] using hdrop),
        leadingDigits_decimal h, List.drop_left, PyStr.numberOf_decimal]
      rfl
  | negSucc n =>
      have hdrop := hnumber (n + 1)
      simp only [writeInt, parseInt, List.cons_append, List.head?_cons, List.tail_cons, if_true]
      rw [if_neg (by simpa only [leadingDigits_decimal h, List.drop_left] using hdrop),
        leadingDigits_decimal h, List.drop_left, PyStr.numberOf_decimal]
      rfl

/-- Pairs without a common key are a dictionary as they stand. -/
theorem dictOf_of_nodup {pairs : List (PyStr × JsonValue)} (h : (pairs.map (·.1)).Nodup) :
    dictOf pairs = pairs := by
  suffices hdict : ∀ (later dict : List (PyStr × JsonValue)),
      ((dict ++ later).map (·.1)).Nodup → later.foldl (fun dict pair =>
        if pair.1 ∈ dict.map (·.1) then
          dict.map fun field => if field.1 = pair.1 then pair else field
        else dict ++ [pair]) dict = dict ++ later from
    hdict pairs [] h
  intro later
  induction later with
  | nil => exact fun dict _ => (List.append_nil dict).symm
  | cons pair later ih =>
      intro dict hnodup
      have hfresh : pair.1 ∉ dict.map (·.1) := by
        rw [List.map_append, List.map_cons] at hnodup
        exact fun hmem => (List.nodup_append.mp hnodup).2.2 _ hmem _ List.mem_cons_self rfl
      rw [List.append_cons] at hnodup
      rw [List.foldl_cons, if_neg hfresh, ih _ hnodup, List.append_assoc]
      rfl

theorem head_writeIn (layout : Layout) (depth : Nat) (value : JsonValue) :
    ∃ c tail, writeIn layout depth value = c :: tail ∧ kindOfHead c = kind value := by
  cases value with
  | null => exact ⟨110, _, rfl, rfl⟩
  | bool value => cases value <;> exact ⟨_, _, rfl, rfl⟩
  | int value => exact head_writeInt value
  | str text => exact ⟨34, _, rfl, rfl⟩
  | list items => cases items <;> exact ⟨91, _, rfl, rfl⟩
  | obj fields => cases fields <;> exact ⟨123, _, rfl, rfl⟩

/-- The first code point of a value is neither blank nor the end of something. -/
theorem start_of_kind {c : Nat} {value : JsonValue} (h : kindOfHead c = kind value) :
    Json.isBlank c = false ∧ c ≠ 93 ∧ c ≠ 125 := by
  have hkind : kind value ≠ 32 ∧ kind value ≠ 9 ∧ kind value ≠ 10 ∧ kind value ≠ 13 ∧
      kind value ≠ 93 ∧ kind value ≠ 125 := by
    cases value with
    | bool value => cases value <;> decide
    | _ => simp [kind]
  have hc : c ≠ 32 ∧ c ≠ 9 ∧ c ≠ 10 ∧ c ≠ 13 ∧ c ≠ 93 ∧ c ≠ 125 := by
    rw [← h] at hkind
    unfold kindOfHead at hkind
    split at hkind <;> omega
  refine ⟨?_, by omega, by omega⟩
  simp only [Json.isBlank, Bool.or_eq_false_iff, beq_eq_false_iff_ne]
  omega

/-- Behind blanks a value starts where its text does. -/
theorem skipBlanks_value {blanks : PyStr} (h : ∀ c ∈ blanks, Json.isBlank c = true)
    (layout : Layout) (depth : Nat) (value : JsonValue) (rest : PyStr) :
    skipBlanks (blanks ++ (writeIn layout depth value ++ rest)) =
        writeIn layout depth value ++ rest ∧
      (writeIn layout depth value ++ rest).head? ≠ some 93 ∧
        (writeIn layout depth value ++ rest).head? ≠ some 125 := by
  obtain ⟨c, tail, hwrite, hkind⟩ := head_writeIn layout depth value
  obtain ⟨hblank, hbracket, hbrace⟩ := start_of_kind hkind
  rw [skipBlanks_append h, hwrite, List.cons_append, skipBlanks_cons hblank, List.head?_cons]
  exact ⟨rfl, fun heq => hbracket (Option.some.inj heq), fun heq => hbrace (Option.some.inj heq)⟩

/-- Behind the blanks before it stands what closes an array or an object. -/
theorem skipBlanks_closing {blanks : PyStr} (h : ∀ c ∈ blanks, Json.isBlank c = true) {c : Nat}
    (hc : c = 93 ∨ c = 125 ∨ c = 44 ∨ c = 58 ∨ c = 34) (rest : PyStr) :
    skipBlanks (blanks ++ c :: rest) = c :: rest := by
  rw [skipBlanks_append h]
  apply skipBlanks_cons
  rcases hc with rfl | rfl | rfl | rfl | rfl
  all_goals rfl

theorem length_writeItemsIn_pos (layout : Layout) (depth : Nat) (items : List JsonValue) :
    0 < (writeItemsIn layout depth items).length := by
  cases items with
  | nil => rw [writeItemsIn, List.length_append, List.length_singleton]; omega
  | cons item items => exact Nat.succ_pos _

theorem length_writeFieldsIn_pos (layout : Layout) (depth : Nat)
    (fields : List (PyStr × JsonValue)) : 0 < (writeFieldsIn layout depth fields).length := by
  cases fields with
  | nil => rw [writeFieldsIn, List.length_append, List.length_singleton]; omega
  | cons field fields => exact Nat.succ_pos _

/-- A text that starts with another code point than these is a number. -/
theorem parseValue_number {fuel c : Nat} {tail : PyStr} (h : kindOfHead c = 45) :
    parseValue (fuel + 1) (c :: tail) = parseInt (c :: tail) := by
  have hc : c ≠ 34 ∧ c ≠ 91 ∧ c ≠ 123 ∧ c ≠ 110 ∧ c ≠ 116 ∧ c ≠ 102 := by
    unfold kindOfHead at h
    split at h <;> omega
  obtain ⟨hquote, hbracket, hbrace, hn, ht, hf⟩ := hc
  have hnull : (c :: tail).take 4 ≠ py "null" := fun heq => hn (List.cons.inj heq).1
  have htrue : (c :: tail).take 4 ≠ py "true" := fun heq => ht (List.cons.inj heq).1
  have hfalse : (c :: tail).take 5 ≠ py "false" := fun heq => hf (List.cons.inj heq).1
  rw [parseValue, List.head?_cons, if_neg (by simpa using hquote), if_neg (by simpa using hbracket),
    if_neg (by simpa using hbrace), if_neg hnull, if_neg htrue, if_neg hfalse]

section Reading

variable (layout : Layout)

/-- With this fuel a written value is read back, whatever ends it. -/
def ReadsValues (fuel : Nat) : Prop :=
  ∀ (value : JsonValue) (depth : Nat) (rest : PyStr), Plain value → Ended rest →
    (writeIn layout depth value).length ≤ fuel →
    parseValue fuel (writeIn layout depth value ++ rest) = some (value, rest)

def ReadsItems (fuel : Nat) : Prop :=
  ∀ (item : JsonValue) (items : List JsonValue) (depth : Nat) (rest : PyStr), Plain item →
    ItemsPlain items →
    (writeIn layout (depth + 1) item).length + (writeItemsIn layout depth items).length ≤ fuel →
    parseItems fuel (writeIn layout (depth + 1) item ++ (writeItemsIn layout depth items ++ rest)) =
      some (item :: items, rest)

def ReadsFields (fuel : Nat) : Prop :=
  ∀ (key : PyStr) (value : JsonValue) (fields : List (PyStr × JsonValue)) (depth : Nat)
    (rest : PyStr), PlainText key → Plain value → FieldsPlain fields →
    (writeIn layout (depth + 1) value).length + (writeFieldsIn layout depth fields).length ≤ fuel →
    parseFields fuel (34 :: (key.flatMap Json.escapeChar ++ 34 :: 58 :: (layout.colon ++
        (writeIn layout (depth + 1) value ++ (writeFieldsIn layout depth fields ++ rest))))) =
      some ((key, value) :: fields, rest)

variable {layout} {fuel : Nat}

theorem length_writeIn_pos (layout : Layout) (depth : Nat) (value : JsonValue) :
    0 < (writeIn layout depth value).length := by
  obtain ⟨c, tail, hwrite, -⟩ := head_writeIn layout depth value
  rw [hwrite]
  exact Nat.succ_pos _

theorem readsValues_succ (hitems : ReadsItems layout fuel) (hfields : ReadsFields layout fuel) :
    ReadsValues layout (fuel + 1) := by
  intro value depth rest hplain hended hfuel
  cases value with
  | null => rfl
  | bool value => cases value <;> rfl
  | int value =>
      obtain ⟨c, tail, hwrite, hkind⟩ := head_writeInt value
      have hparse := parseInt_writeInt value hended
      rw [hwrite, List.cons_append] at hparse
      rw [writeIn, hwrite, List.cons_append, parseValue_number hkind, hparse]
  | str text =>
      rw [writeIn, Json.dumpsString, List.cons_append, List.cons_append, List.append_assoc,
        parseValue, List.head?_cons, if_pos rfl, List.tail_cons, List.singleton_append,
        parseString_dumpsString hplain, Option.map_some]
  | list items =>
      cases items with
      | nil => rfl
      | cons item items =>
          obtain ⟨hstart, hbracket, -⟩ := skipBlanks_value (layout.blank_opening (depth + 1)) layout
            (depth + 1) item (writeItemsIn layout depth items ++ rest)
          simp only [writeIn, List.length_cons, List.length_append] at hfuel
          have hread := hitems item items depth rest hplain.1 hplain.2 (by omega)
          rw [writeIn, List.cons_append, List.append_assoc, List.append_assoc, parseValue,
            List.head?_cons, if_neg (by simp), if_pos rfl, List.tail_cons, hstart,
            if_neg hbracket, hread, Option.map_some]
  | obj fields =>
      cases fields with
      | nil => rfl
      | cons field fields =>
          obtain ⟨key, value⟩ := field
          have hstart := skipBlanks_closing (layout.blank_opening (depth + 1)) (c := 34) (by omega)
            (key.flatMap Json.escapeChar ++ 34 :: 58 :: (layout.colon ++
              (writeIn layout (depth + 1) value ++ (writeFieldsIn layout depth fields ++ rest))))
          simp only [writeIn, List.length_cons, List.length_append] at hfuel
          have hread := hfields key value fields depth rest hplain.2.1.1 hplain.2.1.2 hplain.2.2
            (by omega)
          simp only [writeIn, Json.dumpsString, List.cons_append, List.append_assoc,
            List.nil_append]
          rw [parseValue, List.head?_cons, if_neg (by simp), if_neg (by simp), if_pos rfl,
            List.tail_cons, hstart, List.head?_cons, if_neg (by simp), hread, Option.map_some,
            dictOf_of_nodup hplain.1]

theorem readsItems_succ (hvalues : ReadsValues layout fuel) (hrest : ReadsItems layout fuel) :
    ReadsItems layout (fuel + 1) := by
  intro item items depth rest hitem hitems hfuel
  have hpos := length_writeItemsIn_pos layout depth items
  have hvalue := hvalues item (depth + 1) (writeItemsIn layout depth items ++ rest) hitem
    (ended_writeItemsIn layout depth items rest) (by omega)
  rw [parseItems, hvalue]
  simp only [Option.bind_eq_bind, Option.bind_some]
  cases items with
  | nil =>
      rw [writeItemsIn, List.append_assoc, List.singleton_append,
        skipBlanks_closing (layout.blank_closing depth) (by omega), List.head?_cons, if_pos rfl,
        List.tail_cons]
  | cons next items =>
      obtain ⟨hstart, -, -⟩ := skipBlanks_value (layout.blank_comma (depth + 1)) layout (depth + 1)
        next (writeItemsIn layout depth items ++ rest)
      have hone := length_writeIn_pos layout (depth + 1) item
      simp only [writeItemsIn, List.length_cons, List.length_append] at hfuel
      have hread := hrest next items depth rest hitems.1 hitems.2 (by omega)
      rw [writeItemsIn, List.cons_append, List.append_assoc, List.append_assoc,
        skipBlanks_cons (by rfl), List.head?_cons, if_neg (by simp), if_pos rfl,
        List.tail_cons, hstart, hread, Option.map_some]

theorem readsFields_succ (hvalues : ReadsValues layout fuel) (hrest : ReadsFields layout fuel) :
    ReadsFields layout (fuel + 1) := by
  intro key value fields depth rest hkey hplain hfields hfuel
  have hpos := length_writeFieldsIn_pos layout depth fields
  have hvalue := hvalues value (depth + 1) (writeFieldsIn layout depth fields ++ rest) hplain
    (ended_writeFieldsIn layout depth fields rest) (by omega)
  obtain ⟨hstart, -, -⟩ := skipBlanks_value layout.blank_colon layout (depth + 1) value
    (writeFieldsIn layout depth fields ++ rest)
  rw [parseFields, List.head?_cons, if_neg (by simp), List.tail_cons,
    parseString_dumpsString hkey]
  simp only [Option.bind_eq_bind, Option.bind_some]
  rw [skipBlanks_cons (by rfl), List.head?_cons, if_neg (by simp), List.tail_cons, hstart, hvalue,
    Option.bind_some]
  cases fields with
  | nil =>
      simp only [writeFieldsIn, List.append_assoc, List.singleton_append]
      rw [skipBlanks_closing (layout.blank_closing depth) (by omega), List.head?_cons, if_pos rfl,
        List.tail_cons]
  | cons field fields =>
      obtain ⟨next, other⟩ := field
      have hquote := skipBlanks_closing (layout.blank_comma (depth + 1)) (c := 34) (by omega)
        (next.flatMap Json.escapeChar ++ 34 :: 58 :: (layout.colon ++
          (writeIn layout (depth + 1) other ++ (writeFieldsIn layout depth fields ++ rest))))
      have hone := length_writeIn_pos layout (depth + 1) value
      simp only [writeFieldsIn, List.length_cons, List.length_append] at hfuel
      have hread := hrest next other fields depth rest hfields.1.1 hfields.1.2 hfields.2 (by omega)
      simp only [writeFieldsIn, Json.dumpsString, List.cons_append, List.append_assoc,
        List.nil_append]
      rw [skipBlanks_cons (by rfl), List.head?_cons, if_neg (by simp), if_pos rfl,
        List.tail_cons, hquote, hread, Option.map_some]

/-- Values, items and fields are read back with as much fuel as there is text. -/
theorem reads (layout : Layout) (fuel : Nat) :
    ReadsValues layout fuel ∧ ReadsItems layout fuel ∧ ReadsFields layout fuel := by
  induction fuel with
  | zero =>
      refine ⟨?_, ?_, ?_⟩
      · intro value depth rest _ _ hfuel
        have hpos := length_writeIn_pos layout depth value
        omega
      · intro item items depth rest _ _ hfuel
        have hpos := length_writeIn_pos layout (depth + 1) item
        omega
      · intro key value fields depth rest _ _ _ hfuel
        have hpos := length_writeIn_pos layout (depth + 1) value
        omega
  | succ fuel ih =>
      obtain ⟨hvalues, hitems, hfields⟩ := ih
      exact ⟨readsValues_succ hitems hfields, readsItems_succ hvalues hitems,
        readsFields_succ hvalues hfields⟩

end Reading

/-- What is written is read back, with its keys sorted and blanks behind it. -/
theorem loads_dumpsIn (layout : Layout) {value : JsonValue} (h : Plain value) {blanks : PyStr}
    (hblanks : ∀ c ∈ blanks, Json.isBlank c = true) :
    loads (dumpsIn layout value ++ blanks) = some value.sortKeys := by
  have hended : Ended blanks := by
    intro c hc
    exact .inl (hblanks c (List.mem_of_mem_head? hc))
  have hread := (reads layout ((dumpsIn layout value ++ blanks).length + 1)).1 value.sortKeys 0
    blanks h.sortKeys hended
      (by rw [List.length_append]; exact Nat.le_succ_of_le (Nat.le_add_right _ _))
  have hnone : ∀ c ∈ ([] : PyStr), Json.isBlank c = true :=
    fun c hc => absurd hc List.not_mem_nil
  have hstart := (skipBlanks_value hnone layout 0 value.sortKeys blanks).1
  have hrest : skipBlanks blanks = [] := by
    have hskip : skipBlanks (blanks ++ []) = skipBlanks [] := skipBlanks_append hblanks
    rwa [List.append_nil] at hskip
  rw [List.nil_append] at hstart
  rw [loads]
  show (parseValue _ (skipBlanks (writeIn layout 0 value.sortKeys ++ blanks))).bind _ = _
  rw [hstart, hread, Option.bind_some]
  exact if_pos hrest

/-! ## Fields -/

theorem field?_eq_some_iff {fields : List (PyStr × JsonValue)} (h : (fields.map (·.1)).Nodup)
    {key : PyStr} {value : JsonValue} :
    (obj fields).field? key = some value ↔ (key, value) ∈ fields := by
  rw [field?, Option.map_eq_some_iff]
  constructor
  · rintro ⟨⟨found, other⟩, hfind, rfl⟩
    have hkey : found = key := by simpa using List.find?_some hfind
    rw [← hkey]
    exact List.mem_of_find?_eq_some hfind
  · intro hmem
    cases hfind : fields.find? fun field => field.1 = key with
    | none => exact absurd (List.find?_eq_none.mp hfind _ hmem) (by simp)
    | some found =>
        have hkey : found.1 = key := by simpa using List.find?_some hfind
        have hsame : found = (key, value) :=
          List.inj_on_of_nodup_map h (List.mem_of_find?_eq_some hfind) hmem hkey
        exact ⟨found, rfl, by rw [hsame]⟩

/-- The fields of an object are found when its keys are sorted. -/
theorem field?_sortKeys {fields : List (PyStr × JsonValue)} (h : (fields.map (·.1)).Nodup)
    (key : PyStr) :
    (obj fields).sortKeys.field? key = ((obj fields).field? key).map sortKeys := by
  have hperm := List.perm_insertionSort (fun a b => a.1 ≤ b.1) (sortFields fields)
  have hnodup : (((sortFields fields).insertionSort fun a b => a.1 ≤ b.1).map (·.1)).Nodup := by
    rw [(hperm.map (·.1)).nodup_iff, keys_sortFields]
    exact h
  apply Option.ext
  intro value
  rw [sortKeys, field?_eq_some_iff hnodup, hperm.mem_iff, sortFields_eq_map, Option.map_eq_some_iff,
    List.mem_map]
  constructor
  · rintro ⟨⟨other, old⟩, hmem, heq⟩
    obtain ⟨rfl, rfl⟩ := Prod.mk.injEq _ _ _ _ ▸ heq
    exact ⟨old, (field?_eq_some_iff h).mpr hmem, rfl⟩
  · rintro ⟨old, hfound, rfl⟩
    exact ⟨(key, old), (field?_eq_some_iff h).mp hfound, rfl⟩

/-! ## Texts and dictionaries -/

mutual

/-- Whether the texts are plain and the keys of every object distinct and sorted. -/
def canonical : JsonValue → Bool
  | str text => decide (PlainText text)
  | list items => itemsCanonical items
  | obj fields =>
      decide ((fields.map (·.1)).Nodup) && decide (fields.Pairwise fun a b => a.1 ≤ b.1) &&
        fieldsCanonical fields
  | _ => true

def itemsCanonical : List JsonValue → Bool
  | [] => true
  | item :: items => canonical item && itemsCanonical items

def fieldsCanonical : List (PyStr × JsonValue) → Bool
  | [] => true
  | (key, value) :: fields => decide (PlainText key) && canonical value && fieldsCanonical fields

end

mutual

theorem plain_of_canonical : ∀ {value : JsonValue}, canonical value = true →
    Plain value ∧ value.sortKeys = value
  | .null, _ => ⟨trivial, rfl⟩
  | .bool _, _ => ⟨trivial, rfl⟩
  | .int _, _ => ⟨trivial, rfl⟩
  | .str _, h => by
      rw [canonical, decide_eq_true_eq] at h
      exact ⟨h, rfl⟩
  | .list items, h => by
      obtain ⟨hplain, hsort⟩ : ItemsPlain items ∧ sortItems items = items :=
        itemsPlain_of_canonical h
      exact ⟨hplain, by rw [sortKeys, hsort]⟩
  | .obj fields, h => by
      rw [canonical, Bool.and_eq_true, Bool.and_eq_true, decide_eq_true_eq,
        decide_eq_true_eq] at h
      obtain ⟨⟨hnodup, hsorted⟩, hfields⟩ := h
      obtain ⟨hplain, hsort⟩ := fieldsPlain_of_canonical hfields
      exact ⟨⟨hnodup, hplain⟩, by rw [sortKeys, hsort, hsorted.insertionSort_eq]⟩

theorem itemsPlain_of_canonical : ∀ {items : List JsonValue}, itemsCanonical items = true →
    ItemsPlain items ∧ sortItems items = items
  | [], _ => ⟨trivial, rfl⟩
  | item :: items, h => by
      rw [itemsCanonical, Bool.and_eq_true] at h
      obtain ⟨hitem, hsort⟩ := plain_of_canonical h.1
      obtain ⟨hitems, hsorts⟩ := itemsPlain_of_canonical h.2
      exact ⟨⟨hitem, hitems⟩, by rw [sortItems, hsort, hsorts]⟩

theorem fieldsPlain_of_canonical : ∀ {fields : List (PyStr × JsonValue)},
    fieldsCanonical fields = true → FieldsPlain fields ∧ sortFields fields = fields
  | [], _ => ⟨trivial, rfl⟩
  | (key, value) :: fields, h => by
      rw [fieldsCanonical, Bool.and_eq_true, Bool.and_eq_true, decide_eq_true_eq] at h
      obtain ⟨⟨hkey, hvalue⟩, hfields⟩ := h
      obtain ⟨hplain, hsort⟩ := plain_of_canonical hvalue
      obtain ⟨hplains, hsorts⟩ := fieldsPlain_of_canonical hfields
      exact ⟨⟨⟨hkey, hplain⟩, hplains⟩, by rw [sortFields, hsort, hsorts]⟩

end

end JsonValue

/-- A `str` that JSON gives back. -/
structure PlainStr where
  text : PyStr
  plain : JsonValue.PlainText text
  deriving DecidableEq

@[ext] theorem PlainStr.ext {a b : PlainStr} (h : a.text = b.text) : a = b := by
  cases a
  cases b
  cases h
  rfl

/-- A `dict` that JSON gives back; the order of its keys does not matter, so they are sorted. -/
structure JsonDict where
  fields : List (PyStr × JsonValue)
  canonical : (JsonValue.obj fields).canonical = true

namespace JsonValue

def ofDict? (dict : Option JsonDict) : JsonValue :=
  dict.elim .null fun dict => .obj dict.fields

def ofPlain? (text : Option PlainStr) : JsonValue :=
  .ofText? (text.map (·.text))

def toPlain? : JsonValue → Option PlainStr
  | .str text => if h : PlainText text then some ⟨text, h⟩ else none
  | _ => none

def toOptionalPlain? : JsonValue → Option (Option PlainStr)
  | .null => some none
  | value => value.toPlain?.map some

/-- `dict(value)` of an object. -/
def toDict? : JsonValue → Option JsonDict
  | .obj fields => if h : (obj fields).canonical = true then some ⟨fields, h⟩ else none
  | _ => none

def toOptionalDict? : JsonValue → Option (Option JsonDict)
  | .null => some none
  | value => value.toDict?.map some

def toBool? : JsonValue → Option Bool
  | .bool value => some value
  | _ => none

@[simp] theorem toPlain?_str (text : PlainStr) : toPlain? (.str text.text) = some text :=
  dif_pos text.plain

@[simp] theorem toOptionalPlain?_ofPlain? (text : Option PlainStr) :
    toOptionalPlain? (ofPlain? text) = some text := by
  cases text with
  | none => rfl
  | some text => exact congrArg (Option.map some) (toPlain?_str text)

@[simp] theorem toDict?_obj (dict : JsonDict) : toDict? (.obj dict.fields) = some dict :=
  dif_pos dict.canonical

@[simp] theorem toOptionalDict?_ofDict? (dict : Option JsonDict) :
    toOptionalDict? (ofDict? dict) = some dict := by
  cases dict with
  | none => rfl
  | some dict => exact congrArg (Option.map some) (toDict?_obj dict)

@[simp] theorem toBool?_bool (value : Bool) : toBool? (.bool value) = some value := rfl

/-! ## Records -/

theorem sortKeys_ofPlain? (text : Option PlainStr) :
    (ofPlain? text).Plain ∧ (ofPlain? text).sortKeys = ofPlain? text := by
  cases text with
  | none => exact ⟨trivial, rfl⟩
  | some text => exact ⟨text.plain, rfl⟩

theorem sortKeys_ofDict? (dict : Option JsonDict) :
    (ofDict? dict).Plain ∧ (ofDict? dict).sortKeys = ofDict? dict := by
  cases dict with
  | none => exact ⟨trivial, rfl⟩
  | some dict => exact plain_of_canonical dict.canonical

theorem sortKeys_ofInt? (value : Option Int) :
    (ofInt? value).Plain ∧ (ofInt? value).sortKeys = ofInt? value := by
  cases value <;> exact ⟨trivial, rfl⟩

/-- A record is plain when its keys are distinct literals and its values are plain. -/
theorem plain_record {fields : List (PyStr × JsonValue)} (keys : List String)
    (hkeys : fields.map (·.1) = keys.map py) (hnodup : (keys.map py).Nodup)
    (hvalues : ∀ value ∈ fields.map (·.2), Plain value) : Plain (obj fields) := by
  refine ⟨hkeys ▸ hnodup, fieldsPlain_iff.mpr fun field hfield => ⟨?_, ?_⟩⟩
  · have hkey : field.1 ∈ keys.map py := by
      rw [← hkeys]
      exact List.mem_map_of_mem hfield
    obtain ⟨key, -, heq⟩ := List.mem_map.mp hkey
    rw [← heq]
    exact plainText_py key
  · exact hvalues _ (List.mem_map_of_mem hfield)

/-- A field of a record whose keys are sorted. -/
theorem field?_of_plain {fields : List (PyStr × JsonValue)} (h : Plain (obj fields)) (key : PyStr)
    (value : JsonValue) (hfield : (obj fields).field? key = some value)
    (hvalue : value.sortKeys = value) : (obj fields).sortKeys.field? key = some value := by
  rw [field?_sortKeys h.1, hfield, Option.map_some, hvalue]

end JsonValue

end ImmichDoctor.Library
