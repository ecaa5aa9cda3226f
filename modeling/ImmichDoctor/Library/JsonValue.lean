import ImmichDoctor.Library.JsonText
import Mathlib.Data.List.Sort
/-!
# JSON values

`json.dumps(value, sort_keys=True, separators=(",", ":"))` of the values that have no
floats in them. What is written determines the value when no string in it has a high
surrogate, which the keys of an object and texts of a database never have.
-/

namespace ImmichDoctor.Library

inductive JsonValue
  | null
  | bool (value : Bool)
  | int (value : Int)
  | str (text : PyStr)
  | list (items : List JsonValue)
  | obj (fields : List (PyStr × JsonValue))

namespace JsonValue

/-! ## Writing -/

/-- `str(n)` of an integer. -/
def writeInt : Int → PyStr
  | .ofNat n => PyStr.decimal n
  | .negSucc n => 45 :: PyStr.decimal (n + 1)

mutual

/-- The text of a value whose fields are written in the order they have. -/
def write : JsonValue → PyStr
  | null => py "null"
  | bool true => py "true"
  | bool false => py "false"
  | int value => writeInt value
  | str text => Json.dumpsString text
  | list [] => [91, 93]
  | list (item :: items) => 91 :: write item ++ writeItems items
  | obj [] => [123, 125]
  | obj (field :: fields) =>
      123 :: Json.dumpsString field.1 ++ 58 :: write field.2 ++ writeFields fields

/-- The items after the first one, up to the end of the array. -/
def writeItems : List JsonValue → PyStr
  | [] => [93]
  | item :: items => 44 :: write item ++ writeItems items

def writeFields : List (PyStr × JsonValue) → PyStr
  | [] => [125]
  | field :: fields => 44 :: Json.dumpsString field.1 ++ 58 :: write field.2 ++ writeFields fields

end

mutual

/-- `sort_keys=True`. -/
def sortKeys : JsonValue → JsonValue
  | null => null
  | bool value => bool value
  | int value => int value
  | str text => str text
  | list items => list (sortItems items)
  | obj fields => obj ((sortFields fields).insertionSort fun a b => a.1 ≤ b.1)

def sortItems : List JsonValue → List JsonValue
  | [] => []
  | item :: items => sortKeys item :: sortItems items

def sortFields : List (PyStr × JsonValue) → List (PyStr × JsonValue)
  | [] => []
  | field :: fields => (field.1, sortKeys field.2) :: sortFields fields

end

def dumps (value : JsonValue) : PyStr :=
  write (sortKeys value)

example : dumps (obj [(py "b", list [int (-12), null]), (py "a", str (py "x"))]) =
    py "\x7b\"a\":\"x\",\"b\":[-12,null]\x7d" := by
  decide

/-! ## What is written determines the value -/

mutual

/-- No string of the value has a high surrogate. -/
def Readable : JsonValue → Prop
  | str text => Json.Readable text
  | list items => ItemsReadable items
  | obj fields => FieldsReadable fields
  | _ => True

def ItemsReadable : List JsonValue → Prop
  | [] => True
  | item :: items => Readable item ∧ ItemsReadable items

def FieldsReadable : List (PyStr × JsonValue) → Prop
  | [] => True
  | field :: fields => Json.Readable field.1 ∧ Readable field.2 ∧ FieldsReadable fields

end

/-- What the first code point of a text can be the start of. -/
def kindOfHead (c : Nat) : Nat :=
  if 48 ≤ c ∧ c ≤ 57 then 45 else c

def kind : JsonValue → Nat
  | null => 110
  | bool true => 116
  | bool false => 102
  | int _ => 45
  | str _ => 34
  | list _ => 91
  | obj _ => 123

theorem head_writeInt (value : Int) :
    ∃ c tail, writeInt value = c :: tail ∧ kindOfHead c = 45 := by
  cases value with
  | ofNat n =>
      obtain ⟨c, tail, hcons⟩ := List.exists_cons_of_ne_nil (PyStr.decimal_ne_nil n)
      have hdigit : PyStr.IsDigit c := PyStr.isDigit_of_mem_decimal (hcons ▸ List.mem_cons_self)
      exact ⟨c, tail, hcons, if_pos hdigit⟩
  | negSucc n => exact ⟨45, _, rfl, rfl⟩

theorem head_write (value : JsonValue) :
    ∃ c tail, write value = c :: tail ∧ kindOfHead c = kind value := by
  cases value with
  | null => exact ⟨110, _, rfl, rfl⟩
  | bool value => cases value <;> exact ⟨_, _, rfl, rfl⟩
  | int value => exact head_writeInt value
  | str text => exact ⟨34, _, rfl, rfl⟩
  | list items => cases items <;> exact ⟨91, _, rfl, rfl⟩
  | obj fields => cases fields <;> exact ⟨123, _, rfl, rfl⟩

theorem kind_eq_of_write_append {v v' : JsonValue} {rest rest' : PyStr}
    (h : write v ++ rest = write v' ++ rest') : kind v = kind v' := by
  obtain ⟨c, tail, hwrite, hkind⟩ := head_write v
  obtain ⟨c', tail', hwrite', hkind'⟩ := head_write v'
  rw [hwrite, hwrite'] at h
  rw [← hkind, ← hkind', (List.cons.inj h).1]

/-- A value does not start as an array or an object ends. -/
theorem write_append_ne {v : JsonValue} {rest rest' : PyStr} {c : Nat} (hc : c = 93 ∨ c = 125) :
    write v ++ rest ≠ c :: rest' := by
  intro h
  obtain ⟨head, tail, hwrite, hkind⟩ := head_write v
  rw [hwrite] at h
  rw [(List.cons.inj h).1] at hkind
  rcases hc with rfl | rfl
  all_goals
    cases v with
    | bool value => cases value <;> cases hkind
    | _ => cases hkind

/-- The text that follows a value in a larger text does not start with a digit. -/
def Delimited (rest : PyStr) : Prop :=
  ∀ c ∈ rest.head?, ¬ PyStr.IsDigit c

theorem delimited_nil : Delimited [] := nofun

theorem delimited_cons {c : Nat} {rest : PyStr} (hc : ¬ PyStr.IsDigit c) :
    Delimited (c :: rest) := by
  intro d hd
  rw [← Option.some.inj hd]
  exact hc

theorem delimited_writeItems (items : List JsonValue) (rest : PyStr) :
    Delimited (writeItems items ++ rest) := by
  cases items with
  | nil => exact delimited_cons (by decide)
  | cons item items => exact delimited_cons (by decide)

theorem delimited_writeFields (fields : List (PyStr × JsonValue)) (rest : PyStr) :
    Delimited (writeFields fields ++ rest) := by
  cases fields with
  | nil => exact delimited_cons (by decide)
  | cons field fields => exact delimited_cons (by decide)

theorem writeInt_append_injective {a b : Int} {rest rest' : PyStr} (hrest : Delimited rest)
    (hrest' : Delimited rest') (h : writeInt a ++ rest = writeInt b ++ rest') :
    a = b ∧ rest = rest' := by
  have hdecimal : ∀ {m n : Nat} {x y : PyStr}, Delimited x → Delimited y →
      PyStr.decimal m ++ x = PyStr.decimal n ++ y → m = n ∧ x = y := by
    intro m n x y hx hy heq
    obtain ⟨hdigits, htail⟩ := PyStr.append_inj_of_forall
      (fun c hc => PyStr.isDigit_of_mem_decimal hc) (fun c hc => PyStr.isDigit_of_mem_decimal hc)
      hx hy heq
    exact ⟨PyStr.decimal_injective hdigits, htail⟩
  have hsign : ∀ {m n : Nat} {x y : PyStr}, PyStr.decimal m ++ x ≠ 45 :: PyStr.decimal n ++ y := by
    intro m n x y heq
    obtain ⟨c, tail, hcons⟩ := List.exists_cons_of_ne_nil (PyStr.decimal_ne_nil m)
    have hdigit : PyStr.IsDigit c := PyStr.isDigit_of_mem_decimal (hcons ▸ List.mem_cons_self)
    rw [hcons] at heq
    rw [(List.cons.inj heq).1] at hdigit
    exact absurd hdigit (by decide)
  cases a with
  | ofNat m =>
      cases b with
      | ofNat n =>
          obtain ⟨rfl, htail⟩ := hdecimal hrest hrest' h
          exact ⟨rfl, htail⟩
      | negSucc n => exact absurd h hsign
  | negSucc m =>
      cases b with
      | ofNat n => exact absurd h.symm hsign
      | negSucc n =>
          obtain ⟨hsame, htail⟩ := hdecimal hrest hrest' (List.cons.inj h).2
          exact ⟨by rw [Nat.succ.inj hsame], htail⟩

/-- A written string and the colon behind it. -/
theorem key_append_injective {a b rest rest' : PyStr} (ha : Json.Readable a)
    (hb : Json.Readable b)
    (h : Json.dumpsString a ++ 58 :: rest = Json.dumpsString b ++ 58 :: rest') :
    a = b ∧ rest = rest' := by
  obtain ⟨hkey, htail⟩ := Json.dumpsString_append_injective ha hb h
  exact ⟨hkey, (List.cons.inj htail).2⟩

mutual

/-- A written value ends at one place only. -/
theorem write_append_injective : ∀ (v v' : JsonValue) {rest rest' : PyStr}, Readable v →
    Readable v' → Delimited rest → Delimited rest' → write v ++ rest = write v' ++ rest' →
    v = v' ∧ rest = rest'
  | .null, v', rest, rest', _, _, _, _, h => by
      have hkind := kind_eq_of_write_append h
      cases v' with
      | null => exact ⟨rfl, List.append_cancel_left h⟩
      | bool value => cases value <;> cases hkind
      | _ => cases hkind
  | .bool value, v', rest, rest', _, _, _, _, h => by
      have hkind := kind_eq_of_write_append h
      cases v' with
      | bool value' =>
          cases value <;> cases value'
          · exact ⟨rfl, List.append_cancel_left h⟩
          · cases hkind
          · cases hkind
          · exact ⟨rfl, List.append_cancel_left h⟩
      | _ => cases value <;> cases hkind
  | .int value, v', rest, rest', _, _, hrest, hrest', h => by
      have hkind := kind_eq_of_write_append h
      cases v' with
      | int value' =>
          obtain ⟨rfl, htail⟩ := writeInt_append_injective hrest hrest' h
          exact ⟨rfl, htail⟩
      | bool value => cases value <;> cases hkind
      | _ => cases hkind
  | .str text, v', rest, rest', hv, hv', _, _, h => by
      have hkind := kind_eq_of_write_append h
      cases v' with
      | str text' =>
          obtain ⟨rfl, htail⟩ := Json.dumpsString_append_injective hv hv' h
          exact ⟨rfl, htail⟩
      | bool value => cases value <;> cases hkind
      | _ => cases hkind
  | .list [], v', rest, rest', _, _, _, _, h => by
      have hkind := kind_eq_of_write_append h
      cases v' with
      | list items' =>
          cases items' with
          | nil => exact ⟨rfl, List.append_cancel_left h⟩
          | cons item' items' =>
              simp only [write, List.cons_append, List.append_assoc, List.nil_append,
                List.cons.injEq, true_and] at h
              exact absurd h.symm (write_append_ne (Or.inl rfl))
      | bool value => cases value <;> cases hkind
      | _ => cases hkind
  | .list (item :: items), v', rest, rest', hv, hv', hrest, hrest', h => by
      have hkind := kind_eq_of_write_append h
      cases v' with
      | list items' =>
          cases items' with
          | nil =>
              simp only [write, List.cons_append, List.append_assoc, List.nil_append,
                List.cons.injEq, true_and] at h
              exact absurd h (write_append_ne (Or.inl rfl))
          | cons item' items' =>
              simp only [write, List.cons_append, List.append_assoc, List.cons.injEq, true_and] at h
              obtain ⟨rfl, hitems⟩ := write_append_injective item item' hv.1 hv'.1
                (delimited_writeItems items rest) (delimited_writeItems items' rest') h
              obtain ⟨rfl, htail⟩ := writeItems_append_injective items items' hv.2 hv'.2 hitems
              exact ⟨rfl, htail⟩
      | bool value => cases value <;> cases hkind
      | _ => cases hkind
  | .obj [], v', rest, rest', _, _, _, _, h => by
      have hkind := kind_eq_of_write_append h
      cases v' with
      | obj fields' =>
          cases fields' with
          | nil => exact ⟨rfl, List.append_cancel_left h⟩
          | cons field' fields' =>
              have hquote : (125 : Nat) = 34 := (List.cons.inj (List.cons.inj h).2).1
              cases hquote
      | bool value => cases value <;> cases hkind
      | _ => cases hkind
  | .obj ((key, value) :: fields), v', rest, rest', hv, hv', hrest, hrest', h => by
      have hkind := kind_eq_of_write_append h
      cases v' with
      | obj fields' =>
          cases fields' with
          | nil =>
              have hquote : (34 : Nat) = 125 := (List.cons.inj (List.cons.inj h).2).1
              cases hquote
          | cons field' fields' =>
              obtain ⟨key', value'⟩ := field'
              simp only [write, List.cons_append, List.append_assoc, List.cons.injEq, true_and] at h
              obtain ⟨rfl, hvalue⟩ := key_append_injective hv.1 hv'.1 h
              obtain ⟨rfl, hfields⟩ := write_append_injective value value' hv.2.1 hv'.2.1
                (delimited_writeFields fields rest) (delimited_writeFields fields' rest') hvalue
              obtain ⟨rfl, htail⟩ :=
                writeFields_append_injective fields fields' hv.2.2 hv'.2.2 hfields
              exact ⟨rfl, htail⟩
      | bool value => cases value <;> cases hkind
      | _ => cases hkind

theorem writeItems_append_injective : ∀ (items items' : List JsonValue) {rest rest' : PyStr},
    ItemsReadable items → ItemsReadable items' →
    writeItems items ++ rest = writeItems items' ++ rest' → items = items' ∧ rest = rest'
  | [], [], _, _, _, _, h => ⟨rfl, (List.cons.inj h).2⟩
  | [], _ :: _, _, _, _, _, h => nomatch (List.cons.inj h).1
  | _ :: _, [], _, _, _, _, h => nomatch (List.cons.inj h).1
  | item :: items, item' :: items', rest, rest', hv, hv', h => by
      simp only [writeItems, List.cons_append, List.append_assoc, List.cons.injEq, true_and] at h
      obtain ⟨rfl, hitems⟩ := write_append_injective item item' hv.1 hv'.1
        (delimited_writeItems items rest) (delimited_writeItems items' rest') h
      obtain ⟨rfl, htail⟩ := writeItems_append_injective items items' hv.2 hv'.2 hitems
      exact ⟨rfl, htail⟩

theorem writeFields_append_injective : ∀ (fields fields' : List (PyStr × JsonValue))
    {rest rest' : PyStr}, FieldsReadable fields → FieldsReadable fields' →
    writeFields fields ++ rest = writeFields fields' ++ rest' → fields = fields' ∧ rest = rest'
  | [], [], _, _, _, _, h => ⟨rfl, (List.cons.inj h).2⟩
  | [], _ :: _, _, _, _, _, h => nomatch (List.cons.inj h).1
  | _ :: _, [], _, _, _, _, h => nomatch (List.cons.inj h).1
  | (key, value) :: fields, (key', value') :: fields', rest, rest', hv, hv', h => by
      simp only [writeFields, List.cons_append, List.append_assoc, List.cons.injEq, true_and] at h
      obtain ⟨rfl, hvalue⟩ := key_append_injective hv.1 hv'.1 h
      obtain ⟨rfl, hfields⟩ := write_append_injective value value' hv.2.1 hv'.2.1
        (delimited_writeFields fields rest) (delimited_writeFields fields' rest') hvalue
      obtain ⟨rfl, htail⟩ := writeFields_append_injective fields fields' hv.2.2 hv'.2.2 hfields
      exact ⟨rfl, htail⟩

end

theorem itemsReadable_iff {items : List JsonValue} :
    ItemsReadable items ↔ ∀ item ∈ items, Readable item := by
  induction items with
  | nil => exact iff_of_true trivial nofun
  | cons item items ih => rw [ItemsReadable, ih, List.forall_mem_cons]

theorem fieldsReadable_iff {fields : List (PyStr × JsonValue)} :
    FieldsReadable fields ↔ ∀ field ∈ fields, Json.Readable field.1 ∧ Readable field.2 := by
  induction fields with
  | nil => exact iff_of_true trivial nofun
  | cons field fields ih => rw [FieldsReadable, ih, List.forall_mem_cons, and_assoc]

mutual

theorem Readable.sortKeys : ∀ {v : JsonValue}, Readable v → Readable v.sortKeys
  | .null, h => h
  | .bool _, h => h
  | .int _, h => h
  | .str _, h => h
  | .list _, h => ItemsReadable.sortItems h
  | .obj fields, h => by
      rw [JsonValue.sortKeys, Readable, fieldsReadable_iff]
      intro field hfield
      have hmem := (List.perm_insertionSort (fun a b => a.1 ≤ b.1) (sortFields fields)).mem_iff.mp
        hfield
      exact fieldsReadable_iff.mp (FieldsReadable.sortFields h) field hmem

theorem ItemsReadable.sortItems : ∀ {items : List JsonValue}, ItemsReadable items →
    ItemsReadable (sortItems items)
  | [], h => h
  | _ :: _, h => ⟨h.1.sortKeys, ItemsReadable.sortItems h.2⟩

theorem FieldsReadable.sortFields : ∀ {fields : List (PyStr × JsonValue)},
    FieldsReadable fields → FieldsReadable (sortFields fields)
  | [], h => h
  | (_, _) :: _, h => ⟨h.1, h.2.1.sortKeys, FieldsReadable.sortFields h.2.2⟩

end

/-- Values with the same text are the same up to the order of their keys. -/
theorem dumps_injective {a b : JsonValue} (ha : Readable a) (hb : Readable b)
    (h : a.dumps = b.dumps) : a.sortKeys = b.sortKeys := by
  have happend : write a.sortKeys ++ [] = write b.sortKeys ++ [] := by
    rw [List.append_nil, List.append_nil]
    exact h
  exact (write_append_injective a.sortKeys b.sortKeys ha.sortKeys hb.sortKeys delimited_nil
    delimited_nil happend).1

theorem sortItems_eq_map (items : List JsonValue) : sortItems items = items.map sortKeys := by
  induction items with
  | nil => rfl
  | cons item items ih => rw [sortItems, ih, List.map_cons]

theorem sortFields_eq_map (fields : List (PyStr × JsonValue)) :
    sortFields fields = fields.map fun field => (field.1, sortKeys field.2) := by
  induction fields with
  | nil => rfl
  | cons field fields ih => rw [sortFields, ih, List.map_cons]

theorem keys_sortFields (fields : List (PyStr × JsonValue)) :
    (sortFields fields).map (·.1) = fields.map (·.1) := by
  rw [sortFields_eq_map, List.map_map]
  rfl

/-- Lists with the same distinct keys in the same places are equal when they have the same
fields. -/
theorem eq_of_perm_of_keys {fields fields' : List (PyStr × JsonValue)}
    (hkeys : fields.map (·.1) = fields'.map (·.1)) (hnodup : (fields.map (·.1)).Nodup)
    (h : fields.Perm fields') : fields = fields' := by
  have hlength : fields.length = fields'.length := h.length_eq
  apply List.ext_getElem hlength
  intro i hi hi'
  have hkey : fields[i].1 = fields'[i].1 := by
    have := congrArg (fun keys => keys[i]?) hkeys
    simpa [List.getElem?_map, List.getElem?_eq_getElem hi, List.getElem?_eq_getElem hi'] using this
  have hmem : fields'[i] ∈ fields := h.mem_iff.mpr (List.getElem_mem hi')
  exact List.inj_on_of_nodup_map hnodup (List.getElem_mem hi) hmem hkey

/-- Objects with the same distinct keys are the same up to the order of keys further down
when they are once their keys are sorted. -/
theorem sortFields_eq_of_sortKeys {fields fields' : List (PyStr × JsonValue)}
    (hkeys : fields.map (·.1) = fields'.map (·.1)) (hnodup : (fields.map (·.1)).Nodup)
    (h : (obj fields).sortKeys = (obj fields').sortKeys) :
    sortFields fields = sortFields fields' := by
  simp only [sortKeys, obj.injEq] at h
  have hperm : (sortFields fields).Perm (sortFields fields') :=
    ((List.perm_insertionSort (fun a b => a.1 ≤ b.1) (sortFields fields)).symm.trans
      (h ▸ List.Perm.refl _)).trans
        (List.perm_insertionSort (fun a b => a.1 ≤ b.1) (sortFields fields'))
  apply eq_of_perm_of_keys
  · rw [keys_sortFields, keys_sortFields, hkeys]
  · rw [keys_sortFields]
    exact hnodup
  · exact hperm

end JsonValue

end ImmichDoctor.Library
