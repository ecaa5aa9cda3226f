import ImmichDoctor.Library.JsonText
import ImmichDoctor.Library.PathText
/-!
# Texts of bytes

`bytes.hex()` and `repr` of a `bytes` object, and `str.lower` as far as ASCII goes. A `repr`
has a quote as its second code point, so it is never a text of hexadecimal digits.
-/

namespace ImmichDoctor.Library

open Json

/-- `value.hex()`. -/
def hexBytes (value : List UInt8) : PyStr :=
  value.flatMap fun byte => [hexDigit (byte.toNat / 16), hexDigit (byte.toNat % 16)]

def reprByte (quote : Nat) (byte : UInt8) : PyStr :=
  let c := byte.toNat
  if c = quote ∨ c = 92 then [92, c]
  else if c = 9 then [92, 116]
  else if c = 10 then [92, 110]
  else if c = 13 then [92, 114]
  else if 32 ≤ c ∧ c < 127 then [c]
  else [92, 120, hexDigit (c / 16), hexDigit (c % 16)]

/-- `repr(value)`; single quotes, unless the bytes have these and no double ones. -/
def reprBytes (value : List UInt8) : PyStr :=
  let quote := if value.contains 39 && !value.contains 34 then 34 else 39
  98 :: quote :: value.flatMap (reprByte quote) ++ [quote]

/-- A lower case hexadecimal digit. -/
def IsHexDigit (c : Nat) : Prop :=
  48 ≤ c ∧ c ≤ 57 ∨ 97 ≤ c ∧ c ≤ 102

/-- What `str.lower` does to a code point of ASCII. -/
def lowerAscii (c : Nat) : Nat :=
  if 65 ≤ c ∧ c ≤ 90 then c + 32 else c

/-- The function is `str.lower` on ASCII texts. -/
def LowersAscii (lower : PyStr → PyStr) : Prop :=
  ∀ text, (∀ c ∈ text, c < 128) → lower text = text.map lowerAscii

section Hex

variable {value : List UInt8} {lower : PyStr → PyStr}

theorem isHexDigit_hexDigit {d : Nat} (hd : d < 16) : IsHexDigit (hexDigit d) := by
  unfold hexDigit IsHexDigit
  split <;> omega

theorem isHexDigit_of_mem_hexBytes {c : Nat} (hc : c ∈ hexBytes value) : IsHexDigit c := by
  obtain ⟨byte, -, hmem⟩ := List.mem_flatMap.mp hc
  have hbyte := byte.toNat_lt
  simp only [List.mem_cons, List.not_mem_nil, or_false] at hmem
  rcases hmem with rfl | rfl
  · exact isHexDigit_hexDigit (by omega)
  · exact isHexDigit_hexDigit (by omega)

theorem length_hexBytes (value : List UInt8) : (hexBytes value).length = 2 * value.length := by
  induction value with
  | nil => rfl
  | cons byte value ih =>
      rw [hexBytes, List.flatMap_cons, ← hexBytes, List.length_append, ih, List.length_cons]
      simp only [List.length_cons, List.length_nil]
      omega

/-- Hexadecimal digits have no upper case letters. -/
theorem lower_hexBytes (hlower : LowersAscii lower) : lower (hexBytes value) = hexBytes value := by
  have hdigit : ∀ c ∈ hexBytes value, IsHexDigit c := fun c hc => isHexDigit_of_mem_hexBytes hc
  rw [hlower]
  · rw [List.map_congr_left fun c hc => ?_, List.map_id']
    have hc := hdigit c hc
    unfold IsHexDigit at hc
    rw [lowerAscii, if_neg (by omega)]
  · intro c hc
    have hc := hdigit c hc
    unfold IsHexDigit at hc
    omega

end Hex

section Repr

variable {value : List UInt8} {lower : PyStr → PyStr}

theorem reprByte_ascii {quote c : Nat} {byte : UInt8} (hquote : quote < 128)
    (hc : c ∈ reprByte quote byte) : c < 128 := by
  have hbyte := byte.toNat_lt
  have hdigit : ∀ d < 16, hexDigit d < 128 := fun d hd =>
    (hexDigit_ascii hd).2.trans_lt (by omega)
  have hhigh := hdigit (byte.toNat / 16) (by omega)
  have hlow := hdigit (byte.toNat % 16) (by omega)
  simp only [reprByte] at hc
  split_ifs at hc with hescaped ht hn hr hprintable
  all_goals simp only [List.mem_cons, List.not_mem_nil, or_false] at hc
  all_goals omega

/-- A `repr` begins with the letter and a quote, and ends with the quote. -/
theorem reprBytes_eq (value : List UInt8) : ∃ quote body, (quote = 34 ∨ quote = 39) ∧
    (∀ c ∈ body, c < 128) ∧ reprBytes value = 98 :: quote :: body ++ [quote] := by
  have hquote : ∀ double : Bool, (if double then 34 else 39) = 34 ∨
      (if double then 34 else 39) = 39 := by
    intro double
    cases double
    · exact Or.inr rfl
    · exact Or.inl rfl
  refine ⟨_, _, hquote (value.contains 39 && !value.contains 34), ?_, rfl⟩
  intro c hc
  obtain ⟨byte, -, hmem⟩ := List.mem_flatMap.mp hc
  refine reprByte_ascii ?_ hmem
  rcases hquote (value.contains 39 && !value.contains 34) with h | h
  · omega
  · omega

theorem strip_reprBytes (value : List UInt8) : (reprBytes value).strip = reprBytes value := by
  obtain ⟨quote, body, hquote, -, heq⟩ := reprBytes_eq value
  rw [heq, PyStr.strip_eq_self_iff]
  constructor
  · intro c hc
    cases hc
    rfl
  · intro c hc
    rw [List.getLast?_concat] at hc
    cases hc
    rcases hquote with rfl | rfl
    · rfl
    · rfl

/-- A `repr` keeps its letter and its quote in lower case. -/
theorem lower_reprBytes (hlower : LowersAscii lower) (value : List UInt8) :
    ∃ quote rest, ¬ IsHexDigit quote ∧ lower (reprBytes value) = 98 :: quote :: rest := by
  obtain ⟨quote, body, hquote, hbody, heq⟩ := reprBytes_eq value
  have hascii : ∀ c ∈ reprBytes value, c < 128 := by
    intro c hc
    rw [heq] at hc
    simp only [List.cons_append, List.mem_cons, List.mem_append, List.not_mem_nil, or_false] at hc
    rcases hc with rfl | rfl | hc | rfl
    · omega
    · omega
    · exact hbody c hc
    · omega
  have hkept : lowerAscii quote = quote := by
    rw [lowerAscii, if_neg (by omega)]
  refine ⟨quote, (body ++ [quote]).map lowerAscii, ?_, ?_⟩
  · unfold IsHexDigit
    omega
  · rw [hlower _ hascii, heq, List.cons_append, List.cons_append, List.map_cons, List.map_cons,
      hkept]
    rfl

end Repr

end ImmichDoctor.Library
