import Mathlib.Data.List.Lex
import Mathlib.Data.Nat.Digits.Defs
/-!
# Text as code points

A `PyStr` is the sequence of code points of a Python `str`. Unlike `String` it can
hold the lone surrogates with which the file system API decodes names that are not
valid UTF-8; such text cannot be bound to a database column.
-/

namespace ImmichDoctor.Library

/-- A Python `str`. -/
abbrev PyStr := List Nat

/-- Texts are compared by their code points. -/
instance PyStr.lawfulBEq : LawfulBEq PyStr :=
  inferInstance

/-- The code points of a literal. -/
def py (text : String) : PyStr :=
  text.toList.map Char.toNat

namespace PyStr

/-- Whether a code point is a surrogate, which UTF-8 has no encoding for. -/
def isSurrogate (c : Nat) : Bool :=
  0xD800 ≤ c && c ≤ 0xDFFF

/-- Whether the text has a UTF-8 encoding. -/
def encodable (text : PyStr) : Bool :=
  text.all fun c => !isSurrogate c

/-! ## Decimal numbers -/

/-- `str(n)`. -/
def decimal (n : Nat) : PyStr :=
  (Nat.toDigits 10 n).map Char.toNat

theorem toNat_injective : Function.Injective Char.toNat :=
  fun _ _ h => Char.toNat_inj.mp h

theorem decimal_injective : Function.Injective decimal := by
  intro m n h
  have hdigits : Nat.toDigits 10 m = Nat.toDigits 10 n :=
    List.map_injective_iff.mpr toNat_injective h
  rw [← Nat.ofDigitChars_toDigits (b := 10) (n := m) (by omega) (by omega), hdigits,
    Nat.ofDigitChars_toDigits (by omega) (by omega)]

/-- `f'{n:0{width}d}'`. -/
def zeroPad (width n : Nat) : PyStr :=
  (List.replicate (width - (Nat.toDigits 10 n).length) '0' ++ Nat.toDigits 10 n).map Char.toNat

theorem zeroPad_injective (width : Nat) : Function.Injective (zeroPad width) := by
  intro m n h
  have hvalue : ∀ k, Nat.ofDigitChars 10
      (List.replicate (width - (Nat.toDigits 10 k).length) '0' ++ Nat.toDigits 10 k) 0 = k := by
    intro k
    rw [Nat.ofDigitChars_append, Nat.ofDigitChars_replicate_zero, Nat.mul_zero,
      Nat.ofDigitChars_ten_toDigits]
  have hchars := List.map_injective_iff.mpr toNat_injective h
  rw [← hvalue m, hchars, hvalue n]

/-- A padded number is made of digits. -/
theorem isDigit_of_mem_zeroPad {width n c : Nat} (hc : c ∈ zeroPad width n) :
    48 ≤ c ∧ c ≤ 57 := by
  obtain ⟨char, hchar, rfl⟩ := List.mem_map.mp hc
  have hdigit : char.isDigit = true := by
    rcases List.mem_append.mp hchar with hzero | hdigits
    · rw [(List.mem_replicate.mp hzero).2]
      rfl
    · exact Nat.isDigit_of_mem_toDigits (by omega) (by omega) hdigits
  have hbounds := Char.isDigit_iff_toNat.mp hdigit
  exact hbounds

/-! ## White space -/

/-- `str.isspace` of a single code point. -/
def isSpace (c : Nat) : Bool :=
  (9 ≤ c && c ≤ 13) || (28 ≤ c && c ≤ 32) || c == 0x85 || c == 0xA0 || c == 0x1680 ||
    (0x2000 ≤ c && c ≤ 0x200A) || c == 0x2028 || c == 0x2029 || c == 0x202F || c == 0x205F ||
    c == 0x3000

/-- Whether `text.strip()` is empty. -/
def blank (text : PyStr) : Bool :=
  text.all isSpace

/-! ## Separators -/

/-- A text is cut at the last occurrence of a code point in one way only. -/
theorem append_cons_inj {c : Nat} {a b x y : PyStr} (hx : c ∉ x) (hy : c ∉ y)
    (h : a ++ c :: x = b ++ c :: y) : a = b ∧ x = y := by
  induction a generalizing b with
  | nil =>
      cases b with
      | nil => exact ⟨rfl, (List.cons.inj h).2⟩
      | cons d b =>
          have htail : x = b ++ c :: y := (List.cons.inj h).2
          exact absurd (htail ▸ List.mem_append_right b List.mem_cons_self) hx
  | cons d a ih =>
      cases b with
      | nil =>
          have htail : a ++ c :: x = y := (List.cons.inj h).2
          exact absurd (htail ▸ List.mem_append_right a List.mem_cons_self) hy
      | cons e b =>
          obtain ⟨hhead, htail⟩ := List.cons.inj h
          obtain ⟨hab, hxy⟩ := ih htail
          exact ⟨by rw [hhead, hab], hxy⟩

/-- A text is cut in one way only where a property of its code points ends. -/
theorem append_inj_of_forall {p : Nat → Prop} {a b x y : PyStr} (ha : ∀ c ∈ a, p c)
    (hb : ∀ c ∈ b, p c) (hx : ∀ c ∈ x.head?, ¬ p c) (hy : ∀ c ∈ y.head?, ¬ p c)
    (h : a ++ x = b ++ y) : a = b ∧ x = y := by
  induction a generalizing b with
  | nil =>
      cases b with
      | nil => exact ⟨rfl, h⟩
      | cons d b =>
          have hhead : x.head? = some d := by
            rw [show x = d :: b ++ y from h]
            rfl
          exact absurd (hb d List.mem_cons_self) (hx d hhead)
  | cons d a ih =>
      cases b with
      | nil =>
          have hhead : y.head? = some d := by
            rw [← show d :: a ++ x = y from h]
            rfl
          exact absurd (ha d List.mem_cons_self) (hy d hhead)
      | cons e b =>
          obtain ⟨hhead, htail⟩ := List.cons.inj h
          obtain ⟨hab, hxy⟩ := ih (fun c hc => ha c (List.mem_cons_of_mem d hc))
            (fun c hc => hb c (List.mem_cons_of_mem e hc)) htail
          exact ⟨by rw [hhead, hab], hxy⟩

/-- A code point is a digit. -/
def IsDigit (c : Nat) : Prop :=
  48 ≤ c ∧ c ≤ 57

instance (c : Nat) : Decidable (IsDigit c) :=
  inferInstanceAs (Decidable (48 ≤ c ∧ c ≤ 57))

theorem isDigit_of_mem_decimal {n c : Nat} (hc : c ∈ decimal n) : IsDigit c := by
  obtain ⟨char, hchar, rfl⟩ := List.mem_map.mp hc
  exact Char.isDigit_iff_toNat.mp (Nat.isDigit_of_mem_toDigits (by omega) (by omega) hchar)

theorem decimal_ne_nil (n : Nat) : decimal n ≠ [] :=
  fun h => Nat.toDigits_ne_nil (List.map_eq_nil_iff.mp h)

end PyStr

end ImmichDoctor.Library
