import ImmichDoctor.Library.Text
/-!
# Digits of other scripts

`str.isdigit` and `int` of a text of digits, with the digits of Unicode 15. Decimal digits of
every script have a value; superscripts and enclosed numbers are digits that `int` rejects.
-/

namespace ImmichDoctor.Library.PyStr

/-- The zeros of the scripts, each followed by the digits from one to nine. -/
def decimalZeros : List Nat :=
  [48, 1632, 1776, 1984, 2406, 2534, 2662, 2790, 2918, 3046, 3174, 3302, 3430, 3558, 3664, 3792,
    3872, 4160, 4240, 6112, 6160, 6470, 6608, 6784, 6800, 6992, 7088, 7232, 7248, 42528, 43216,
    43264, 43472, 43504, 43600, 44016, 65296, 66720, 68912, 69734, 69872, 69942, 70096, 70384,
    70736, 70864, 71248, 71360, 71472, 71904, 72016, 72784, 73040, 73120, 73552, 92768, 92864,
    93008, 120782, 120792, 120802, 120812, 120822, 123200, 123632, 124144, 125264, 130032]

/-- The first and the last of the digits in a row that are not decimal. -/
def otherDigits : List (Nat × Nat) :=
  [(178, 179), (185, 185), (4969, 4977), (6618, 6618), (8304, 8304), (8308, 8313), (8320, 8329),
    (9312, 9320), (9332, 9340), (9352, 9360), (9450, 9450), (9461, 9469), (9471, 9471),
    (10102, 10110), (10112, 10120), (10122, 10130), (68160, 68163), (69216, 69224),
    (69714, 69722), (127232, 127242)]

/-- `unicodedata.decimal`. -/
def decimalValue (c : Nat) : Option Nat :=
  (decimalZeros.find? fun start => start ≤ c && c < start + 10).map fun start => c - start

/-- `str.isdigit` of a single code point. -/
def isDigitChar (c : Nat) : Bool :=
  (decimalValue c).isSome || otherDigits.any fun range => range.1 ≤ c && c ≤ range.2

/-- `text.isdigit()`. -/
def isdigit (text : PyStr) : Bool :=
  !text.isEmpty && text.all isDigitChar

/-- The default of `sys.get_int_max_str_digits()`. -/
def intMaxStrDigits : Nat := 4300

/-- The number with the given digits. -/
def numberOf (digits : List Nat) : Nat :=
  digits.foldl (fun number digit => 10 * number + digit) 0

/-- `int(text)` of a text of digits; `none` for a `ValueError`. -/
def int? (text : PyStr) : Option Nat :=
  if intMaxStrDigits < text.length then none
  else (text.mapM decimalValue).map numberOf

/-! ## Digits of ASCII -/

theorem decimalValue_of_isDigit {c : Nat} (h : IsDigit c) : decimalValue c = some (c - 48) := by
  unfold decimalValue decimalZeros
  rw [List.find?_cons_of_pos]
  · rfl
  · obtain ⟨hlow, hhigh⟩ := h
    simp only [Bool.and_eq_true, decide_eq_true_eq]
    omega

theorem isDigitChar_of_isDigit {c : Nat} (h : IsDigit c) : isDigitChar c = true := by
  unfold isDigitChar
  rw [decimalValue_of_isDigit h]
  rfl

theorem isdigit_of_isDigit {text : PyStr} (hne : text ≠ []) (h : ∀ c ∈ text, IsDigit c) :
    isdigit text = true := by
  unfold isdigit
  rw [Bool.and_eq_true, List.all_eq_true]
  exact ⟨by simpa using hne, fun c hc => isDigitChar_of_isDigit (h c hc)⟩

theorem mapM_decimalValue {text : PyStr} (h : ∀ c ∈ text, IsDigit c) :
    text.mapM decimalValue = some (text.map (· - 48)) := by
  induction text with
  | nil => rfl
  | cons c text ih =>
      rw [List.mapM_cons, decimalValue_of_isDigit (h c List.mem_cons_self),
        ih fun d hd => h d (List.mem_cons_of_mem c hd)]
      rfl

theorem int?_of_isDigit {text : PyStr} (hlength : text.length ≤ intMaxStrDigits)
    (h : ∀ c ∈ text, IsDigit c) : int? text = some (numberOf (text.map (· - 48))) := by
  unfold int?
  rw [if_neg (by omega), mapM_decimalValue h]
  rfl

theorem decimal_of_lt {n : Nat} (h : n < 10) : decimal n = [48 + n] := by
  unfold decimal
  rw [Nat.toDigits_of_lt_base h, List.map_cons, List.map_nil, Nat.toNat_digitChar_of_lt_ten h]

theorem decimal_of_le {n : Nat} (h : 10 ≤ n) : decimal n = decimal (n / 10) ++ [48 + n % 10] := by
  unfold decimal
  rw [Nat.toDigits_of_base_le (by omega) h, List.map_append, List.map_cons, List.map_nil,
    Nat.toNat_digitChar_of_lt_ten (Nat.mod_lt n (by omega))]

/-- The digits of a number give the number back. -/
theorem numberOf_decimal (n : Nat) : numberOf ((decimal n).map (· - 48)) = n := by
  induction n using Nat.strongRecOn with
  | ind n ih =>
      by_cases h : n < 10
      · rw [decimal_of_lt h]
        simp [numberOf]
      · have hsmaller := ih (n / 10) (by omega)
        rw [decimal_of_le (by omega), List.map_append, numberOf, List.foldl_append]
        rw [numberOf] at hsmaller
        rw [hsmaller, List.map_cons, List.map_nil, List.foldl_cons, List.foldl_nil]
        omega

/-- Only zero is written with a zero in front. -/
theorem head_decimal_ne {n : Nat} (hn : 0 < n) : (decimal n).head? ≠ some 48 := by
  induction n using Nat.strongRecOn with
  | ind n ih =>
      by_cases h : n < 10
      · rw [decimal_of_lt h, List.head?_cons, ne_eq, Option.some.injEq]
        omega
      · obtain ⟨c, tail, hcons⟩ := List.exists_cons_of_ne_nil (decimal_ne_nil (n / 10))
        have hsmaller := ih (n / 10) (by omega) (by omega)
        rw [hcons] at hsmaller
        rw [decimal_of_le (by omega), hcons]
        exact hsmaller

theorem length_decimal_le {width n : Nat} (hwidth : 0 < width) (h : n < 10 ^ width) :
    (decimal n).length ≤ width := by
  induction width, hwidth using Nat.le_induction generalizing n with
  | base => rw [decimal_of_lt (by omega), List.length_singleton]
  | succ width hwidth ih =>
      by_cases hn : n < 10
      · rw [decimal_of_lt hn, List.length_singleton]
        omega
      · have hrest := @ih (n / 10) (by rw [pow_succ] at h; omega)
        rw [decimal_of_le (by omega), List.length_append, List.length_singleton]
        omega

end ImmichDoctor.Library.PyStr
