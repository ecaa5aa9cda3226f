import ImmichDoctor.Library.DateTimes
import ImmichDoctor.Library.Digits
import ImmichDoctor.Library.JsonText
import Mathlib.Data.Nat.Find
/-!
# Texts of times with an offset

`isoformat` and `fromisoformat` of `datetime` values with an offset or without one, for the
texts that `isoformat` writes, and `astimezone(UTC)`.
-/

namespace ImmichDoctor.Library

/-! ## Numbers of a fixed width -/

namespace PyStr

/-- The number that the first digits of a text make, and what is behind them. -/
def readNumber (width : Nat) (text : PyStr) : Option (Nat × PyStr) :=
  let digits := text.take width
  if digits.length = width ∧ ∀ c ∈ digits, IsDigit c then
    some (numberOf (digits.map (· - 48)), text.drop width)
  else none

/-- What is behind a code point. -/
def readChar (c : Nat) : PyStr → Option PyStr
  | [] => none
  | d :: rest => if d = c then some rest else none

theorem numberOf_append (digits : List Nat) (digit : Nat) :
    numberOf (digits ++ [digit]) = 10 * numberOf digits + digit := by
  rw [numberOf, List.foldl_append]
  rfl

theorem numberOf_zeroPad {width n : Nat} (hwidth : 0 < width) (hn : n < 10 ^ width) :
    numberOf ((zeroPad width n).map (· - 48)) = n := by
  induction width, hwidth using Nat.le_induction generalizing n with
  | base =>
      rw [zeroPad_one (by omega)]
      simp [numberOf]
  | succ width hwidth ih =>
      rw [zeroPad_succ hwidth, List.map_append, List.map_singleton, numberOf_append,
        ih (by rw [pow_succ] at hn; omega)]
      omega

theorem readNumber_zeroPad {width n : Nat} (hwidth : 0 < width) (hn : n < 10 ^ width)
    (rest : PyStr) : readNumber width (zeroPad width n ++ rest) = some (n, rest) := by
  have hlength := length_zeroPad hwidth hn
  have htake : (zeroPad width n ++ rest).take width = zeroPad width n := by
    rw [List.take_append_of_le_length hlength.ge, List.take_of_length_le hlength.le]
  have hdrop : (zeroPad width n ++ rest).drop width = rest := by
    rw [List.drop_append_of_le_length hlength.ge, List.drop_of_length_le hlength.le,
      List.nil_append]
  have hdigits : ∀ c ∈ zeroPad width n, IsDigit c := fun c hc => isDigit_of_mem_zeroPad hc
  rw [readNumber, htake, hdrop, if_pos ⟨hlength, hdigits⟩, numberOf_zeroPad hwidth hn]

theorem readChar_cons (c : Nat) (rest : PyStr) : readChar c (c :: rest) = some rest :=
  if_pos rfl

end PyStr

/-! ## Times without an offset -/

namespace CivilTime

/-- `datetime(year, month, …)`; `none` for a `ValueError`. -/
def of? (year month day hour minute second microsecond : Nat) : Option CivilTime :=
  if h : (1 ≤ year ∧ year ≤ 9999) ∧ (1 ≤ month ∧ month ≤ 12) ∧
      (1 ≤ day ∧ day ≤ daysInMonth year month) ∧ hour < 24 ∧ minute < 60 ∧ second < 60 ∧
      microsecond < 1000000 then
    some ⟨year, month, day, hour, minute, second, microsecond, h.1, h.2.1, h.2.2.1, h.2.2.2.1,
      h.2.2.2.2.1, h.2.2.2.2.2.1, h.2.2.2.2.2.2⟩
  else none

theorem of?_fields (t : CivilTime) :
    of? t.year t.month t.day t.hour t.minute t.second t.microsecond = some t :=
  dif_pos ⟨t.year_bounds, t.month_bounds, t.day_bounds, t.hour_lt, t.minute_lt, t.second_lt,
    t.microsecond_lt⟩

/-- A fraction, if there is one. -/
def readFraction : PyStr → Option (Nat × PyStr)
  | 46 :: rest => PyStr.readNumber 6 rest
  | text => some (0, text)

theorem readFraction_fractionText {microsecond : Nat} (h : microsecond < 1000000) {rest : PyStr}
    (hrest : rest.head? ≠ some 46) :
    readFraction (fractionText microsecond ++ rest) = some (microsecond, rest) := by
  unfold fractionText
  by_cases hzero : microsecond = 0
  · rw [if_pos hzero, List.nil_append, hzero]
    unfold readFraction
    split
    · exact absurd rfl hrest
    · rfl
  · rw [if_neg hzero, List.cons_append]
    exact PyStr.readNumber_zeroPad (by omega) (by omega) rest

/-- The time at the front of a text, and what is behind it. -/
def read (text : PyStr) : Option (CivilTime × PyStr) := do
  let (year, text) ← PyStr.readNumber 4 text
  let text ← PyStr.readChar 45 text
  let (month, text) ← PyStr.readNumber 2 text
  let text ← PyStr.readChar 45 text
  let (day, text) ← PyStr.readNumber 2 text
  let text ← PyStr.readChar 84 text
  let (hour, text) ← PyStr.readNumber 2 text
  let text ← PyStr.readChar 58 text
  let (minute, text) ← PyStr.readNumber 2 text
  let text ← PyStr.readChar 58 text
  let (second, text) ← PyStr.readNumber 2 text
  let (microsecond, text) ← readFraction text
  let t ← of? year month day hour minute second microsecond
  return (t, text)

theorem read_isoformat (t : CivilTime) {offset : PyStr} (hoffset : offset.head? ≠ some 46) :
    read (t.isoformat offset) = some (t, offset) := by
  have hfield {n : Nat} (hn : n < 100) (rest : PyStr) :=
    @PyStr.readNumber_zeroPad 2 n (by omega) hn rest
  have hhour := t.hour_lt
  have hminute := t.minute_lt
  have hsecond := t.second_lt
  unfold read isoformat
  simp only [PyStr.readNumber_zeroPad (by omega) t.year_lt, PyStr.readChar_cons,
    hfield t.month_lt, hfield t.day_lt, hfield (show t.hour < 100 by omega),
    hfield (show t.minute < 100 by omega), hfield (show t.second < 100 by omega),
    readFraction_fractionText t.microsecond_lt hoffset, of?_fields, Option.bind_eq_bind,
    Option.bind_some, Option.pure_def]

end CivilTime

/-! ## Offsets -/

/-- The offset from UTC in microseconds, less than a day. -/
structure UtcOffset where
  micros : Int
  bounds : -86400000000 < micros ∧ micros < 86400000000
  deriving DecidableEq

namespace UtcOffset

def utc : UtcOffset := ⟨0, by decide⟩

/-- `_format_offset`. -/
def text (offset : UtcOffset) : PyStr :=
  let size := offset.micros.natAbs
  (if offset.micros < 0 then 45 else 43) :: (PyStr.zeroPad 2 (size / 3600000000) ++
    58 :: (PyStr.zeroPad 2 (size / 60000000 % 60) ++
      if size % 60000000 = 0 then []
      else 58 :: (PyStr.zeroPad 2 (size / 1000000 % 60) ++
        CivilTime.fractionText (size % 1000000))))

/-- `timezone(timedelta(…))`; `none` for a `ValueError`. -/
def of? (micros : Int) : Option UtcOffset :=
  if h : -86400000000 < micros ∧ micros < 86400000000 then some ⟨micros, h⟩ else none

/-- The seconds and the fraction at the end of an offset, in microseconds. -/
def readSeconds : PyStr → Option Nat
  | [] => some 0
  | c :: text => do
      let text ← PyStr.readChar 58 (c :: text)
      let (second, text) ← PyStr.readNumber 2 text
      let (microsecond, text) ← CivilTime.readFraction text
      if text = [] then some (second * 1000000 + microsecond) else none

/-- What is behind a time: nothing, or an offset. -/
def read : PyStr → Option (Option UtcOffset)
  | [] => some none
  | sign :: text => do
      let (hour, text) ← PyStr.readNumber 2 text
      let text ← PyStr.readChar 58 text
      let (minute, text) ← PyStr.readNumber 2 text
      let micros ← readSeconds text
      let size : Int := ((hour * 60 + minute) * 60000000 + micros : Nat)
      let offset ←
        if sign = 43 then of? size else if sign = 45 then of? (-size) else none
      return some offset

theorem of?_micros (offset : UtcOffset) : of? offset.micros = some offset :=
  dif_pos offset.bounds

theorem read_text (offset : UtcOffset) : read offset.text = some (some offset) := by
  have hsize : offset.micros.natAbs < 86400000000 := by
    have hbounds := offset.bounds
    omega
  have hfield {n : Nat} (hn : n < 100) (rest : PyStr) :=
    @PyStr.readNumber_zeroPad 2 n (by omega) hn rest
  have hsigned : (if offset.micros < 0 then -(offset.micros.natAbs : Int)
      else offset.micros.natAbs) = offset.micros := by
    split <;> omega
  unfold text
  generalize offset.micros.natAbs = size at hsize hsigned ⊢
  have hseconds : readSeconds (if size % 60000000 = 0 then []
      else 58 :: (PyStr.zeroPad 2 (size / 1000000 % 60) ++
        CivilTime.fractionText (size % 1000000))) = some (size % 60000000) := by
    split
    · next hzero => rw [readSeconds, hzero]
    · have hfraction :=
        @CivilTime.readFraction_fractionText (size % 1000000) (by omega) [] (by simp)
      rw [List.append_nil] at hfraction
      simp only [readSeconds, PyStr.readChar_cons, hfield (show size / 1000000 % 60 < 100 by omega),
        hfraction, Option.bind_eq_bind, Option.bind_some, if_true, Option.some.injEq]
      omega
  have htotal : (size / 3600000000 * 60 + size / 60000000 % 60) * 60000000 + size % 60000000 =
      size := by
    omega
  simp only [read, hfield (show size / 3600000000 < 100 by omega), PyStr.readChar_cons,
    hfield (show size / 60000000 % 60 < 100 by omega), hseconds, htotal, Option.bind_eq_bind,
    Option.bind_some]
  by_cases hsign : offset.micros < 0
  · rw [if_pos hsign] at hsigned ⊢
    rw [if_neg (by omega), if_pos rfl, hsigned, of?_micros]
    rfl
  · rw [if_neg hsign] at hsigned ⊢
    rw [if_pos rfl, hsigned, of?_micros]
    rfl

end UtcOffset

/-! ## Dates of ordinals -/

/-- The year of a day. -/
def yearOf (ordinal : Nat) : Nat :=
  Nat.findGreatest (fun year => daysBeforeYear year < ordinal) 9999

/-- The month of a day of a year. -/
def monthOf (year dayOfYear : Nat) : Nat :=
  Nat.findGreatest (fun month => daysBeforeMonth year month < dayOfYear) 12

namespace CivilTime

/-- The time at an instant; `none` outside the years 1 to 9999. -/
def ofInstant? (instant : Int) : Option CivilTime :=
  if instant < 0 then none
  else
    let micros := instant.toNat
    let ordinal := micros / 86400000000
    let dayOfYear := ordinal - daysBeforeYear (yearOf ordinal)
    let month := monthOf (yearOf ordinal) dayOfYear
    of? (yearOf ordinal) month (dayOfYear - daysBeforeMonth (yearOf ordinal) month)
      (micros / 3600000000 % 24) (micros / 60000000 % 60) (micros / 1000000 % 60)
      (micros % 1000000)

theorem yearOf_ordinal (t : CivilTime) : yearOf t.ordinal = t.year := by
  obtain ⟨hlow, hhigh⟩ := t.year_bounds
  obtain ⟨hday, hdays⟩ := t.day_bounds
  refine Nat.findGreatest_eq_iff.mpr ⟨hhigh, fun _ => ?_, fun later hlater _ => ?_⟩
  · unfold ordinal ymd2ord
    omega
  · have hyear := daysBeforeYear_mono hlow hlater
    have hmonth := @daysBeforeMonth_mono t.year t.month 13 t.month_bounds.1
      (by have := t.month_bounds.2; omega)
    unfold ordinal ymd2ord
    omega

theorem monthOf_ordinal (t : CivilTime) :
    monthOf t.year (daysBeforeMonth t.year t.month + t.day) = t.month := by
  obtain ⟨hlow, hhigh⟩ := t.month_bounds
  obtain ⟨hday, hdays⟩ := t.day_bounds
  refine Nat.findGreatest_eq_iff.mpr ⟨hhigh, fun _ => by omega, fun later hlater _ => ?_⟩
  have hmonth := @daysBeforeMonth_mono t.year t.month later hlow hlater
  omega

/-- Every time is the one at its instant. -/
theorem ofInstant?_instant (t : CivilTime) : ofInstant? t.instant = some t := by
  have hhour := t.hour_lt
  have hminute := t.minute_lt
  have hsecond := t.second_lt
  have hmicro := t.microsecond_lt
  unfold ofInstant? instant
  rw [if_neg (by omega)]
  simp only [Int.toNat_natCast]
  generalize hmicros : (((t.ordinal * 24 + t.hour) * 60 + t.minute) * 60 + t.second) * 1000000 +
    t.microsecond = micros
  have hordinal : micros / 86400000000 = t.ordinal := by omega
  have hrest : t.ordinal - daysBeforeYear t.year = daysBeforeMonth t.year t.month + t.day := by
    unfold ordinal ymd2ord
    omega
  rw [hordinal, yearOf_ordinal, hrest, monthOf_ordinal,
    show daysBeforeMonth t.year t.month + t.day - daysBeforeMonth t.year t.month = t.day by omega,
    show micros / 3600000000 % 24 = t.hour by omega,
    show micros / 60000000 % 60 = t.minute by omega,
    show micros / 1000000 % 60 = t.second by omega,
    show micros % 1000000 = t.microsecond by omega, of?_fields t]

end CivilTime

/-! ## Times with an offset -/

/-- A `datetime`; without an offset it is in the local time zone. -/
structure DateTime where
  civil : CivilTime
  offset : Option UtcOffset
  deriving DecidableEq

namespace DateTime

/-- `isoformat()`. -/
def isoformat (t : DateTime) : PyStr :=
  t.civil.isoformat (t.offset.elim [] UtcOffset.text)

/-- `datetime.fromisoformat` of a text in the form of `isoformat`. -/
def fromisoformat (text : PyStr) : Option DateTime := do
  let (civil, text) ← CivilTime.read text
  let offset ← UtcOffset.read text
  return ⟨civil, offset⟩

/-- `astimezone(UTC)`; `localOffset` is that of the local time zone, and the result is `none` for
an `OverflowError`. -/
def astimezoneUtc (localOffset : CivilTime → Option UtcOffset) (t : DateTime) :
    Option DateTime := do
  let offset ← t.offset.or (localOffset t.civil)
  let civil ← CivilTime.ofInstant? (t.civil.instant - offset.micros)
  return ⟨civil, some .utc⟩

/-- Every text of `isoformat` is read back. -/
theorem fromisoformat_isoformat (t : DateTime) : fromisoformat t.isoformat = some t := by
  obtain ⟨civil, offset⟩ := t
  unfold fromisoformat isoformat
  cases offset with
  | none =>
      have hread := @CivilTime.read_isoformat civil [] (by simp)
      simp only [Option.elim_none, hread, Option.bind_eq_bind, Option.bind_some]
      rfl
  | some offset =>
      have hhead : offset.text.head? ≠ some 46 := by
        unfold UtcOffset.text
        simp only [List.head?_cons, ne_eq, Option.some.injEq]
        split <;> decide
      simp only [Option.elim_some, civil.read_isoformat hhead, Option.bind_eq_bind,
        Option.bind_some, UtcOffset.read_text]
      rfl

/-- The text is ASCII. -/
theorem readable_isoformat (t : DateTime) : Json.Readable t.isoformat := by
  have hpad (width n : Nat) : Json.Readable (PyStr.zeroPad width n) := by
    intro c hc
    obtain ⟨hlow, hhigh⟩ := PyStr.isDigit_of_mem_zeroPad hc
    simp only [Json.isHigh, Bool.and_eq_false_iff, decide_eq_false_iff_not]
    omega
  have hcons {c : Nat} {text : PyStr} (hc : c < 128) (htext : Json.Readable text) :
      Json.Readable (c :: text) := by
    refine List.forall_mem_cons.mpr ⟨?_, htext⟩
    simp only [Json.isHigh, Bool.and_eq_false_iff, decide_eq_false_iff_not]
    omega
  have hfraction (n : Nat) : Json.Readable (CivilTime.fractionText n) := by
    unfold CivilTime.fractionText
    split
    · exact Json.readable_nil
    · exact hcons (by decide) (hpad 6 n)
  have hoffset (offset : UtcOffset) : Json.Readable offset.text := by
    unfold UtcOffset.text
    refine hcons (by split <;> decide)
      (Json.readable_append.mpr
        ⟨hpad _ _, hcons (by decide) (Json.readable_append.mpr ⟨hpad _ _, ?_⟩)⟩)
    split
    · exact Json.readable_nil
    · exact hcons (by decide) (Json.readable_append.mpr ⟨hpad _ _, hfraction _⟩)
  have htail : Json.Readable (t.offset.elim [] UtcOffset.text) := by
    cases t.offset with
    | none => exact Json.readable_nil
    | some offset => exact hoffset offset
  unfold isoformat CivilTime.isoformat
  simp only [Json.readable_append]
  refine ⟨hpad _ _, hcons (by decide) (Json.readable_append.mpr ⟨hpad _ _, hcons (by decide)
    (Json.readable_append.mpr ⟨hpad _ _, hcons (by decide) (Json.readable_append.mpr ⟨hpad _ _,
      hcons (by decide) (Json.readable_append.mpr ⟨hpad _ _, hcons (by decide)
        (Json.readable_append.mpr ⟨hpad _ _, Json.readable_append.mpr
          ⟨hfraction _, htail⟩⟩)⟩)⟩)⟩)⟩)⟩

/-- A time in UTC stays what it is. -/
theorem astimezoneUtc_utc (localOffset : CivilTime → Option UtcOffset) (civil : CivilTime) :
    astimezoneUtc localOffset ⟨civil, some .utc⟩ = some ⟨civil, some .utc⟩ := by
  have hzero : UtcOffset.utc.micros = 0 := rfl
  have hinstant : civil.instant - UtcOffset.utc.micros = civil.instant := by
    rw [hzero, Int.sub_zero]
  unfold astimezoneUtc
  rw [Option.some_or, Option.bind_eq_bind, Option.bind_some, Option.bind_eq_bind, hinstant,
    CivilTime.ofInstant?_instant, Option.bind_some, Option.pure_def]

end DateTime

end ImmichDoctor.Library
