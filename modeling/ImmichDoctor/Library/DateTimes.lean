import ImmichDoctor.Library.Text
import Mathlib.Order.Defs.LinearOrder
import Mathlib.Order.Lattice
/-!
# Dates, times and their ISO texts

`datetime` values without an offset, the instants they stand for in UTC, and the texts of
`isoformat`. The instants are microseconds since the start of year 1. The texts have fields
of a fixed width, so they are ordered as the instants are, although the fraction is left out
when it is zero.
-/

namespace ImmichDoctor.Library

/-! ## Numbers of a fixed width -/

namespace PyStr

theorem zeroPad_one {n : Nat} (hn : n < 10) : zeroPad 1 n = [48 + n] := by
  unfold zeroPad
  rw [Nat.toDigits_of_lt_base hn]
  simp only [List.length_singleton, Nat.sub_self, List.replicate_zero, List.nil_append,
    List.map_cons, List.map_nil, Nat.toNat_digitChar_of_lt_ten hn]

theorem zeroPad_succ {width : Nat} (hwidth : 0 < width) (n : Nat) :
    zeroPad (width + 1) n = zeroPad width (n / 10) ++ [48 + n % 10] := by
  have hlast : (n % 10).digitChar.toNat = 48 + n % 10 :=
    Nat.toNat_digitChar_of_lt_ten (Nat.mod_lt n (by omega))
  unfold zeroPad
  by_cases hn : n < 10
  · have hzero : n / 10 = 0 := by omega
    have hmod : n % 10 = n := by omega
    rw [hmod] at hlast
    rw [hzero, hmod, Nat.toDigits_of_lt_base hn, Nat.toDigits_zero]
    have hreplicate : List.replicate (width - 1) '0' ++ ['0'] = List.replicate width '0' := by
      rw [← List.replicate_succ', Nat.sub_add_cancel hwidth]
    simp only [List.length_singleton, Nat.add_sub_cancel, hreplicate, List.map_append,
      List.map_cons, List.map_nil, hlast]
  · rw [Nat.toDigits_of_base_le (by omega) (by omega)]
    simp only [List.length_append, List.length_singleton, Nat.add_sub_add_right, List.map_append,
      List.map_cons, List.map_nil, hlast, List.append_assoc]

theorem length_zeroPad {width n : Nat} (hwidth : 0 < width) (hn : n < 10 ^ width) :
    (zeroPad width n).length = width := by
  induction width, hwidth using Nat.le_induction generalizing n with
  | base => rw [zeroPad_one (by omega), List.length_singleton]
  | succ width hwidth ih =>
      rw [zeroPad_succ hwidth, List.length_append, ih (by rw [pow_succ] at hn; omega),
        List.length_singleton]

/-- Texts that start with fields of the same width compare by them first. -/
theorem append_lt_append_iff {a b x y : PyStr} (hlength : a.length = b.length) :
    a ++ x < b ++ y ↔ a < b ∨ a = b ∧ x < y := by
  induction a generalizing b with
  | nil =>
      obtain rfl := List.length_eq_zero_iff.mp hlength.symm
      simp
  | cons c a ih =>
      cases b with
      | nil => cases hlength
      | cons d b =>
          rw [List.cons_append, List.cons_append, List.cons_lt_cons_iff, List.cons_lt_cons_iff,
            ih (Nat.succ.inj hlength), List.cons.injEq]
          tauto

/-- Numbers of the same width compare as their texts do. -/
theorem zeroPad_lt_iff {width m n : Nat} (hwidth : 0 < width) (hm : m < 10 ^ width)
    (hn : n < 10 ^ width) : zeroPad width m < zeroPad width n ↔ m < n := by
  induction width, hwidth using Nat.le_induction generalizing m n with
  | base =>
      rw [zeroPad_one (by omega), zeroPad_one (by omega), List.cons_lt_cons_iff]
      simp
  | succ width hwidth ih =>
      have hm' : m / 10 < 10 ^ width := by rw [pow_succ] at hm; omega
      have hn' : n / 10 < 10 ^ width := by rw [pow_succ] at hn; omega
      rw [zeroPad_succ hwidth, zeroPad_succ hwidth, append_lt_append_iff, ih hm' hn',
        (zeroPad_injective width).eq_iff, List.cons_lt_cons_iff]
      · simp only [List.lt_irrefl, and_false, or_false]
        omega
      · rw [length_zeroPad hwidth hm', length_zeroPad hwidth hn']

/-- Texts that start with numbers of the same width compare by the numbers first. -/
theorem zeroPad_append_lt_iff {width m n : Nat} {x y : PyStr} (hwidth : 0 < width)
    (hm : m < 10 ^ width) (hn : n < 10 ^ width) :
    zeroPad width m ++ x < zeroPad width n ++ y ↔ m < n ∨ m = n ∧ x < y := by
  rw [append_lt_append_iff, zeroPad_lt_iff hwidth hm hn, (zeroPad_injective width).eq_iff]
  rw [length_zeroPad hwidth hm, length_zeroPad hwidth hn]

end PyStr

/-! ## Calendar -/

/-- `calendar.isleap`. -/
def isLeap (year : Nat) : Bool :=
  year % 4 = 0 && (year % 100 ≠ 0 || year % 400 = 0)

/-- `_days_in_month`. -/
def daysInMonth (year month : Nat) : Nat :=
  match month with
  | 2 => if isLeap year then 29 else 28
  | 4 | 6 | 9 | 11 => 30
  | _ => 31

theorem daysInMonth_le (year month : Nat) : daysInMonth year month ≤ 31 := by
  unfold daysInMonth
  split
  · split
    · omega
    · omega
  all_goals omega

/-- `_days_before_year`. -/
def daysBeforeYear (year : Nat) : Nat :=
  (year - 1) * 365 + (year - 1) / 4 - (year - 1) / 100 + (year - 1) / 400

/-- `_days_before_month`. -/
def daysBeforeMonth (year : Nat) : Nat → Nat
  | 0 | 1 => 0
  | month + 1 => daysBeforeMonth year month + daysInMonth year month

/-- `_ymd2ord`. -/
def ymd2ord (year month day : Nat) : Nat :=
  daysBeforeYear year + daysBeforeMonth year month + day

theorem daysBeforeMonth_succ {year month : Nat} (h : 0 < month) :
    daysBeforeMonth year (month + 1) = daysBeforeMonth year month + daysInMonth year month := by
  cases month with
  | zero => cases h
  | succ month => rfl

theorem daysBeforeMonth_mono {year month later : Nat} (hmonth : 0 < month) (h : month < later) :
    daysBeforeMonth year month + daysInMonth year month ≤ daysBeforeMonth year later := by
  induction later, h using Nat.le_induction with
  | base => rw [daysBeforeMonth_succ hmonth]
  | succ later h ih =>
      rw [daysBeforeMonth_succ (by omega)]
      omega

theorem daysBeforeMonth_end (year : Nat) :
    daysBeforeMonth year 13 = if isLeap year then 366 else 365 := by
  have hmonths : daysBeforeMonth year 13 =
      0 + 31 + daysInMonth year 2 + 31 + 30 + 31 + 30 + 31 + 31 + 30 + 31 + 30 + 31 := rfl
  rw [hmonths, daysInMonth]
  cases isLeap year with
  | true => rfl
  | false => rfl

/-- The months fill the year. -/
theorem daysBeforeYear_succ {year : Nat} (h : 0 < year) :
    daysBeforeYear (year + 1) = daysBeforeYear year + daysBeforeMonth year 13 := by
  obtain ⟨y, rfl⟩ := Nat.exists_eq_add_one.mpr h
  rw [daysBeforeMonth_end]
  unfold daysBeforeYear isLeap
  simp only [Nat.add_sub_cancel, ← Nat.dvd_iff_mod_eq_zero, Nat.succ_div, ne_eq]
  have hcenturies : y / 100 ≤ y / 4 := Nat.div_le_div_left (by omega) (by omega)
  generalize y / 4 = fours at *
  generalize y / 100 = hundreds at *
  generalize y / 400 = cycles at *
  by_cases hfour : 4 ∣ y + 1
  · by_cases hhundred : 100 ∣ y + 1
    · by_cases hcycle : 400 ∣ y + 1
      · simp only [hfour, hhundred, hcycle, if_true, decide_true, Bool.or_true, Bool.and_true]
        omega
      · simp only [hfour, hhundred, hcycle, if_true, if_false, decide_true, decide_false,
          not_true, Bool.or_false, Bool.and_false, Bool.false_eq_true]
        omega
    · have hcycle : ¬ 400 ∣ y + 1 := fun hdvd => hhundred (dvd_trans (by decide) hdvd)
      simp only [hfour, hhundred, hcycle, if_true, if_false, decide_true, decide_false,
        not_false_iff, Bool.or_false, Bool.and_true]
      omega
  · have hhundred : ¬ 100 ∣ y + 1 := fun hdvd => hfour (dvd_trans (by decide) hdvd)
    have hcycle : ¬ 400 ∣ y + 1 := fun hdvd => hfour (dvd_trans (by decide) hdvd)
    simp only [hfour, hhundred, hcycle, if_false, decide_false, Bool.false_and, Bool.false_eq_true]
    omega

theorem daysBeforeYear_mono {year later : Nat} (hyear : 0 < year) (h : year < later) :
    daysBeforeYear year + daysBeforeMonth year 13 ≤ daysBeforeYear later := by
  induction later, h using Nat.le_induction with
  | base => rw [daysBeforeYear_succ hyear]
  | succ later h ih =>
      rw [daysBeforeYear_succ (by omega)]
      omega

/-! ## Times -/

/-- A `datetime` without an offset. -/
structure CivilTime where
  year : Nat
  month : Nat
  day : Nat
  hour : Nat
  minute : Nat
  second : Nat
  microsecond : Nat
  year_bounds : 1 ≤ year ∧ year ≤ 9999
  month_bounds : 1 ≤ month ∧ month ≤ 12
  day_bounds : 1 ≤ day ∧ day ≤ daysInMonth year month
  hour_lt : hour < 24
  minute_lt : minute < 60
  second_lt : second < 60
  microsecond_lt : microsecond < 1000000
  deriving DecidableEq

namespace CivilTime

theorem year_lt (t : CivilTime) : t.year < 10 ^ 4 := by
  have h := t.year_bounds.2
  omega

theorem month_lt (t : CivilTime) : t.month < 100 := by
  have h := t.month_bounds.2
  omega

theorem day_lt (t : CivilTime) : t.day < 100 := by
  have h := t.day_bounds.2
  have hmonth := daysInMonth_le t.year t.month
  omega

def ordinal (t : CivilTime) : Nat :=
  ymd2ord t.year t.month t.day

/-- The microseconds since the start of year 1. -/
def instant (t : CivilTime) : Int :=
  ((((t.ordinal * 24 + t.hour) * 60 + t.minute) * 60 + t.second) * 1000000 + t.microsecond : Nat)

/-- The fields are before others at the first place where they differ. -/
def Before (s t : CivilTime) : Prop :=
  s.year < t.year ∨ s.year = t.year ∧ (s.month < t.month ∨ s.month = t.month ∧
    (s.day < t.day ∨ s.day = t.day ∧ (s.hour < t.hour ∨ s.hour = t.hour ∧
      (s.minute < t.minute ∨ s.minute = t.minute ∧ (s.second < t.second ∨ s.second = t.second ∧
        s.microsecond < t.microsecond)))))

theorem ordinal_lt_of_date {s t : CivilTime}
    (h : s.year < t.year ∨ s.year = t.year ∧ (s.month < t.month ∨ s.month = t.month ∧
      s.day < t.day)) : s.ordinal < t.ordinal := by
  obtain ⟨hsday, hsdays⟩ := s.day_bounds
  obtain ⟨htday, -⟩ := t.day_bounds
  unfold ordinal ymd2ord
  rcases h with hyear | ⟨hyear, hmonth | ⟨hmonth, hday⟩⟩
  · have hlast := @daysBeforeMonth_mono s.year s.month 13 s.month_bounds.1
      (by have := s.month_bounds.2; omega)
    have hlater := daysBeforeYear_mono s.year_bounds.1 hyear
    omega
  · have hlater := @daysBeforeMonth_mono s.year s.month t.month s.month_bounds.1 hmonth
    rw [← hyear]
    omega
  · rw [hyear, hmonth]
    omega

/-- The instants have the order of the fields. -/
theorem instant_lt_of_before {s t : CivilTime} (h : s.Before t) : s.instant < t.instant := by
  have hshour := s.hour_lt
  have hsminute := s.minute_lt
  have hssecond := s.second_lt
  have hsmicro := s.microsecond_lt
  unfold instant
  rw [Int.ofNat_lt]
  unfold Before at h
  by_cases hdate : s.ordinal < t.ordinal
  · omega
  · have hsame : s.year = t.year ∧ s.month = t.month ∧ s.day = t.day := by
      by_contra hnot
      exact hdate (ordinal_lt_of_date (by omega))
    have hordinal : s.ordinal = t.ordinal := by
      unfold ordinal
      rw [hsame.1, hsame.2.1, hsame.2.2]
    omega

theorem before_trichotomy (s t : CivilTime) : s.Before t ∨ s = t ∨ t.Before s := by
  unfold Before
  by_cases hsame : s.year = t.year ∧ s.month = t.month ∧ s.day = t.day ∧ s.hour = t.hour ∧
      s.minute = t.minute ∧ s.second = t.second ∧ s.microsecond = t.microsecond
  · right
    left
    obtain ⟨hyear, hmonth, hday, hhour, hminute, hsecond, hmicro⟩ := hsame
    cases s
    cases t
    subst hyear hmonth hday hhour hminute hsecond hmicro
    rfl
  · omega

theorem instant_lt_iff {s t : CivilTime} : s.instant < t.instant ↔ s.Before t := by
  refine ⟨fun h => ?_, instant_lt_of_before⟩
  rcases before_trichotomy s t with hbefore | rfl | hafter
  · exact hbefore
  · exact absurd h (lt_irrefl _)
  · exact absurd (instant_lt_of_before hafter) (by omega)

theorem instant_injective : Function.Injective instant := by
  intro s t h
  rcases before_trichotomy s t with hbefore | heq | hafter
  · exact absurd (instant_lt_of_before hbefore) (by omega)
  · exact heq
  · exact absurd (instant_lt_of_before hafter) (by omega)

/-- Times are ordered as their instants. -/
instance : LinearOrder CivilTime :=
  LinearOrder.lift' instant instant_injective

theorem lt_iff_instant {s t : CivilTime} : s < t ↔ s.instant < t.instant :=
  .rfl

theorem le_iff_instant {s t : CivilTime} : s ≤ t ↔ s.instant ≤ t.instant :=
  .rfl

/-! ## Texts -/

/-- `.%06d`, when it is not zero. -/
def fractionText (microsecond : Nat) : PyStr :=
  if microsecond = 0 then [] else 46 :: PyStr.zeroPad 6 microsecond

/-- `isoformat` of a time without an offset, followed by the text of one. -/
def isoformat (t : CivilTime) (offset : PyStr) : PyStr :=
  PyStr.zeroPad 4 t.year ++ 45 :: (PyStr.zeroPad 2 t.month ++ 45 :: (PyStr.zeroPad 2 t.day ++
    84 :: (PyStr.zeroPad 2 t.hour ++ 58 :: (PyStr.zeroPad 2 t.minute ++ 58 ::
      (PyStr.zeroPad 2 t.second ++ (fractionText t.microsecond ++ offset))))))

/-- `isoformat()` of a time in UTC. -/
def utcText (t : CivilTime) : PyStr :=
  t.isoformat (py "+00:00")

/-- A missing fraction is before every fraction, as `+` is before the point. -/
theorem fractionText_lt_iff {m n : Nat} (hm : m < 1000000) (hn : n < 1000000) (rest : PyStr) :
    fractionText m ++ 43 :: rest < fractionText n ++ 43 :: rest ↔ m < n := by
  unfold fractionText
  by_cases hm0 : m = 0
  · by_cases hn0 : n = 0
    · rw [if_pos hm0, if_pos hn0]
      exact iff_of_false (List.lt_irrefl _) (by omega)
    · rw [if_pos hm0, if_neg hn0, List.nil_append, List.cons_append, List.cons_lt_cons_iff]
      exact iff_of_true (.inl (by omega)) (by omega)
  · by_cases hn0 : n = 0
    · rw [if_neg hm0, if_pos hn0, List.nil_append, List.cons_append, List.cons_lt_cons_iff]
      exact iff_of_false (by omega) (by omega)
    · rw [if_neg hm0, if_neg hn0, List.cons_append, List.cons_append, List.cons_lt_cons_iff,
        PyStr.zeroPad_append_lt_iff (by omega) (by omega) (by omega)]
      simp only [and_false, or_false, true_and, lt_irrefl, false_or]

/-- The texts of times in UTC are ordered as the times are. -/
theorem utcText_lt_iff {s t : CivilTime} : s.utcText < t.utcText ↔ s < t := by
  have hfield : ∀ {m n : Nat} {x y : PyStr} {c : Nat}, m < 100 → n < 100 →
      (PyStr.zeroPad 2 m ++ c :: x < PyStr.zeroPad 2 n ++ c :: y ↔ m < n ∨ m = n ∧ x < y) := by
    intro m n x y c hm hn
    rw [PyStr.zeroPad_append_lt_iff (by omega) hm hn, List.cons_lt_cons_iff]
    simp only [lt_irrefl, true_and, false_or]
  have hoffset : py "+00:00" = 43 :: py "00:00" := rfl
  rw [lt_iff_instant, instant_lt_iff]
  unfold utcText isoformat Before
  rw [hoffset, PyStr.zeroPad_append_lt_iff (by omega) s.year_lt t.year_lt, List.cons_lt_cons_iff,
    hfield s.month_lt t.month_lt, hfield s.day_lt t.day_lt,
    hfield (by have := s.hour_lt; omega) (by have := t.hour_lt; omega),
    hfield (by have := s.minute_lt; omega) (by have := t.minute_lt; omega),
    PyStr.zeroPad_append_lt_iff (by omega) (by have := s.second_lt; omega)
      (by have := t.second_lt; omega),
    fractionText_lt_iff s.microsecond_lt t.microsecond_lt]
  simp only [lt_irrefl, true_and, false_or]

end CivilTime

end ImmichDoctor.Library
