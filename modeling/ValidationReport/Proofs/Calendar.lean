import Mathlib.Order.Monotone.Basic
import ValidationReport.Moment

/-!
# The reach of the calendar

A moment with an offset may lie in another year once it is moved to UTC, and the
calendar ends with the years 1 and 9999.  Which moments can be moved is told by
their instants alone: those from the first midnight of year 1 up to the last
microsecond of year 9999.

## Main definitions

* `yearLength` — the days of a year.
* `Moment.InRange` — the instant lies in the years 1 to 9999.

## Main results

* `yearOfDay_bounds` — the year in which a day lies.
* `Civil.micros_of_ofMicros?`, `Civil.exists_ofMicros?` — the civil time at a
  count of microseconds passes exactly that count, and exists up to the end of
  year 9999.
* `Moment.exists_utc_iff` — **a moment can be moved to UTC exactly when it is in
  range.**
-/

namespace ValidationReport

/-! ### Years -/

/-- The days of a year. -/
def yearLength (year : ℕ) : ℕ := if isLeapYear year then 366 else 365

theorem daysBeforeYear_succ (year : ℕ) :
    daysBeforeYear (year + 1) = daysBeforeYear year + yearLength year := by
  have h4 : (year + 1 + 3) / 4 = (year + 3) / 4 + if year % 4 = 0 then 1 else 0 := by
    split <;> omega
  have h100 : (year + 1 + 99) / 100 = (year + 99) / 100 + if year % 100 = 0 then 1 else 0 := by
    split <;> omega
  have h400 : (year + 1 + 399) / 400 = (year + 399) / 400 + if year % 400 = 0 then 1 else 0 := by
    split <;> omega
  have hle : (year + 99) / 100 ≤ 365 * year + (year + 3) / 4 := by omega
  have hcentury : year % 100 = 0 → year % 4 = 0 := by omega
  have hfour : year % 400 = 0 → year % 100 = 0 := by omega
  unfold daysBeforeYear yearLength isLeapYear
  rw [h4, h100, h400]
  generalize (year + 3) / 4 = a at *
  generalize (year + 99) / 100 = b at *
  generalize (year + 399) / 400 = c at *
  by_cases m4 : year % 4 = 0 <;> by_cases m100 : year % 100 = 0 <;>
    by_cases m400 : year % 400 = 0 <;> simp_all <;> omega

theorem daysBeforeYear_strictMono : StrictMono daysBeforeYear := by
  apply strictMono_nat_of_lt_succ
  intro year
  rw [daysBeforeYear_succ]
  unfold yearLength
  split <;> omega

/-- A day lies in the year that is named for it. -/
theorem yearOfDay_bounds (day : ℕ) :
    daysBeforeYear (Civil.yearOfDay day) ≤ day ∧
      day < daysBeforeYear (Civil.yearOfDay day + 1) := by
  -- the estimate is off by one year at most, in either direction
  have hbefore : daysBeforeYear (day * 400 / 146097 - 1) ≤ day := by
    unfold daysBeforeYear
    omega
  have hafter : day < daysBeforeYear (day * 400 / 146097 + 2) := by
    unfold daysBeforeYear
    omega
  unfold Civil.yearOfDay
  generalize day * 400 / 146097 = year at *
  by_cases hlow : day < daysBeforeYear year
  · have hpos : 1 ≤ year := by
      rcases Nat.eq_zero_or_pos year with rfl | hpos
      · exact absurd hlow (Nat.not_lt_zero day)
      · exact hpos
    simp only [hlow, reduceIte, Nat.sub_add_cancel hpos]
    exact ⟨hbefore, trivial⟩
  · by_cases hhigh : daysBeforeYear (year + 1) ≤ day
    · simp only [hlow, hhigh, reduceIte]
      exact ⟨trivial, hafter⟩
    · simp only [hlow, hhigh, reduceIte]
      omega

/-! ### Months -/

theorem daysBeforeMonth_succ (year month : ℕ) (h : 1 ≤ month) :
    daysBeforeMonth year (month + 1) = daysBeforeMonth year month + monthLength year month := by
  obtain ⟨m, rfl⟩ := Nat.exists_eq_add_of_le' h
  rfl

/-- The twelve months make up the year. -/
theorem daysBeforeMonth_thirteen (year : ℕ) : daysBeforeMonth year 13 = yearLength year := by
  unfold yearLength
  cases h : isLeapYear year <;> simp [daysBeforeMonth, monthLength, h]

theorem daysBeforeMonth_mono (year : ℕ) : Monotone (daysBeforeMonth year) := by
  apply monotone_nat_of_le_succ
  intro month
  cases month with
  | zero => exact le_rfl
  | succ month =>
    rw [daysBeforeMonth_succ year (month + 1) (by omega)]
    exact Nat.le_add_right _ _

/-- A date lies within its year. -/
theorem daysBeforeMonth_add_lt {year month day : ℕ} (h : isDate year month day = true) :
    daysBeforeMonth year month + (day - 1) < yearLength year := by
  unfold isDate at h
  simp only [Bool.and_eq_true, decide_eq_true_eq] at h
  obtain ⟨⟨⟨⟨-, hmonth⟩, hmonth'⟩, hday⟩, hday'⟩ := h
  have hmono := daysBeforeMonth_mono year (show month + 1 ≤ 13 by omega)
  rw [daysBeforeMonth_thirteen, daysBeforeMonth_succ year month hmonth] at hmono
  omega

/-- The month and the day that are found for a day of the year exist, and lie as many days into
the year.  The induction is on the months that remain. -/
theorem monthAndDay_spec (year : ℕ) : ∀ remaining month day : ℕ, 1 ≤ month →
    month + remaining = 12 → daysBeforeMonth year month + day < yearLength year →
    1 ≤ (Civil.monthAndDay year remaining month day).1 ∧
      (Civil.monthAndDay year remaining month day).1 ≤ 12 ∧
      1 ≤ (Civil.monthAndDay year remaining month day).2 ∧
      (Civil.monthAndDay year remaining month day).2 ≤
        monthLength year (Civil.monthAndDay year remaining month day).1 ∧
      daysBeforeMonth year (Civil.monthAndDay year remaining month day).1 +
        ((Civil.monthAndDay year remaining month day).2 - 1) =
        daysBeforeMonth year month + day := by
  intro remaining
  induction remaining with
  | zero =>
    intro month day hpos hsum hlt
    obtain rfl : month = 12 := by omega
    have hlast := daysBeforeMonth_succ year 12 (by omega)
    rw [daysBeforeMonth_thirteen] at hlast
    simp only [Civil.monthAndDay]
    omega
  | succ remaining ih =>
    intro month day hpos hsum hlt
    rw [Civil.monthAndDay]
    split
    · next hday =>
      simp only
      omega
    · next hday =>
      have hnext := daysBeforeMonth_succ year month hpos
      have hsame : daysBeforeMonth year (month + 1) + (day - monthLength year month) =
          daysBeforeMonth year month + day := by omega
      have hrec := ih (month + 1) (day - monthLength year month) (by omega) (by omega)
        (by omega)
      rwa [hsame] at hrec

/-! ### Civil times -/

namespace Civil

theorem days_bounds (c : Civil) :
    daysBeforeYear c.year ≤ c.days ∧ c.days < daysBeforeYear (c.year + 1) := by
  have hdate := daysBeforeMonth_add_lt c.dateExists
  rw [daysBeforeYear_succ]
  unfold days
  omega

theorem micros_bounds (c : Civil) :
    c.days * microsPerDay ≤ c.micros ∧ c.micros < (c.days + 1) * microsPerDay := by
  have hclock := c.clockExists
  unfold isClock at hclock
  simp only [Bool.and_eq_true, decide_eq_true_eq] at hclock
  unfold micros microsPerDay
  omega

theorem ofParts?_eq_some {year month day hour minute second micro : ℕ}
    (hdate : isDate year month day = true) (hclock : isClock hour minute second micro = true) :
    ofParts? year month day hour minute second micro =
      some ⟨year, month, day, hour, minute, second, micro, hdate, hclock⟩ := by
  unfold ofParts?
  rw [dif_pos hdate, dif_pos hclock]

theorem ofParts?_eq_none {year month day hour minute second micro : ℕ} (hyear : 9999 < year) :
    ofParts? year month day hour minute second micro = none := by
  have hdate : isDate year month day = false := by
    unfold isDate
    simp only [Bool.and_eq_false_iff, decide_eq_false_iff_not]
    omega
  unfold ofParts?
  rw [dif_neg (by rw [hdate]; exact Bool.false_ne_true)]

/-- The month and the day of the month on a day counted from year 0. -/
def dateOfDay (day : ℕ) : ℕ × ℕ :=
  monthAndDay (yearOfDay day) 11 1 (day - daysBeforeYear (yearOfDay day))

theorem ofMicros?_eq (n : ℕ) :
    ofMicros? n = ofParts? (yearOfDay (n / microsPerDay)) (dateOfDay (n / microsPerDay)).1
      (dateOfDay (n / microsPerDay)).2 (n % microsPerDay / 1000000 / 3600)
      (n % microsPerDay / 1000000 / 60 % 60) (n % microsPerDay / 1000000 % 60) (n % 1000000) := rfl

/-- The date of a day exists, and as many days pass before it. -/
theorem dateOfDay_spec {day : ℕ} (h : day < daysBeforeYear 10000) :
    isDate (yearOfDay day) (dateOfDay day).1 (dateOfDay day).2 = true ∧
      daysBeforeYear (yearOfDay day) + daysBeforeMonth (yearOfDay day) (dateOfDay day).1 +
        ((dateOfDay day).2 - 1) = day := by
  obtain ⟨hlow, hhigh⟩ := yearOfDay_bounds day
  unfold dateOfDay
  generalize yearOfDay day = year at *
  have hyear : year ≤ 9999 := by
    have := daysBeforeYear_strictMono.lt_iff_lt.mp (lt_of_le_of_lt hlow h)
    omega
  rw [daysBeforeYear_succ] at hhigh
  have hfirst : daysBeforeMonth year 1 = 0 := rfl
  obtain ⟨h1, h2, h3, h4, h5⟩ := monthAndDay_spec year 11 1 (day - daysBeforeYear year) le_rfl rfl
    (by omega)
  unfold isDate
  simp only [Bool.and_eq_true, decide_eq_true_eq]
  exact ⟨⟨⟨⟨⟨hyear, h1⟩, h2⟩, h3⟩, h4⟩, by omega⟩

/-- **Up to the end of year 9999 there is a civil time at a count of microseconds, and as many
pass before it.** -/
theorem exists_ofMicros? {n : ℕ} (h : n < daysBeforeYear 10000 * microsPerDay) :
    ∃ c, ofMicros? n = some c ∧ c.micros = n := by
  have hday : n / microsPerDay < daysBeforeYear 10000 :=
    Nat.div_lt_of_lt_mul (by rw [Nat.mul_comm]; exact h)
  obtain ⟨hdate, hdays⟩ := dateOfDay_spec hday
  have hclock : isClock (n % microsPerDay / 1000000 / 3600) (n % microsPerDay / 1000000 / 60 % 60)
      (n % microsPerDay / 1000000 % 60) (n % 1000000) = true := by
    unfold isClock microsPerDay
    simp only [Bool.and_eq_true, decide_eq_true_eq]
    omega
  rw [ofMicros?_eq]
  refine ⟨_, ofParts?_eq_some hdate hclock, ?_⟩
  unfold micros days
  simp only [hdays]
  unfold microsPerDay
  omega

/-- After year 9999 there is none. -/
theorem ofMicros?_eq_none {n : ℕ} (h : daysBeforeYear 10000 * microsPerDay ≤ n) :
    ofMicros? n = none := by
  have hday : daysBeforeYear 10000 ≤ n / microsPerDay :=
    (Nat.le_div_iff_mul_le (by decide)).mpr h
  have hyear := lt_of_le_of_lt hday (yearOfDay_bounds (n / microsPerDay)).2
  rw [daysBeforeYear_strictMono.lt_iff_lt] at hyear
  rw [ofMicros?_eq]
  exact ofParts?_eq_none (by omega)

/-- The civil time at a count of microseconds passes exactly that count. -/
theorem micros_of_ofMicros? {n : ℕ} {c : Civil} (h : ofMicros? n = some c) : c.micros = n := by
  rcases Nat.lt_or_ge n (daysBeforeYear 10000 * microsPerDay) with hn | hn
  · obtain ⟨c', hc', hmicros⟩ := exists_ofMicros? hn
    rw [h] at hc'
    rwa [Option.some.inj hc']
  · rw [ofMicros?_eq_none hn] at h
    cases h

/-- A civil time lies after the year 0 if at least a year has passed before it. -/
theorem one_le_year_iff (c : Civil) :
    1 ≤ c.year ↔ daysBeforeYear 1 * microsPerDay ≤ c.micros := by
  obtain ⟨hyear, hyear'⟩ := c.days_bounds
  obtain ⟨hmicros, hmicros'⟩ := c.micros_bounds
  constructor
  · intro h
    have hdays := le_trans (daysBeforeYear_strictMono.monotone h) hyear
    exact le_trans (Nat.mul_le_mul_right _ hdays) hmicros
  · intro h
    have hdays : daysBeforeYear 1 < c.days + 1 :=
      Nat.lt_of_mul_lt_mul_right (lt_of_le_of_lt h hmicros')
    have := daysBeforeYear_strictMono.lt_iff_lt.mp (lt_of_le_of_lt (Nat.le_of_lt_succ hdays) hyear')
    omega

end Civil

/-! ### Moments -/

namespace Moment

/-- The instant lies in the years 1 to 9999. -/
def InRange (m : Moment) : Prop :=
  (daysBeforeYear 1 * microsPerDay : ℕ) ≤ m.instant ∧
    m.instant < (daysBeforeYear 10000 * microsPerDay : ℕ)

instance (m : Moment) : Decidable m.InRange := inferInstanceAs (Decidable (_ ∧ _))

/-- **A moment can be moved to UTC exactly when it is in range.** -/
theorem exists_utc_iff (m : Moment) : (∃ c, m.utc = .ok c) ↔ m.InRange := by
  unfold utc InRange civilAt?
  generalize m.instant = i
  constructor
  · rintro ⟨c, h⟩
    split at h
    · next c' hcivil =>
      split at hcivil
      · next hpos =>
        obtain ⟨hmicros, hyear⟩ := Option.filter_eq_some_iff.mp hcivil
        rw [decide_eq_true_eq, Civil.one_le_year_iff, Civil.micros_of_ofMicros? hmicros] at hyear
        have hend : i.toNat < daysBeforeYear 10000 * microsPerDay := by
          by_contra hend
          rw [Civil.ofMicros?_eq_none (Nat.le_of_not_lt hend)] at hmicros
          cases hmicros
        omega
      · cases hcivil
    · cases h
  · rintro ⟨hfirst, hend⟩
    obtain ⟨c, hc, hmicros⟩ := Civil.exists_ofMicros? (n := i.toNat) (by omega)
    have hyear : 1 ≤ c.year := (Civil.one_le_year_iff c).mpr (by omega)
    refine ⟨c, ?_⟩
    rw [if_pos (by omega), hc, Option.filter_some, if_pos (by simpa using hyear)]

/-- A noon in UTC. -/
def noon : Moment where
  civil := ⟨2024, 3, 2, 12, 0, 0, 0, by decide, by decide⟩
  offset := none
  hasYear := by decide
  offsetExists := by decide

/-- The first midnight of all, an hour to the east of UTC. -/
def firstMidnight : Moment where
  civil := ⟨1, 1, 1, 0, 0, 0, 0, by decide, by decide⟩
  offset := some 3600000000
  hasYear := by decide
  offsetExists := by decide

example : noon.InRange ∧ ¬ firstMidnight.InRange := by decide

/-- A civil time that is already in UTC is in range. -/
theorem inRange_of_offset_eq_zero {m : Moment} (h : m.offset = some 0) : m.InRange := by
  have hfirst := (Civil.one_le_year_iff m.civil).mp m.hasYear
  have hend : m.civil.micros < daysBeforeYear 10000 * microsPerDay := by
    have hdate := m.civil.dateExists
    unfold isDate at hdate
    simp only [Bool.and_eq_true, decide_eq_true_eq] at hdate
    have hyear := daysBeforeYear_strictMono.monotone
      (show m.civil.year + 1 ≤ 10000 by omega)
    have hdays : m.civil.days + 1 ≤ daysBeforeYear 10000 :=
      lt_of_lt_of_le m.civil.days_bounds.2 hyear
    exact lt_of_lt_of_le m.civil.micros_bounds.2 (Nat.mul_le_mul_right _ hdays)
  unfold InRange instant
  rw [h]
  simp only [Option.getD_some]
  omega

end Moment

end ValidationReport
