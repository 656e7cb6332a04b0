import Mathlib.Data.List.Basic
import ValidationReport.Facts.Reader
import ValidationReport.Proofs.IsoText

/-!
# Moments named in reports

A report names a moment by its civil time in UTC, to the second.  The name tells the
second and nothing else: it does not matter at which offset the moment was given, nor
how far into the second it lies.  That no two seconds share a name rests on two facts.
A civil time is determined by the microseconds that pass before it, and its parts can
be told from the text, since all of them have a fixed width but the year, which ends
at a hyphen.

From the year 1000 on the name has the twenty characters of the usual form, and a time
field of facts takes it back.

## Main definitions

* `Moment.wholeSecond` — the seconds that pass before a moment in UTC, rounded down.
* `Civil.floor` — a civil time without its fraction of a second.
* `Text.IsDigits`, `Civil.IsStamp` — digits of a width, and the usual form.

## Main results

* `Civil.micros_injective` — a civil time is determined by the microseconds before it.
* `Civil.utcText_eq_iff` — the text tells the civil time to the second.
* `utcText_of_moments` — **a moment in range has a name, which is that of its second
  and is read back as this second.**
-/

namespace ValidationReport

/-! ### Civil times by their microseconds -/

/-- The year of a day is told by its number. -/
theorem daysBeforeYear_unique {year year' day : ℕ} (h : daysBeforeYear year ≤ day)
    (hnext : day < daysBeforeYear (year + 1)) (h' : daysBeforeYear year' ≤ day)
    (hnext' : day < daysBeforeYear (year' + 1)) : year = year' := by
  have hle := daysBeforeYear_strictMono.lt_iff_lt.mp (lt_of_le_of_lt h hnext')
  have hge := daysBeforeYear_strictMono.lt_iff_lt.mp (lt_of_le_of_lt h' hnext)
  omega

/-- Two dates of a year on the same day of it are the same. -/
theorem daysBeforeMonth_unique {year month month' day day' : ℕ}
    (h : isDate year month day = true) (h' : isDate year month' day' = true)
    (hday : daysBeforeMonth year month + (day - 1) = daysBeforeMonth year month' + (day' - 1)) :
    month = month' ∧ day = day' := by
  unfold isDate at h h'
  simp only [Bool.and_eq_true, decide_eq_true_eq] at h h'
  obtain ⟨⟨⟨⟨-, hmonth⟩, -⟩, hfirst⟩, hlast⟩ := h
  obtain ⟨⟨⟨⟨-, hmonth'⟩, -⟩, hfirst'⟩, hlast'⟩ := h'
  have hend := daysBeforeMonth_succ year month hmonth
  have hend' := daysBeforeMonth_succ year month' hmonth'
  have hmono := daysBeforeMonth_mono year
  -- an earlier month ends before a later one begins
  rcases lt_trichotomy month month' with hlt | rfl | hlt
  · have := hmono (show month + 1 ≤ month' from hlt)
    omega
  · exact ⟨rfl, by omega⟩
  · have := hmono (show month' + 1 ≤ month from hlt)
    omega

namespace Civil

theorem micros_injective : Function.Injective micros := by
  intro c c' h
  have hclock := c.clockExists
  have hclock' := c'.clockExists
  unfold isClock at hclock hclock'
  simp only [Bool.and_eq_true, decide_eq_true_eq] at hclock hclock'
  -- the time of day is shorter than a day, and every part shorter than the next one up
  have hdays : c.days = c'.days := by
    unfold micros microsPerDay at h
    omega
  have hrest : c.hour = c'.hour ∧ c.minute = c'.minute ∧ c.second = c'.second ∧
      c.micro = c'.micro := by
    unfold micros at h
    rw [hdays] at h
    omega
  have hyear : c.year = c'.year :=
    daysBeforeYear_unique c.days_bounds.1 c.days_bounds.2 (hdays ▸ c'.days_bounds.1)
      (hdays ▸ c'.days_bounds.2)
  have hdate : c.month = c'.month ∧ c.day = c'.day := by
    apply daysBeforeMonth_unique c.dateExists (hyear ▸ c'.dateExists)
    unfold days at hdays
    rw [hyear] at hdays ⊢
    omega
  obtain ⟨hhour, hminute, hsecond, hmicro⟩ := hrest
  cases c
  cases c'
  simp_all

/-- A civil time without its fraction of a second. -/
def floor (c : Civil) : Civil :=
  { c with
    micro := 0
    clockExists := by
      have h := c.clockExists
      simp only [isClock, Bool.and_eq_true, decide_eq_true_eq] at h ⊢
      exact ⟨h.1, by decide⟩ }

theorem micros_floor (c : Civil) : c.floor.micros = c.micros / 1000000 * 1000000 := by
  have hclock := c.clockExists
  unfold isClock at hclock
  simp only [Bool.and_eq_true, decide_eq_true_eq] at hclock
  have hmicros : ∀ d : Civil, d.micros =
      d.days * microsPerDay + ((d.hour * 60 + d.minute) * 60 + d.second) * 1000000 + d.micro :=
    fun _ => rfl
  have hdays : c.floor.days = c.days := rfl
  have hhour : c.floor.hour = c.hour := rfl
  have hminute : c.floor.minute = c.minute := rfl
  have hsecond : c.floor.second = c.second := rfl
  have hmicro : c.floor.micro = 0 := rfl
  rw [hmicros c.floor, hmicros c, hdays, hhour, hminute, hsecond, hmicro]
  unfold microsPerDay
  omega

/-- Two civil times differ by their fractions at most if as many whole seconds pass before them. -/
theorem floor_eq_floor_iff {c c' : Civil} :
    c.floor = c'.floor ↔ c.micros / 1000000 = c'.micros / 1000000 := by
  rw [← micros_injective.eq_iff, micros_floor, micros_floor]
  omega

end Civil

/-! ### Texts told apart -/

namespace Text

/-- Digits up to a code point that is none are told from what follows. -/
theorem natural_append_inj {n n' : ℕ} {c : Code} (hc : c.isDigit = false) {rest rest' : Text}
    (h : natural n ++ c :: rest = natural n' ++ c :: rest') : n = n' ∧ rest = rest' := by
  have hdigits : ∀ (m : ℕ) (t : Text),
      (natural m ++ c :: t).takeWhile Code.isDigit = natural m ∧
        (natural m ++ c :: t).dropWhile Code.isDigit = c :: t := by
    intro m t
    have hall := isDigit_of_mem_natural m
    rw [List.takeWhile_append_of_pos hall, List.dropWhile_append_of_pos hall,
      List.takeWhile_cons_of_neg (by simp [hc]), List.dropWhile_cons_of_neg (by simp [hc]),
      List.append_nil]
    exact ⟨rfl, rfl⟩
  have hvalue : natural n = natural n' := by
    rw [← (hdigits n rest).1, h, (hdigits n' rest').1]
  have hrest : c :: rest = c :: rest' := by
    rw [← (hdigits n rest).2, h, (hdigits n' rest').2]
  have hdecimal := congrArg Json.Token.decimal hvalue
  rw [decimal_natural, decimal_natural] at hdecimal
  exact ⟨hdecimal, (List.cons.inj hrest).2⟩

/-- Digits of a width are told from what follows. -/
theorem padded_append_inj {width n n' : ℕ} (hn : n < Nat.pow 10 (width + 1))
    (hn' : n' < Nat.pow 10 (width + 1)) {rest rest' : Text}
    (h : padded (width + 1) n ++ rest = padded (width + 1) n' ++ rest') :
    n = n' ∧ rest = rest' := by
  have hlength : (padded (width + 1) n).length = (padded (width + 1) n').length := by
    rw [length_padded hn, length_padded hn']
  obtain ⟨hdigits, hrest⟩ := List.append_inj h hlength
  have hvalue := congrArg Json.Token.decimal hdigits
  rw [decimal_padded, decimal_padded] at hvalue
  exact ⟨hvalue, hrest⟩

/-- A number from a power of ten on has more digits than the power has zeros. -/
theorem lt_length_natural : ∀ {width n : ℕ}, Nat.pow 10 width ≤ n →
    width < (natural n).length := by
  intro width
  induction width with
  | zero =>
    intro n _
    unfold natural naturalOnto
    split
    · simp
    · rw [naturalOnto_append, List.length_append]
      exact Nat.lt_of_lt_of_le (by decide) (Nat.le_add_left 1 _)
  | succ width ih =>
    intro n h
    have hten : 10 ≤ n := le_trans (Nat.le_self_pow (by omega) 10) h
    have htenth : Nat.pow 10 width ≤ n / 10 :=
      (Nat.le_div_iff_mul_le (by decide)).mpr h
    rw [natural_of_le hten, List.length_append]
    exact Nat.succ_lt_succ (ih htenth)

/-- A number that fills the width needs no zeros. -/
theorem padded_eq_natural {width n : ℕ} (h : Nat.pow 10 width ≤ n) :
    padded (width + 1) n = natural n := by
  have hlength := lt_length_natural h
  unfold padded
  simp only
  rw [Nat.sub_eq_zero_of_le (show width + 1 ≤ (natural n).length by omega)]
  rfl

/-- Digits of a width that denote a number. -/
structure IsDigits (width n : ℕ) (digits : Text) : Prop where
  length_eq : digits.length = width
  isDigit : ∀ c ∈ digits, c.isDigit = true
  decimal_eq : Json.Token.decimal digits = n

theorem isDigits_padded {width n : ℕ} (h : n < Nat.pow 10 (width + 1)) :
    IsDigits (width + 1) n (padded (width + 1) n) where
  length_eq := length_padded h
  isDigit := fun _ hc => isDigit_of_mem_padded hc
  decimal_eq := decimal_padded _ n

end Text

namespace Civil

/-- The parts of a civil time but the year have at most two digits. -/
structure Short (c : Civil) : Prop where
  month : c.month < Nat.pow 10 2
  day : c.day < Nat.pow 10 2
  hour : c.hour < Nat.pow 10 2
  minute : c.minute < Nat.pow 10 2
  second : c.second < Nat.pow 10 2

theorem short (c : Civil) : c.Short := by
  have hlength : monthLength c.year c.month ≤ 31 := by
    unfold monthLength
    split <;> try split
    all_goals omega
  have hdate := c.dateExists
  have hclock := c.clockExists
  simp only [isDate, isClock, Bool.and_eq_true, decide_eq_true_eq] at hdate hclock
  have hhundred : Nat.pow 10 2 = 100 := rfl
  constructor <;> omega

/-- A text in the usual form, by the parts of a civil time that it shows. -/
def stamp (year month day hour minute second : Text) : Text :=
  year ++ ('-' : Code) :: (month ++ ('-' : Code) :: (day ++ ('T' : Code) :: (hour ++
    (':' : Code) :: (minute ++ (':' : Code) :: (second ++ [('Z' : Code)])))))

theorem utcText_eq_stamp (c : Civil) :
    c.utcText = stamp (Text.natural c.year) (Text.padded 2 c.month) (Text.padded 2 c.day)
      (Text.padded 2 c.hour) (Text.padded 2 c.minute) (Text.padded 2 c.second) := by
  simp only [utcText, textAfterYear, stamp, List.append_assoc]
  rfl

/-- **The text tells the civil time to the second.** -/
theorem utcText_eq_iff {c c' : Civil} : c.utcText = c'.utcText ↔ c.floor = c'.floor := by
  constructor
  · intro h
    rw [utcText_eq_stamp, utcText_eq_stamp] at h
    -- the year ends at its hyphen, all other parts after two digits
    obtain ⟨hyear, h⟩ := Text.natural_append_inj (by decide) h
    obtain ⟨hmonth, h⟩ := Text.padded_append_inj c.short.month c'.short.month h
    obtain ⟨hday, h⟩ := Text.padded_append_inj c.short.day c'.short.day (List.cons.inj h).2
    obtain ⟨hhour, h⟩ := Text.padded_append_inj c.short.hour c'.short.hour (List.cons.inj h).2
    obtain ⟨hminute, h⟩ :=
      Text.padded_append_inj c.short.minute c'.short.minute (List.cons.inj h).2
    obtain ⟨hsecond, -⟩ :=
      Text.padded_append_inj c.short.second c'.short.second (List.cons.inj h).2
    cases c
    cases c'
    simp_all [floor]
  · intro h
    -- the fraction is not written
    have hfloor : ∀ d : Civil, d.floor.utcText = d.utcText := fun _ => rfl
    rw [← hfloor, h, hfloor]

/-- The usual form of a civil time: a year of four digits, and two for all the rest. -/
def IsStamp (c : Civil) (t : Text) : Prop :=
  ∃ year month day hour minute second : Text, Text.IsDigits 4 c.year year ∧
    Text.IsDigits 2 c.month month ∧ Text.IsDigits 2 c.day day ∧ Text.IsDigits 2 c.hour hour ∧
    Text.IsDigits 2 c.minute minute ∧ Text.IsDigits 2 c.second second ∧
    t = stamp year month day hour minute second

theorem isStamp_utcText {c : Civil} (h : 1000 ≤ c.year) : c.IsStamp c.utcText := by
  have hyear : c.year < Nat.pow 10 4 := by
    have hdate := c.dateExists
    simp only [isDate, Bool.and_eq_true, decide_eq_true_eq] at hdate
    exact Nat.lt_succ_of_le hdate.1.1.1.1
  have hnatural : Text.padded 4 c.year = Text.natural c.year := Text.padded_eq_natural h
  rw [utcText_eq_stamp, ← hnatural]
  exact ⟨_, _, _, _, _, _, Text.isDigits_padded hyear, Text.isDigits_padded c.short.month,
    Text.isDigits_padded c.short.day, Text.isDigits_padded c.short.hour,
    Text.isDigits_padded c.short.minute, Text.isDigits_padded c.short.second, rfl⟩

end Civil

/-! ### Moments and their seconds -/

namespace Moment

/-- The seconds that pass from the first midnight of year 0 in UTC to a moment, rounded down. -/
def wholeSecond (m : Moment) : ℤ := m.instant / 1000000

/-- The civil time in UTC lies at the instant, in a year from 1 on. -/
theorem micros_of_utc {m : Moment} {c : Civil} (h : m.utc = .ok c) :
    (c.micros : ℤ) = m.instant ∧ 1 ≤ c.year := by
  unfold utc civilAt? at h
  split at h
  · next c' hcivil =>
    cases h
    split at hcivil
    · next hpos =>
      obtain ⟨hmicros, hyear⟩ := Option.filter_eq_some_iff.mp hcivil
      rw [Civil.micros_of_ofMicros? hmicros, Int.toNat_of_nonneg hpos]
      exact ⟨rfl, of_decide_eq_true hyear⟩
    · cases hcivil
  · cases h

theorem utcText_eq_ok_iff {m : Moment} {t : Text} :
    m.utcText = .ok t ↔ ∃ c, m.utc = .ok c ∧ c.utcText = t := by
  unfold utcText
  cases m.utc with
  | ok c => simp [Except.map]
  | error failure => simp [Except.map]

theorem exists_utcText_iff (m : Moment) : (∃ t, m.utcText = .ok t) ↔ m.InRange := by
  rw [← m.exists_utc_iff]
  simp only [utcText_eq_ok_iff]
  constructor
  · rintro ⟨t, c, hc, -⟩
    exact ⟨c, hc⟩
  · rintro ⟨c, hc⟩
    exact ⟨_, c, hc, rfl⟩

/-- The second of a moment is that of its civil time in UTC. -/
theorem wholeSecond_of_utc {m : Moment} {c : Civil} (h : m.utc = .ok c) :
    m.wholeSecond = (c.micros / 1000000 : ℕ) := by
  unfold wholeSecond
  rw [← (micros_of_utc h).1]
  rfl

/-- Two moments have one name if they lie in one second. -/
theorem utcText_eq_utcText_iff {m m' : Moment} {t t' : Text} (h : m.utcText = .ok t)
    (h' : m'.utcText = .ok t') : t = t' ↔ m.wholeSecond = m'.wholeSecond := by
  obtain ⟨c, hc, rfl⟩ := utcText_eq_ok_iff.mp h
  obtain ⟨c', hc', rfl⟩ := utcText_eq_ok_iff.mp h'
  rw [Civil.utcText_eq_iff, Civil.floor_eq_floor_iff, wholeSecond_of_utc hc,
    wholeSecond_of_utc hc', Int.ofNat_inj]

/-- The usual form of a civil time in UTC is read back as this time to the second. -/
theorem exists_ofText?_utcText {c : Civil} (hyear : 1000 ≤ c.year) :
    ∃ back : Moment, ofText? c.utcText = some back ∧ back.civil = c.floor ∧
      back.offset = some 0 := by
  have hends : EndsClock ("Z" : Text) := by
    intro c hc
    cases hc
    decide
  have hzone : zone ("Z" : Text) = some (some 0, []) := by decide
  -- with a year of four digits it is the form for facts, less the fraction
  have htext : c.utcText = c.floor.isoText ++ ("Z" : Text) := by
    have hnatural : Text.padded 4 c.year = Text.natural c.year := Text.padded_eq_natural hyear
    have hfraction : c.floor.isoText = Text.padded 4 c.year ++ c.textAfterYear ++ [] := rfl
    rw [hfraction, hnatural, List.append_nil]
    rfl
  have hread := dateAndTime_isoText c.floor hends hzone
  have hfirst : 1 ≤ c.floor.year := le_trans (by decide) hyear
  have hmoment : of? c.floor (some 0) = some ⟨c.floor, some 0, hfirst, by decide⟩ :=
    of?_eq_some (m := ⟨c.floor, some 0, hfirst, by decide⟩) rfl
  refine ⟨⟨c.floor, some 0, hfirst, by decide⟩, ?_, rfl, rfl⟩
  rw [htext]
  simp only [ofText?, whole?, hread, hmoment]

/-- The second of a moment begins at the civil time in UTC without its fraction. -/
theorem instant_eq_of_floor {m back : Moment} {c : Civil} (h : m.utc = .ok c)
    (hcivil : back.civil = c.floor) (hoffset : back.offset = some 0) :
    back.instant = m.wholeSecond * 1000000 := by
  unfold instant
  rw [hcivil, hoffset, Civil.micros_floor, wholeSecond_of_utc h]
  simp

end Moment

/-- **A moment in range has a name, which is that of its second and is read back as this second.**
With a year of four digits in UTC the name has the usual form, and every time field of facts that
holds it is read as the whole second in UTC. -/
theorem utcText_of_moments (m : Moment) :
    ((∃ t, m.utcText = .ok t) ↔ m.InRange) ∧
    (∀ (m' : Moment) (t t' : Text), m.utcText = .ok t → m'.utcText = .ok t' →
      (t = t' ↔ m.wholeSecond = m'.wholeSecond)) ∧
    ∀ c, m.utc = .ok c → (c.micros : ℤ) = m.instant ∧ (1000 ≤ c.year →
      ∃ (t : Text) (back : Moment), m.utcText = .ok t ∧ c.IsStamp t ∧
        Moment.ofText? t = some back ∧ back.offset = some 0 ∧
        back.instant = m.wholeSecond * 1000000 ∧
        ∀ (name : Text) (o : Object), field? name o = some (.str t) →
          optional name Moment.ofJson? o = some (some back)) := by
  refine ⟨m.exists_utcText_iff, fun m' t t' => Moment.utcText_eq_utcText_iff, ?_⟩
  intro c hc
  refine ⟨(Moment.micros_of_utc hc).1, fun hyear => ?_⟩
  obtain ⟨back, hread, hcivil, hoffset⟩ := Moment.exists_ofText?_utcText hyear
  refine ⟨c.utcText, back, Moment.utcText_eq_ok_iff.mpr ⟨c, hc, rfl⟩, Civil.isStamp_utcText hyear,
    hread, hoffset, Moment.instant_eq_of_floor hc hcivil hoffset, ?_⟩
  intro name o hfield
  unfold optional
  rw [hfield]
  exact congrArg (Option.map some) hread

/-- The last microsecond of the year 999, an hour and a microsecond to the west of UTC. -/
example : (Moment.mk ⟨999, 12, 31, 23, 59, 59, 999999, by decide, by decide⟩ (some (-3600000001))
    (by decide) (by decide)).utcText = .ok "1000-01-01T01:00:00Z" := by
  decide

end ValidationReport
