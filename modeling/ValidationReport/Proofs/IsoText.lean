import Mathlib.Data.List.TakeWhile
import ValidationReport.Moment.Reader
import ValidationReport.Proofs.Calendar

/-!
# Moments read back from their text

The text of a moment for facts keeps its civil time to the microsecond and its
offset.  The readers of dates, times and offsets give both back, as long as the
offset is whole minutes: seconds of an offset can be written but not read.  Since
they cannot be read, every moment that comes from facts is of this kind.

## Main definitions

* `Moment.EndsClock` — what may stand after a time of day.
* `Moment.WholeMinutes` — the offset of a moment is whole minutes.

## Main results

* `Text.decimal_padded`, `Text.length_padded` — padded digits have their width and
  denote their number.
* `Moment.dateAndTime_isoText` — the parts of a civil time and an offset are read.
* `Moment.ofText?_isoText` — **a moment of whole minutes is read back from its
  text.**
* `Moment.wholeMinutes_of_ofJson?` — **a moment that is read is of whole minutes.**
-/

namespace ValidationReport

/-! ### Digits -/

namespace Text

/-- The bound of the number of digits does not matter as long as it is large enough. -/
theorem naturalOnto_eq_of_lt : ∀ {fuel fuel' n : Nat} {rest : Text}, n < fuel → n < fuel' →
    naturalOnto fuel n rest = naturalOnto fuel' n rest := by
  intro fuel
  induction fuel with
  | zero => intro fuel' n rest h; omega
  | succ fuel ih =>
    intro fuel' n rest h h'
    obtain ⟨fuel', rfl⟩ := Nat.exists_eq_add_of_lt (Nat.lt_of_le_of_lt (Nat.zero_le n) h')
    rw [Nat.zero_add] at h' ⊢
    simp only [naturalOnto]
    split
    · rfl
    · exact ih (by omega) (by omega)

theorem naturalOnto_append : ∀ (fuel n : Nat) (rest : Text),
    naturalOnto fuel n rest = naturalOnto fuel n [] ++ rest := by
  intro fuel
  induction fuel with
  | zero => intro n rest; rfl
  | succ fuel ih =>
    intro n rest
    simp only [naturalOnto]
    split
    · rfl
    · rw [ih (n / 10) (_ :: rest), ih (n / 10) [_], List.append_assoc]
      rfl

theorem natural_of_lt {n : Nat} (h : n < 10) : natural n = [Code.ofNat (0x30 + n)] := by
  simp only [natural, naturalOnto, if_pos h, Nat.mod_eq_of_lt h]

/-- The last digit stands after the digits of a tenth. -/
theorem natural_of_le {n : Nat} (h : 10 ≤ n) :
    natural n = natural (n / 10) ++ [Code.ofNat (0x30 + n % 10)] := by
  have hstep : natural n = naturalOnto n (n / 10) [Code.ofNat (0x30 + n % 10)] := by
    simp only [natural, naturalOnto, if_neg (Nat.not_lt.mpr h)]
  rw [hstep, naturalOnto_append]
  exact congrArg (· ++ _) (naturalOnto_eq_of_lt (by omega) (by omega))

/-- A number below a power of ten has no more digits than the power. -/
theorem length_natural_le : ∀ {width n : Nat}, n < Nat.pow 10 (width + 1) →
    (natural n).length ≤ width + 1 := by
  intro width
  induction width with
  | zero =>
    intro n h
    rw [natural_of_lt (by simpa using h)]
    rfl
  | succ width ih =>
    intro n h
    rcases Nat.lt_or_ge n 10 with hn | hn
    · rw [natural_of_lt hn]
      exact Nat.le_add_left 1 _
    · rw [natural_of_le hn, List.length_append]
      have htenth : n / 10 < Nat.pow 10 (width + 1) :=
        Nat.div_lt_of_lt_mul (by rw [Nat.mul_comm]; exact h)
      exact Nat.succ_le_succ (ih htenth)

theorem isDigit_of_mem_natural (n : Nat) : ∀ c ∈ natural n, c.isDigit = true := by
  have hdigit : ∀ d < 10, (Code.ofNat (0x30 + d)).isDigit = true := by decide
  induction n using Nat.strong_induction_on with
  | _ n ih =>
    intro c hc
    rcases Nat.lt_or_ge n 10 with hn | hn
    · rw [natural_of_lt hn, List.mem_singleton] at hc
      rw [hc]
      exact hdigit n hn
    · rw [natural_of_le hn, List.mem_append, List.mem_singleton] at hc
      rcases hc with hc | rfl
      · exact ih (n / 10) (by omega) c hc
      · exact hdigit (n % 10) (by omega)

/-- Digits denote the number they were written for.  The induction takes the last digit off. -/
theorem decimal_natural (n : Nat) : Json.Token.decimal (natural n) = n := by
  have hval : ∀ d < 10, (Code.ofNat (0x30 + d)).val - 0x30 = d := by decide
  induction n using Nat.strong_induction_on with
  | _ n ih =>
    rcases Nat.lt_or_ge n 10 with hn | hn
    · rw [natural_of_lt hn]
      show 10 * 0 + ((Code.ofNat (0x30 + n)).val - 0x30) = n
      rw [hval n hn]
      omega
    · rw [natural_of_le hn, Json.Token.decimal, List.foldl_append]
      show 10 * Json.Token.decimal (natural (n / 10)) + _ = n
      rw [ih (n / 10) (by omega), hval (n % 10) (by omega)]
      omega

/-! ### Padded digits -/

theorem isDigit_of_mem_padded {width n : Nat} {c : Code} (h : c ∈ padded width n) :
    c.isDigit = true := by
  rcases List.mem_append.mp h with hzero | hdigit
  · rw [List.eq_of_mem_replicate hzero]
    decide
  · exact isDigit_of_mem_natural n c hdigit

theorem decimal_padded (width n : Nat) : Json.Token.decimal (padded width n) = n := by
  have hzeros : ∀ count : Nat, List.foldl (fun n (c : Code) => 10 * n + (c.val - 0x30)) 0
      (List.replicate count ('0' : Code)) = 0 := by
    intro count
    induction count with
    | zero => rfl
    | succ count ih => exact ih
  unfold padded Json.Token.decimal
  rw [List.foldl_append, hzeros]
  exact decimal_natural n

theorem length_padded {width n : Nat} (h : n < Nat.pow 10 (width + 1)) :
    (padded (width + 1) n).length = width + 1 := by
  have hle := length_natural_le h
  unfold padded
  rw [List.length_append, List.length_replicate]
  omega

end Text

namespace Moment

/-! ### Readers in sequence -/

section Scanner

variable {α β : Type} {x : Scanner α} {f : α → Scanner β} {t rest : Text}

theorem bind_apply {a : α} (h : x t = some (a, rest)) : (x >>= f) t = f a rest := by
  show (x t).bind _ = _
  rw [h]
  rfl

theorem bind_eq_some_iff {b : β} :
    (x >>= f) t = some (b, rest) ↔ ∃ a s, x t = some (a, s) ∧ f a s = some (b, rest) := by
  show (x t).bind _ = some (b, rest) ↔ _
  simp only [Option.bind_eq_some_iff, Prod.exists]

end Scanner

theorem one_cons {p : Code → Bool} {c : Code} (h : p c = true) (rest : Text) :
    one p (c :: rest) = some (c, rest) := by
  simp only [one, if_pos h]

theorem exactly_cons (c : Char) (rest : Text) : exactly c ((c : Code) :: rest) = some ((), rest) :=
  bind_apply (one_cons (beq_self_eq_true _) rest)

theorem maybe_cons_self (c : Code) (rest : Text) :
    maybe (· == c) (c :: rest) = some (true, rest) := by
  simp only [maybe, beq_self_eq_true, if_true]

theorem maybe_cons {p : Code → Bool} {c : Code} (h : p c = true) (rest : Text) :
    maybe p (c :: rest) = some (true, rest) := by
  simp only [maybe, if_pos h]

theorem maybe_of_head {p : Code → Bool} {t : Text} (h : ∀ c ∈ t.head?, p c = false) :
    maybe p t = some (false, t) := by
  cases t with
  | nil => rfl
  | cons c rest => simp only [maybe, h c rfl, Bool.false_eq_true, if_false]

/-- As many digits are taken as are asked for, and they are read from the left. -/
theorem number_append : ∀ (digits : Text) (n : Nat) (rest : Text),
    (∀ c ∈ digits, c.isDigit = true) → number digits.length n (digits ++ rest) =
      some (digits.foldl (fun n c => 10 * n + (c.val - 0x30)) n, rest) := by
  intro digits
  induction digits with
  | nil => intro n rest _; rfl
  | cons c digits ih =>
    intro n rest h
    rw [List.length_cons, number, List.cons_append, bind_apply (one_cons (h c (by simp)) _)]
    exact ih _ rest fun d hd => h d (List.mem_cons_of_mem c hd)

theorem number_padded {width n : Nat} (h : n < Nat.pow 10 (width + 1)) (rest : Text) :
    number (width + 1) 0 (Text.padded (width + 1) n ++ rest) = some (n, rest) := by
  have hread := number_append (Text.padded (width + 1) n) 0 rest
    fun c hc => Text.isDigit_of_mem_padded hc
  rw [Text.length_padded h] at hread
  rw [hread]
  exact congrArg (fun n => some (n, rest)) (Text.decimal_padded _ n)

/-! ### Dates, times and offsets read back -/

/-- A text that may stand after a time of day: it continues neither the second nor its fraction. -/
def EndsClock (z : Text) : Prop :=
  ∀ c ∈ z.head?, c.isDigit = false ∧ (c == ('.' : Code) || c == (',' : Code)) = false

theorem date_append {year month day : Nat} (h : isDate year month day = true) (rest : Text) :
    date (Text.padded 4 year ++ ('-' : Code) :: (Text.padded 2 month ++ ('-' : Code) ::
      (Text.padded 2 day ++ rest))) = some ((year, month, day), rest) := by
  have hlength : monthLength year month ≤ 31 := by
    unfold monthLength
    split <;> try split
    all_goals omega
  simp only [isDate, Bool.and_eq_true, decide_eq_true_eq] at h
  obtain ⟨⟨⟨⟨hyear, -⟩, hmonth⟩, -⟩, hday⟩ := h
  have hyear : year < Nat.pow 10 4 := Nat.lt_succ_of_le hyear
  have hmonth : month < Nat.pow 10 2 := Nat.lt_of_le_of_lt hmonth (by decide)
  have hday : day < Nat.pow 10 2 :=
    Nat.lt_of_le_of_lt hday (Nat.lt_of_le_of_lt hlength (by decide))
  rw [date, bind_apply (number_padded hyear _), bind_apply (exactly_cons '-' _),
    bind_apply (number_padded hmonth _), bind_apply (exactly_cons '-' _),
    bind_apply (number_padded hday _)]
  rfl

theorem microsOf_padded {micro : Nat} (h : micro < 1000000) :
    microsOf (Text.padded 6 micro) = micro := by
  have hlength : (Text.padded 6 micro).length = 6 := Text.length_padded h
  rw [microsOf, List.take_of_length_le (Nat.le_of_eq hlength), hlength, Text.decimal_padded]
  exact Nat.mul_one micro

theorem fraction_append {micro : Nat} (h : micro < 1000000) {z : Text} (hz : EndsClock z) :
    fraction (Text.padded 6 micro ++ z) = some (micro, z) := by
  have hdigits : ∀ c ∈ Text.padded 6 micro, c.isDigit = true :=
    fun c hc => Text.isDigit_of_mem_padded hc
  have htake : z.takeWhile Code.isDigit = [] := by
    cases z with
    | nil => rfl
    | cons c rest => exact List.takeWhile_cons_of_neg (by simp [(hz c rfl).1])
  have hdrop : z.dropWhile Code.isDigit = z := by
    cases z with
    | nil => rfl
    | cons c rest => exact List.dropWhile_cons_of_neg (by simp [(hz c rfl).1])
  have hsome : (Text.padded 6 micro).isEmpty = false := by
    have hlength : (Text.padded 6 micro).length = 6 := Text.length_padded h
    cases hpad : Text.padded 6 micro with
    | nil => rw [hpad] at hlength; cases hlength
    | cons c rest => rfl
  rw [fraction, List.takeWhile_append_of_pos hdigits, List.dropWhile_append_of_pos hdigits, htake,
    hdrop, List.append_nil, hsome, microsOf_padded h]
  rfl

theorem clock_append {hour minute second micro : Nat}
    (h : isClock hour minute second micro = true) {z : Text} (hz : EndsClock z) :
    clock (Text.padded 2 hour ++ (':' : Code) :: (Text.padded 2 minute ++ (':' : Code) ::
      (Text.padded 2 second ++ (fractionText micro ++ z)))) =
        some ((hour, minute, second, micro), z) := by
  simp only [isClock, Bool.and_eq_true, decide_eq_true_eq] at h
  obtain ⟨⟨⟨hhour, hminute⟩, hsecond⟩, hmicro⟩ := h
  have hhour : hour < Nat.pow 10 2 := Nat.lt_trans hhour (by decide)
  have hminute : minute < Nat.pow 10 2 := Nat.lt_trans hminute (by decide)
  have hsecond : second < Nat.pow 10 2 := Nat.lt_trans hsecond (by decide)
  rw [clock, bind_apply (number_padded hhour _), bind_apply (exactly_cons ':' _),
    bind_apply (number_padded hminute _), bind_apply (maybe_cons_self _ _), if_pos rfl,
    bind_apply (number_padded hsecond _)]
  -- a fraction of zero is not written, and is what a missing fraction is read as
  unfold fractionText
  split
  · next hnone =>
    rw [List.nil_append, bind_apply (maybe_of_head fun c hc => (hz c hc).2), hnone]
    rfl
  · next hsome =>
    rw [show ("." : Text) = [('.' : Code)] from rfl, List.singleton_append, List.cons_append,
      bind_apply (maybe_cons (by decide) _), if_pos rfl, bind_apply (fraction_append hmicro hz)]
    rfl

/-- Either sign is read by the same steps, and only the last of them looks at the sign. -/
theorem zone_cons {c : Code} (hletter : (c == ('Z' : Code) || c == ('z' : Code)) = false)
    (hsign : (c == ('+' : Code) || c == ('-' : Code) || c.val == 0x2212) = true)
    {hours minutes : Nat} (hhours : hours < 24) (hminutes : minutes < 60) :
    zone (c :: (Text.padded 2 hours ++ (':' : Code) :: Text.padded 2 minutes)) =
      some (some (Binary64.signed (c != ('+' : Code)) (hours * 3600 + minutes * 60)), []) := by
  have hsigned : ∀ rest, sign (c :: rest) = some (c != ('+' : Code), rest) :=
    fun rest => bind_apply (one_cons hsign rest)
  have hhour : hours < Nat.pow 10 2 := Nat.lt_trans hhours (by decide)
  have hminute : minutes < Nat.pow 10 2 := Nat.lt_trans hminutes (by decide)
  have hlast := number_padded hminute []
  rw [List.append_nil] at hlast
  rw [zone, List.isEmpty_cons, if_neg Bool.false_ne_true,
    bind_apply (maybe_of_head (by simpa using hletter)), if_neg Bool.false_ne_true,
    bind_apply (hsigned _), bind_apply (number_padded hhour _),
    bind_apply (maybe_cons_self _ _), bind_apply hlast, if_neg (Nat.not_le.mpr hminutes)]
  rfl

/-- An offset of whole minutes is read back from its text, in seconds. -/
theorem zone_offsetText {micros : Int} (h : isOffset micros = true)
    (hwhole : micros % 60000000 = 0) :
    zone (offsetText micros) = some (some (micros / 1000000), []) := by
  have hshort : micros.natAbs < 86400000000 := of_decide_eq_true h
  have hminutes : micros.natAbs % 60000000 = 0 := by omega
  have hhour : micros.natAbs / 3600000000 < 24 := by omega
  have hminute : micros.natAbs / 60000000 % 60 < 60 := Nat.mod_lt _ (by decide)
  have hsum : micros.natAbs / 3600000000 * 3600 + micros.natAbs / 60000000 % 60 * 60 =
      micros.natAbs / 1000000 := by
    omega
  have htext : ∀ c : Code, ([c] : Text) ++ Text.padded 2 (micros.natAbs / 3600000000) ++
      (":" : Text) ++ Text.padded 2 (micros.natAbs / 60000000 % 60) ++ [] = c ::
        (Text.padded 2 (micros.natAbs / 3600000000) ++
          (':' : Code) :: Text.padded 2 (micros.natAbs / 60000000 % 60)) := by
    intro c
    simp only [List.append_nil, List.append_assoc]
    rfl
  simp only [offsetText, if_pos hminutes]
  split
  · next hwest =>
    rw [show ("-" : Text) = [('-' : Code)] from rfl, htext,
      zone_cons (by decide) (by decide) hhour hminute, hsum]
    exact congrArg (fun i => some (some i, []))
      (show -((micros.natAbs / 1000000 : Nat) : Int) = micros / 1000000 by omega)
  · next heast =>
    rw [show ("+" : Text) = [('+' : Code)] from rfl, htext,
      zone_cons (by decide) (by decide) hhour hminute, hsum]
    exact congrArg (fun i => some (some i, []))
      (show ((micros.natAbs / 1000000 : Nat) : Int) = micros / 1000000 by omega)

theorem endsClock_offsetText (micros : Int) : EndsClock (offsetText micros) := by
  unfold offsetText
  intro c hc
  dsimp only at hc
  split at hc
  · cases hc
    decide
  · cases hc
    decide

/-- A civil time followed by an offset is read as these two. -/
theorem dateAndTime_isoText (c : Civil) {z : Text} {seconds : Option Int}
    (hz : EndsClock z) (hzone : zone z = some (seconds, [])) :
    dateAndTime (c.isoText ++ z) = some (of? c seconds, []) := by
  have htext : c.isoText ++ z = Text.padded 4 c.year ++ ('-' : Code) :: (Text.padded 2 c.month ++
      ('-' : Code) :: (Text.padded 2 c.day ++ ('T' : Code) :: (Text.padded 2 c.hour ++
        (':' : Code) :: (Text.padded 2 c.minute ++ (':' : Code) :: (Text.padded 2 c.second ++
          (fractionText c.micro ++ z)))))) := by
    simp only [Civil.isoText, Civil.textAfterYear, List.append_assoc]
    rfl
  have hparts : Civil.ofParts? c.year c.month c.day c.hour c.minute c.second c.micro = some c := by
    simp only [Civil.ofParts?, dif_pos c.dateExists, dif_pos c.clockExists]
  rw [htext, dateAndTime, bind_apply (date_append c.dateExists _)]
  dsimp only
  rw [bind_apply (one_cons (by decide) _), bind_apply (clock_append c.clockExists hz)]
  dsimp only
  rw [bind_apply hzone, hparts]
  rfl

/-! ### Moments read back -/

/-- The offset of a moment, if there is one, is whole minutes. -/
def WholeMinutes (m : Moment) : Prop := ∀ micros ∈ m.offset, micros % 60000000 = 0

/-- A moment is that of its civil time at its offset, if this is whole seconds. -/
theorem of?_eq_some {m : Moment} {seconds : Option Int}
    (h : m.offset = seconds.map (· * 1000000)) : of? m.civil seconds = some m := by
  simp only [of?, ← h, dif_pos m.hasYear, dif_pos m.offsetExists]

/-- The text of a moment for facts keeps everything that can be read: the offset is all that can
have a part which no text has. -/
theorem ofText?_isoText {m : Moment} (h : m.WholeMinutes) : ofText? m.isoText = some m := by
  -- dates with a time are tried before numbers and before dates alone
  have hread : dateAndTime m.isoText = some (some m, []) := by
    unfold isoText
    cases hoffset : m.offset with
    | none =>
      rw [Option.elim_none, dateAndTime_isoText m.civil (fun c hc => by cases hc) rfl,
        of?_eq_some hoffset]
    | some micros =>
      have hshort : isOffset micros = true := by simpa [hoffset] using m.offsetExists
      have hminutes : micros % 60000000 = 0 := h micros hoffset
      -- whole minutes are whole seconds, so nothing is lost by counting in seconds
      have hseconds : m.offset = (some (micros / 1000000)).map (· * 1000000) := by
        rw [hoffset, Option.map_some, Option.some.injEq]
        omega
      rw [Option.elim_some, dateAndTime_isoText m.civil (endsClock_offsetText micros)
        (zone_offsetText hshort hminutes), of?_eq_some hseconds]
  simp only [ofText?, whole?, hread]

/-! ### Moments that are read -/

theorem offset_of_of? {civil : Civil} {seconds : Option Int} {m : Moment}
    (h : of? civil seconds = some m) : m.offset = seconds.map (· * 1000000) := by
  unfold of? at h
  dsimp only at h
  split at h
  · split at h
    · cases h
      rfl
    · cases h
  · cases h

/-- A moment has an offset of whole minutes if it was made with one. -/
theorem wholeMinutes_of_of? {civil : Civil} {offset : Option Int} {m : Moment}
    (h : of? civil offset = some m) (hwhole : ∀ seconds ∈ offset, seconds % 60 = 0) :
    m.WholeMinutes := by
  rw [WholeMinutes, offset_of_of? h]
  intro micros hmicros
  obtain ⟨seconds, hseconds, rfl⟩ := Option.map_eq_some_iff.mp hmicros
  have hminutes := hwhole seconds hseconds
  omega

theorem wholeMinutes_of_ofInstant? {instant : Int} {m : Moment}
    (h : ofInstant? instant = some m) : m.WholeMinutes := by
  obtain ⟨civil, -, h⟩ := Option.bind_eq_some_iff.mp h
  refine wholeMinutes_of_of? h ?_
  intro seconds hseconds
  cases hseconds
  rfl

theorem wholeMinutes_of_ofFloat? {x : Binary64} {m : Moment} (h : ofFloat? x = some m) :
    m.WholeMinutes := by
  unfold ofFloat? at h
  split at h
  · split at h
    · exact wholeMinutes_of_ofInstant? h
    · exact wholeMinutes_of_ofInstant? h
  · cases h

theorem wholeMinutes_of_ofNumber? {t : Text} {m : Moment} (h : ofNumber? t = some m) :
    m.WholeMinutes := by
  unfold ofNumber? at h
  dsimp only at h
  split at h
  · split at h
    · cases h
    · exact wholeMinutes_of_ofInstant? h
  · split at h
    · obtain ⟨exponent, -, h⟩ := Option.bind_eq_some_iff.mp h
      exact wholeMinutes_of_ofFloat? h
    · cases h

/-- An offset is written with hours and minutes only. -/
theorem wholeMinutes_of_zone {t rest : Text} {offset : Option Int}
    (h : zone t = some (offset, rest)) : ∀ seconds ∈ offset, seconds % 60 = 0 := by
  unfold zone at h
  split at h
  · cases h
    intro seconds hseconds
    cases hseconds
  · obtain ⟨letter, s, -, h⟩ := bind_eq_some_iff.mp h
    split at h
    · cases h
      intro seconds hseconds
      cases hseconds
      rfl
    · obtain ⟨west, s, -, h⟩ := bind_eq_some_iff.mp h
      obtain ⟨hours, s, -, h⟩ := bind_eq_some_iff.mp h
      obtain ⟨colon, s, -, h⟩ := bind_eq_some_iff.mp h
      obtain ⟨minutes, s, -, h⟩ := bind_eq_some_iff.mp h
      split at h
      · cases h
      · cases h
        intro seconds hseconds
        cases hseconds
        cases west <;> simp only [Binary64.signed] <;> omega

theorem wholeMinutes_of_dateAndTime {t rest : Text} {m : Moment}
    (h : dateAndTime t = some (some m, rest)) : m.WholeMinutes := by
  obtain ⟨⟨year, month, day⟩, s, -, h⟩ := bind_eq_some_iff.mp h
  obtain ⟨separator, s, -, h⟩ := bind_eq_some_iff.mp h
  obtain ⟨⟨hour, minute, second, micro⟩, s, -, h⟩ := bind_eq_some_iff.mp h
  obtain ⟨offset, s, hzone, h⟩ := bind_eq_some_iff.mp h
  have hm := congrArg Prod.fst (Option.some.inj h)
  obtain ⟨civil, -, hm⟩ := Option.bind_eq_some_iff.mp hm
  exact wholeMinutes_of_of? hm (wholeMinutes_of_zone hzone)

theorem wholeMinutes_of_dateAlone {t rest : Text} {m : Moment}
    (h : dateAlone t = some (some m, rest)) : m.WholeMinutes := by
  obtain ⟨⟨year, month, day⟩, s, -, h⟩ := bind_eq_some_iff.mp h
  have hm := congrArg Prod.fst (Option.some.inj h)
  obtain ⟨civil, -, hm⟩ := Option.bind_eq_some_iff.mp hm
  refine wholeMinutes_of_of? hm ?_
  intro seconds hseconds
  cases hseconds

theorem whole?_eq_some {scanner : Scanner (Option Moment)} {t : Text} {m : Moment}
    (h : whole? scanner t = some m) : scanner t = some (some m, []) := by
  unfold whole? at h
  split at h
  · next hscan => rw [hscan, h]
  · cases h

theorem wholeMinutes_of_ofText? {t : Text} {m : Moment} (h : ofText? t = some m) :
    m.WholeMinutes := by
  unfold ofText? at h
  split at h
  · next hread =>
    cases h
    exact wholeMinutes_of_dateAndTime (whole?_eq_some hread)
  · split at h
    · next hread =>
      cases h
      exact wholeMinutes_of_ofNumber? hread
    · exact wholeMinutes_of_dateAlone (whole?_eq_some h)

/-- Whatever is read as a moment has an offset of whole minutes, if it has one. -/
theorem wholeMinutes_of_ofJson? {j : Json} {m : Moment} (h : ofJson? j = some m) :
    m.WholeMinutes := by
  unfold ofJson? at h
  split at h
  · exact wholeMinutes_of_ofText? h
  · exact wholeMinutes_of_ofInstant? h
  · exact wholeMinutes_of_ofFloat? h
  · cases h

end Moment

end ValidationReport
