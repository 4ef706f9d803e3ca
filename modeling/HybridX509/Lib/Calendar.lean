import Mathlib.Algebra.Order.Ring.Int
import Mathlib.Data.List.Basic

/-! # The proleptic Gregorian calendar

Dates and times of day for counts of seconds since 1970, in UTC and without leap
seconds. A year is counted from March, so that the leap day is its last: a cycle of
400 such years has 146097 days, a century in it 36524, and four years 1461.
-/

namespace HybridX509.Lib.Calendar

/-- A date and a time of day. -/
structure Civil where
  year : Int
  month : Nat
  day : Nat
  hour : Nat
  minute : Nat
  second : Nat
  deriving Repr, DecidableEq

/-- The fields a clock can show; `:60` is the second after `:59`. -/
def Civil.InRange (time : Civil) : Prop :=
  (1 ≤ time.month ∧ time.month ≤ 12) ∧ (1 ≤ time.day ∧ time.day ≤ 31) ∧ time.hour ≤ 23 ∧
    time.minute ≤ 59 ∧ time.second ≤ 60

instance (time : Civil) : Decidable time.InRange :=
  inferInstanceAs (Decidable ((1 ≤ time.month ∧ time.month ≤ 12) ∧
    (1 ≤ time.day ∧ time.day ≤ 31) ∧ time.hour ≤ 23 ∧ time.minute ≤ 59 ∧ time.second ≤ 60))

/-- The days from 1970-01-01 to a date. -/
def daysFromDate (year : Int) (month day : Nat) : Int :=
  let y := if month ≤ 2 then year - 1 else year
  let m := if month ≤ 2 then month + 9 else month - 3
  365 * y + y / 4 - y / 100 + y / 400 + (153 * m + 2) / 5 + day - 719469

def Civil.toSeconds (time : Civil) : Int :=
  86400 * daysFromDate time.year time.month time.day + 3600 * time.hour + 60 * time.minute
    + time.second

/-- A day by the year that begins in March, and the day of that year. -/
def marchYear (days : Int) : Int × Int :=
  let z := days + 719468
  let cycle := z / 146097
  let ofCycle := z % 146097
  let century := min (ofCycle / 36524) 3
  let ofCentury := ofCycle - 36524 * century
  let four := ofCentury / 1461
  let ofFour := ofCentury - 1461 * four
  let year := min (ofFour / 365) 3
  (400 * cycle + 100 * century + 4 * four + year, ofFour - 365 * year)

/-- The month since March and the day of the month, of a day of the year. -/
def marchMonth (dayOfYear : Int) : Int × Int :=
  let month := (5 * dayOfYear + 2) / 153
  (month, dayOfYear - (153 * month + 2) / 5 + 1)

def fromSeconds (seconds : Int) : Civil :=
  let year := (marchYear (seconds / 86400)).1
  let month := (marchMonth (marchYear (seconds / 86400)).2).1
  let day := (marchMonth (marchYear (seconds / 86400)).2).2
  { year := if month < 10 then year else year + 1
    month := (if month < 10 then month + 3 else month - 9).toNat
    day := day.toNat
    hour := (seconds % 86400 / 3600).toNat
    minute := (seconds % 3600 / 60).toNat
    second := (seconds % 60).toNat }

example : fromSeconds 951782400 = ⟨2000, 2, 29, 0, 0, 0⟩ := by decide
example : fromSeconds (-1) = ⟨1969, 12, 31, 23, 59, 59⟩ := by decide

/-! ## Round trip -/

theorem year_cycles (cycle : Int) {century four year : Int} (centuries : 0 ≤ century ∧ century ≤ 3)
    (fours : 0 ≤ four ∧ four ≤ 24) (years : 0 ≤ year ∧ year ≤ 3) :
    (400 * cycle + 100 * century + 4 * four + year) / 400 = cycle ∧
      (400 * cycle + 100 * century + 4 * four + year) / 100 = 4 * cycle + century ∧
      (400 * cycle + 100 * century + 4 * four + year) / 4 =
        100 * cycle + 25 * century + four := by
  omega

theorem marchYear_spec (days : Int) :
    365 * (marchYear days).1 + (marchYear days).1 / 4 - (marchYear days).1 / 100
        + (marchYear days).1 / 400 + (marchYear days).2 = days + 719468 ∧
      0 ≤ (marchYear days).2 ∧ (marchYear days).2 ≤ 365 := by
  simp only [marchYear]
  generalize same : days + 719468 = z
  generalize century : min (z % 146097 / 36524) 3 = k
  have centuries : 0 ≤ k ∧ k ≤ 3 := by omega
  have ofCentury : 0 ≤ z % 146097 - 36524 * k ∧ z % 146097 - 36524 * k ≤ 36524 := by omega
  generalize rest : z % 146097 - 36524 * k = r at ofCentury ⊢
  have fours : 0 ≤ r / 1461 ∧ r / 1461 ≤ 24 := by omega
  generalize year : min ((r - 1461 * (r / 1461)) / 365) 3 = a
  have years : 0 ≤ a ∧ a ≤ 3 := by omega
  obtain ⟨cycles, centuryCount, fourCount⟩ := year_cycles (z / 146097) centuries fours years
  rw [cycles, centuryCount, fourCount]
  omega

theorem marchMonth_spec {dayOfYear : Int} (first : 0 ≤ dayOfYear) (last : dayOfYear ≤ 365) :
    (153 * (marchMonth dayOfYear).1 + 2) / 5 + (marchMonth dayOfYear).2 = dayOfYear + 1 ∧
      0 ≤ (marchMonth dayOfYear).1 ∧ (marchMonth dayOfYear).1 ≤ 11 ∧
      1 ≤ (marchMonth dayOfYear).2 ∧ (marchMonth dayOfYear).2 ≤ 31 := by
  simp only [marchMonth]
  omega

theorem inRange_fromSeconds (seconds : Int) :
    (fromSeconds seconds).InRange ∧ (fromSeconds seconds).second ≤ 59 := by
  obtain ⟨-, first, last⟩ := marchYear_spec (seconds / 86400)
  obtain ⟨-, low, high, dayLow, dayHigh⟩ := marchMonth_spec first last
  simp only [Civil.InRange, fromSeconds]
  omega

theorem daysFromDate_march {year month day : Int} (low : 0 ≤ month) (high : month ≤ 11)
    (dayLow : 1 ≤ day) :
    daysFromDate (if month < 10 then year else year + 1)
        (if month < 10 then month + 3 else month - 9).toNat day.toNat =
      365 * year + year / 4 - year / 100 + year / 400 + (153 * month + 2) / 5 + day - 719469 := by
  by_cases early : month < 10
  · have notWinter : ¬ (month + 3).toNat ≤ 2 := by omega
    simp only [daysFromDate, early, if_true, notWinter, if_false]
    omega
  · have winter : (month - 9).toNat ≤ 2 := by omega
    simp only [daysFromDate, early, if_false, winter, if_true]
    omega

theorem daysFromDate_fromSeconds (seconds : Int) :
    daysFromDate (fromSeconds seconds).year (fromSeconds seconds).month (fromSeconds seconds).day =
      seconds / 86400 := by
  obtain ⟨days, first, last⟩ := marchYear_spec (seconds / 86400)
  obtain ⟨dayOfYear, low, high, dayLow, -⟩ := marchMonth_spec first last
  refine (daysFromDate_march low high dayLow).trans ?_
  omega

theorem toSeconds_fromSeconds (seconds : Int) : (fromSeconds seconds).toSeconds = seconds := by
  rw [Civil.toSeconds, daysFromDate_fromSeconds]
  simp only [fromSeconds]
  omega

theorem daysFromDate_strictMono {year year' : Int} (later : year < year') (month day : Nat) :
    daysFromDate year month day < daysFromDate year' month day := by
  simp only [daysFromDate]
  split <;> omega

/-! ## Texts -/

/-- A number of at most two digits, padded. -/
def twoDigits (n : Nat) : List Char := [Nat.digitChar (n / 10), Nat.digitChar (n % 10)]

/-- A year, as `%Y` prints it: with a sign when four digits do not hold it. -/
def yearText (year : Int) : List Char :=
  if 0 ≤ year ∧ year ≤ 9999 then twoDigits (year.toNat / 100) ++ twoDigits (year.toNat % 100)
  else
    let digits := Nat.toDigits 10 year.natAbs
    (if year < 0 then '-' else '+') :: List.replicate (4 - digits.length) '0' ++ digits

def readDigits (chars : List Char) : Option Nat :=
  if chars ≠ [] ∧ chars.all Char.isDigit then some (Nat.ofDigitChars 10 chars 0) else none

/-- A count of seconds in decimal. -/
def readSeconds (text : String) : Option Int :=
  match text.toList with
  | '-' :: digits => (readDigits digits).map fun n => -(n : Int)
  | digits => (readDigits digits).map Int.ofNat

/-- The seconds of a date and time that were read. -/
def checked (time : Civil) : Option Int := if time.InRange then some time.toSeconds else none

/-- `YYYY-MM-DD hh:mm:ss`. -/
def isoText (time : Civil) : String :=
  .ofList (yearText time.year ++ '-' :: twoDigits time.month ++ '-' :: twoDigits time.day
    ++ ' ' :: twoDigits time.hour ++ ':' :: twoDigits time.minute ++ ':' :: twoDigits time.second)

def readIso (text : String) : Option Int :=
  match text.toList with
  | [y₁, y₂, y₃, y₄, '-', m₁, m₂, '-', d₁, d₂, ' ', h₁, h₂, ':', n₁, n₂, ':', s₁, s₂] => do
      let year ← readDigits [y₁, y₂, y₃, y₄]
      let month ← readDigits [m₁, m₂]
      let day ← readDigits [d₁, d₂]
      let hour ← readDigits [h₁, h₂]
      let minute ← readDigits [n₁, n₂]
      let second ← readDigits [s₁, s₂]
      checked ⟨year, month, day, hour, minute, second⟩
  | _ => none

/-- `YYMMDDhhmmZ`. -/
def utcTimeText (time : Civil) : String :=
  .ofList (twoDigits (time.year % 100).toNat ++ twoDigits time.month ++ twoDigits time.day
    ++ twoDigits time.hour ++ twoDigits time.minute ++ ['Z'])

/-- Years from 50 on are in the twentieth century. -/
def pivotYear (year : Nat) : Int := if 50 ≤ year then 1900 + year else 2000 + year

def readUtcTime (text : String) : Option Int :=
  match text.toList with
  | [y₁, y₂, m₁, m₂, d₁, d₂, h₁, h₂, n₁, n₂, 'Z'] => do
      let year ← readDigits [y₁, y₂]
      let month ← readDigits [m₁, m₂]
      let day ← readDigits [d₁, d₂]
      let hour ← readDigits [h₁, h₂]
      let minute ← readDigits [n₁, n₂]
      checked ⟨pivotYear year, month, day, hour, minute, 0⟩
  | _ => none

example : readIso (isoText (fromSeconds 1781913600)) = some 1781913600 := by decide +kernel
example : readUtcTime (utcTimeText (fromSeconds 2556144000)) = some (-599616000) := by decide +kernel

theorem readDigits_two {n : Nat} (small : n < 100) : readDigits (twoDigits n) = some n := by
  have each : ∀ n < 100, readDigits (twoDigits n) = some n := by decide
  exact each n small

theorem readDigits_append {front back : List Char} {n m : Nat} (first : readDigits front = some n)
    (second : readDigits back = some m) :
    readDigits (front ++ back) = some (10 ^ back.length * n + m) := by
  simp only [readDigits, Option.ite_none_right_eq_some, Option.some.injEq] at first second
  obtain ⟨⟨some, frontDigits⟩, rfl⟩ := first
  obtain ⟨⟨-, backDigits⟩, rfl⟩ := second
  have digits : front ++ back ≠ [] ∧ (front ++ back).all Char.isDigit := by
    simp [some, frontDigits, backDigits]
  rw [readDigits, if_pos digits, Nat.ofDigitChars_append, Nat.ofDigitChars_eq_ofDigitChars_zero]

theorem readDigits_toDigits (n : Nat) : readDigits (Nat.toDigits 10 n) = some n := by
  have digits : Nat.toDigits 10 n ≠ [] ∧ (Nat.toDigits 10 n).all Char.isDigit := by
    refine ⟨Nat.toDigits_ne_nil, List.all_eq_true.mpr ?_⟩
    intro c member
    exact Nat.isDigit_of_mem_toDigits (by decide) (by decide) member
  rw [readDigits, if_pos digits, Nat.ofDigitChars_ten_toDigits]

theorem readSeconds_repr (seconds : Int) : readSeconds seconds.repr = some seconds := by
  cases seconds with
  | ofNat n =>
      have text : (Int.ofNat n).repr.toList = Nat.toDigits 10 n := by
        rw [Int.repr, Nat.repr_eq_ofList_toDigits, String.toList_ofList]
      rw [readSeconds, text]
      split
      · next digits same =>
          have digit : '-'.isDigit = true :=
            @Nat.isDigit_of_mem_toDigits 10 n '-' (by decide) (by decide)
              (same ▸ List.mem_cons_self)
          exact absurd digit (by decide)
      · rw [readDigits_toDigits]
        rfl
  | negSucc n =>
      have text : (Int.negSucc n).repr.toList = '-' :: Nat.toDigits 10 (n + 1) := by
        simp only [Int.repr, Nat.repr_eq_ofList_toDigits, String.toList_append,
          String.toList_ofList, Nat.succ_eq_add_one]
        rfl
      simp only [readSeconds, text, readDigits_toDigits]
      rfl

theorem readDigits_year {year : Int} (low : 0 ≤ year) (high : year ≤ 9999) :
    readDigits (yearText year) = some year.toNat := by
  rw [yearText, if_pos ⟨low, high⟩,
    readDigits_append (readDigits_two (by omega)) (readDigits_two (by omega))]
  simp only [twoDigits, List.length_cons, List.length_nil, Option.some.injEq]
  omega

/-- A date whose year has four digits is read back. -/
theorem readIso_isoText {time : Civil} (inRange : time.InRange) (low : 0 ≤ time.year)
    (high : time.year ≤ 9999) : readIso (isoText time) = some time.toSeconds := by
  have year := readDigits_year low high
  obtain ⟨months, days, hours, minutes, seconds⟩ := id inRange
  have month := @readDigits_two time.month (by omega)
  have day := @readDigits_two time.day (by omega)
  have hour := @readDigits_two time.hour (by omega)
  have minute := @readDigits_two time.minute (by omega)
  have second := @readDigits_two time.second (by omega)
  rw [yearText, if_pos ⟨low, high⟩] at year
  simp only [twoDigits, List.cons_append, List.nil_append] at year month day hour minute second
  simp only [readIso, isoText, yearText, low, high, and_self, if_true, twoDigits,
    String.toList_ofList, List.cons_append, List.nil_append, year, month, day, hour, minute, second,
    Option.bind_eq_bind, Option.bind_some, checked, Int.toNat_of_nonneg low, inRange]

/-- Any other year is longer than the format. -/
theorem readIso_isoText_none {time : Civil} (outside : ¬ (0 ≤ time.year ∧ time.year ≤ 9999)) :
    readIso (isoText time) = none := by
  have long : (isoText time).toList.length ≠ 19 := by
    simp only [isoText, String.toList_ofList, yearText, outside, if_false, twoDigits,
      List.length_append, List.length_cons, List.length_replicate, List.length_nil]
    omega
  rw [readIso]
  split
  · next same => exact absurd (by rw [same]; rfl) long
  · rfl

theorem readUtcTime_utcTimeText {time : Civil} (inRange : time.InRange) :
    readUtcTime (utcTimeText time) =
      some (Civil.toSeconds { time with
        year := pivotYear (time.year % 100).toNat, second := 0 }) := by
  obtain ⟨months, days, hours, minutes, seconds⟩ := id inRange
  have year := @readDigits_two (time.year % 100).toNat (by omega)
  have month := @readDigits_two time.month (by omega)
  have day := @readDigits_two time.day (by omega)
  have hour := @readDigits_two time.hour (by omega)
  have minute := @readDigits_two time.minute (by omega)
  have inRange' : Civil.InRange { time with
      year := pivotYear (time.year % 100).toNat, second := 0 } :=
    ⟨months, days, hours, minutes, Nat.zero_le 60⟩
  simp only [twoDigits] at year month day hour minute
  simp only [readUtcTime, utcTimeText, twoDigits, String.toList_ofList, List.cons_append,
    List.nil_append, year, month, day, hour, minute, Option.bind_eq_bind, Option.bind_some, checked,
    inRange', if_true]

theorem pivotYear_mod_eq_iff (year : Int) :
    pivotYear (year % 100).toNat = year ↔ 1950 ≤ year ∧ year ≤ 2049 := by
  simp only [pivotYear]
  split <;> omega

/-- A year of the other century moves the time. -/
theorem toSeconds_year_eq_iff {time : Civil} {year : Int} :
    Civil.toSeconds { time with year := year } = time.toSeconds ↔ year = time.year := by
  constructor
  · intro same
    simp only [Civil.toSeconds] at same
    rcases Int.lt_trichotomy year time.year with earlier | equal | later
    · have less := daysFromDate_strictMono earlier time.month time.day
      omega
    · exact equal
    · have less := daysFromDate_strictMono later time.month time.day
      omega
  · rintro rfl
    rfl

end HybridX509.Lib.Calendar
