import Firewall.Text.Digit

/-!
# Dates and moments

Days of the Gregorian calendar and moments of a day, with or without a distance from universal time.
`Date.of?` and `Moment.of?` build only those that exist, so every date that they return has a month
of the year and a day of that month (`Date.exists_of_of?`).
-/

namespace Firewall

/-- A day of the Gregorian calendar. -/
structure Date where
  year : Nat
  month : Nat
  day : Nat
  deriving DecidableEq, Repr

namespace Date

def isLeapYear (year : Nat) : Bool := (year % 4 == 0 && year % 100 != 0) || year % 400 == 0

def daysIn (year month : Nat) : Nat :=
  if month = 2 then (if isLeapYear year then 29 else 28)
  else if month = 4 ∨ month = 6 ∨ month = 9 ∨ month = 11 then 30
  else 31

/-- Whether the calendar has the day, in a year of four digits. -/
def Exists (d : Date) : Prop :=
  1 ≤ d.year ∧ d.year ≤ 9999 ∧ 1 ≤ d.month ∧ d.month ≤ 12 ∧ 1 ≤ d.day ∧
    d.day ≤ daysIn d.year d.month

instance (d : Date) : Decidable d.Exists := by unfold Exists; infer_instance

/-- The day with the given year, month and day, if the calendar has it. -/
def of? (year month day : Nat) : Option Date :=
  if (Date.mk year month day).Exists then some ⟨year, month, day⟩ else none

theorem exists_of_of? {y m d : Nat} {date : Date} (h : of? y m d = some date) : date.Exists := by
  unfold of? at h
  split at h
  · cases h; assumption
  · cases h

def daysBeforeYear (year : Nat) : Nat :=
  let y := year - 1
  y * 365 + y / 4 - y / 100 + y / 400

/-- The number of the day, counted from the first day of the first year. -/
def ordinal (d : Date) : Nat :=
  daysBeforeYear d.year +
    ((List.range (d.month - 1)).map fun m => daysIn d.year (m + 1)).foldr (· + ·) 0 + d.day

/-- The day as year, month and day with hyphens between them. -/
def text (d : Date) : String :=
  Text.zeroPadded 4 d.year ++ "-" ++ Text.zeroPadded 2 d.month ++ "-" ++ Text.zeroPadded 2 d.day

/-- The day as messages show it. -/
def shown (d : Date) : String :=
  "datetime.date(" ++ ", ".intercalate ([d.year, d.month, d.day].map Text.decimal) ++ ")"

end Date

/-- A moment of a day; `offset` is its distance from universal time in seconds, if known. -/
structure Moment where
  date : Date
  hour : Nat
  minute : Nat
  second : Nat
  microsecond : Nat
  offset : Option Int
  deriving DecidableEq, Repr

namespace Moment

/-- Whether the clock has the time and the distance from universal time is less than a day. -/
def Exists (m : Moment) : Prop :=
  m.date.Exists ∧ m.hour < 24 ∧ m.minute < 60 ∧ m.second < 60 ∧ m.microsecond < 1000000 ∧
    ∀ s ∈ m.offset, -86400 < s ∧ s < 86400

instance (m : Moment) : Decidable m.Exists := by unfold Exists; infer_instance

/-- The moment itself, if it exists. -/
def checked? (m : Moment) : Option Moment := if m.Exists then some m else none

/-- The microseconds since the start of the calendar, by the moment's own clock. -/
def clock (m : Moment) : Int :=
  ((((m.date.ordinal : Int) * 24 + m.hour) * 60 + m.minute) * 60 + m.second) * 1000000 +
    m.microsecond

/-- Whether two moments are the same: both by their own clocks, or both by universal time. -/
def same (m n : Moment) : Bool :=
  match m.offset, n.offset with
  | none, none => m.clock == n.clock
  | some s, some t => m.clock - s * 1000000 == n.clock - t * 1000000
  | _, _ => false

/-- A distance from universal time as a sign, hours and minutes, and seconds if there are any. -/
def offsetText (s : Int) : String :=
  let n := s.natAbs
  (if s < 0 then "-" else "+") ++ Text.zeroPadded 2 (n / 3600) ++ ":" ++
    Text.zeroPadded 2 (n / 60 % 60) ++
    (if n % 60 = 0 then "" else ":" ++ Text.zeroPadded 2 (n % 60))

/-- The moment as its date, a space and its time; a fraction of a second has six digits. -/
def text (m : Moment) : String :=
  m.date.text ++ " " ++ Text.zeroPadded 2 m.hour ++ ":" ++ Text.zeroPadded 2 m.minute ++ ":" ++
    Text.zeroPadded 2 m.second ++
    (if m.microsecond = 0 then "" else "." ++ Text.zeroPadded 6 m.microsecond) ++
    (m.offset.map offsetText).getD ""

/-- A distance from universal time as messages show it: days, possibly negative, and seconds. -/
def offsetShown (s : Int) : String :=
  if s = 0 then "datetime.timezone.utc"
  else
    let days := s.fdiv 86400
    let seconds := s.fmod 86400
    "datetime.timezone(datetime.timedelta(" ++
      (if days = 0 then "" else "days=" ++ Text.signedDecimal days ++ ", ") ++
      "seconds=" ++ Text.signedDecimal seconds ++ "))"

/-- The moment as messages show it: seconds and microseconds are left out at the end when zero. -/
def shown (m : Moment) : String :=
  let tail :=
    if m.microsecond ≠ 0 then [m.second, m.microsecond]
    else if m.second ≠ 0 then [m.second]
    else []
  "datetime.datetime(" ++
    ", ".intercalate
      (([m.date.year, m.date.month, m.date.day, m.hour, m.minute] ++ tail).map Text.decimal) ++
    (m.offset.map fun s => ", tzinfo=" ++ offsetShown s).getD "" ++ ")"

end Moment

end Firewall
