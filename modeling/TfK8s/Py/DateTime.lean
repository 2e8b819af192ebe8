import TfK8s.Py.Text

/-!
# `datetime.datetime` and the clock

The runner reads the clock three times for a scenario: `run_scenario` stamps
the start and the end of the run with `isoformat()`, and `save_results` names
the report with `strftime("%Y%m%d-%H%M%S")`. A reading is a `DateTime` whose
fields keep the ranges Python's constructor enforces; the two formats write
them with fixed widths.

What the clock says is up to the world, so the model takes its readings as
parameters, and a statement over all of them covers every clock.
-/

namespace TfK8s.Py

/-- Whether `year` is a leap year of the Gregorian calendar. -/
def isLeap (year : Nat) : Bool := year % 4 == 0 && (year % 100 != 0 || year % 400 == 0)

/-- The number of days of a month. -/
def daysInMonth (year month : Nat) : Nat :=
  if month == 2 then (if isLeap year then 29 else 28)
  else if month == 4 || month == 6 || month == 9 || month == 11 then 30
  else 31

/-- A `datetime.datetime`, with the ranges its constructor enforces. -/
structure DateTime where
  year : Nat
  month : Nat
  day : Nat
  hour : Nat
  minute : Nat
  second : Nat
  microsecond : Nat
  year_range : 1 ≤ year ∧ year ≤ 9999
  month_range : 1 ≤ month ∧ month ≤ 12
  day_range : 1 ≤ day ∧ day ≤ daysInMonth year month
  hour_lt : hour < 24
  minute_lt : minute < 60
  second_lt : second < 60
  microsecond_lt : microsecond < 1000000

/-- `n` in exactly `width` decimal digits, as `%0<width>d` writes a number
below `10 ^ width`. -/
def padDigits : Nat → Nat → List Char
  | 0, _ => []
  | w + 1, n => padDigits w (n / 10) ++ [Nat.digitChar (n % 10)]

/-- `t.strftime("%Y%m%d-%H%M%S")`, the one format the runner uses. -/
def DateTime.strftime (t : DateTime) : String :=
  ⟨padDigits 4 t.year ++ padDigits 2 t.month ++ padDigits 2 t.day ++
    '-' :: (padDigits 2 t.hour ++ padDigits 2 t.minute ++ padDigits 2 t.second)⟩

/-- `t.isoformat()`: the microseconds are written only when there are some. -/
def DateTime.isoformat (t : DateTime) : String :=
  ⟨padDigits 4 t.year ++ '-' :: padDigits 2 t.month ++ '-' :: padDigits 2 t.day ++
    'T' :: padDigits 2 t.hour ++ ':' :: padDigits 2 t.minute ++ ':' :: padDigits 2 t.second ++
    (if t.microsecond = 0 then [] else '.' :: padDigits 6 t.microsecond)⟩

end TfK8s.Py
