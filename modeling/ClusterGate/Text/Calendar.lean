/-!
# Dates and times of day

Days are counted from the first of January 2000, and times in microseconds. The calendar is the
Gregorian one, extended to all years.
-/

namespace ClusterGate.Text

/-- A number in at least `width` digits. -/
def padded (width n : Nat) : String :=
  let digits := toString n
  String.ofList (List.replicate (width - digits.length) '0') ++ digits

structure CivilDate where
  year : Int
  month : Nat
  day : Nat
  deriving DecidableEq, Repr

/-- The days in the four centuries after which the calendar repeats. -/
def eraDays : Nat := 146097

/-- The date of a day. Years are counted from March on here, so that a leap day is the last day of
its year; day 60 of the year 2000 is a first of March. -/
def CivilDate.ofDay (day : Int) : CivilDate :=
  let shifted := day - 60
  let era := shifted / eraDays
  let ofEra := (shifted % eraDays).toNat
  let yearOfEra := (ofEra - ofEra / 1460 + ofEra / 36524 - ofEra / 146096) / 365
  let ofYear := ofEra - (365 * yearOfEra + yearOfEra / 4 - yearOfEra / 100)
  let monthFromMarch := (5 * ofYear + 2) / 153
  let month := if monthFromMarch < 10 then monthFromMarch + 3 else monthFromMarch - 9
  { year := 2000 + 400 * era + yearOfEra + (if month ≤ 2 then 1 else 0)
    month
    day := ofYear - (153 * monthFromMarch + 2) / 5 + 1 }

/-- The date as text. A year that has not four digits carries its sign. -/
def CivilDate.text (d : CivilDate) : String :=
  let year :=
    if 0 ≤ d.year ∧ d.year ≤ 9999 then padded 4 d.year.toNat
    else (if d.year < 0 then "-" else "+") ++ padded 4 d.year.natAbs
  year ++ "-" ++ padded 2 d.month ++ "-" ++ padded 2 d.day

def dayMicros : Nat := 86400000000

/-- A time of day as text, with three or six places of a fraction, or none where it is zero. -/
def timeText (micros : Nat) : String :=
  let seconds := micros / 1000000
  let fraction := micros % 1000000
  let clock := padded 2 (seconds / 3600) ++ ":" ++ padded 2 (seconds / 60 % 60) ++ ":" ++
    padded 2 (seconds % 60)
  if fraction = 0 then clock
  else if fraction % 1000 = 0 then clock ++ "." ++ padded 3 (fraction / 1000)
  else clock ++ "." ++ padded 6 fraction

/-- A point in time, in microseconds from the beginning of the year 2000, as text. -/
def timestampText (micros : Int) : String :=
  (CivilDate.ofDay (micros / dayMicros)).text ++ " " ++ timeText (micros % dayMicros).toNat

end ClusterGate.Text
