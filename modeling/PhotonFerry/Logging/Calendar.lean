import PhotonFerry.Number.Fixed
/-!
# The calendar of log files

Log files carry the date of their day. Instants are seconds since the beginning
of 1970, days begin at midnight of universal time, and the calendar is the
Gregorian one, extended to all years that `earliest` and `latest` enclose.
-/

namespace PhotonFerry.Calendar

/-- The length of a day in seconds. -/
def secondsPerDay : Int := 86400

/-- The first instant of the calendar, at the beginning of the year -262143. -/
def earliest : Int := -8334601228800

/-- The last instant of the calendar, at the end of the year 262142. -/
def latest : Int := 8210266876799

/-- Whether the calendar encloses an instant. -/
def Holds (instant : Int) : Prop := earliest ≤ instant ∧ instant ≤ latest

instance : DecidablePred Holds := fun _ => inferInstanceAs (Decidable (_ ∧ _))

/-- The year, month and day of a number of days since the beginning of 1970.
Years are counted from March, so that a leap day comes last. -/
def date (day : Int) : Int × Nat × Nat :=
  let shifted := day + 719468
  let era := shifted.fdiv 146097
  let dayOfEra := (shifted.fmod 146097).toNat
  let yearOfEra := (dayOfEra - dayOfEra / 1460 + dayOfEra / 36524 - dayOfEra / 146096) / 365
  let dayOfYear := dayOfEra - (365 * yearOfEra + yearOfEra / 4 - yearOfEra / 100)
  let monthFromMarch := (5 * dayOfYear + 2) / 153
  let dayOfMonth := dayOfYear - (153 * monthFromMarch + 2) / 5 + 1
  let month := if monthFromMarch < 10 then monthFromMarch + 3 else monthFromMarch - 9
  let year := era * 400 + yearOfEra + if month ≤ 2 then 1 else 0
  (year, month, dayOfMonth)

/-- The date of an instant as it stands in the name of a file. -/
def dateText (instant : Int) : String :=
  let (year, month, day) := date (instant.fdiv secondsPerDay)
  let digits (width number : Nat) : String := String.ofList (Fixed.padded width number)
  s!"{digits 4 year.toNat}-{digits 2 month}-{digits 2 day}"

example : dateText 0 = "1970-01-01" := by decide +kernel
example : dateText 951782400 = "2000-02-29" := by decide +kernel
example : dateText (-1) = "1969-12-31" := by decide +kernel

end PhotonFerry.Calendar
