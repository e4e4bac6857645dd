import Mathlib.Data.Nat.Digits.Defs
import Mathlib.Data.String.Basic

/-!
# Instants

`datetime.isoformat()` of an aware UTC time, read from the number of microseconds since
1970-01-01.
-/

namespace Python

/-- A calendar day. -/
structure CivilDate where
  year : ℤ
  month : ℤ
  day : ℤ
deriving DecidableEq

/-- The date of the day `z` days after 1970-01-01. Years are counted from March, so that the
leap day ends one. -/
def civilFromDays (z : ℤ) : CivilDate :=
  let shifted := z + 719468
  let era := shifted / 146097
  let dayOfEra := shifted % 146097
  let yearOfEra := (dayOfEra - dayOfEra / 1460 + dayOfEra / 36524 - dayOfEra / 146096) / 365
  let dayOfYear := dayOfEra - (365 * yearOfEra + yearOfEra / 4 - yearOfEra / 100)
  let marchMonth := (5 * dayOfYear + 2) / 153
  let month := if marchMonth < 10 then marchMonth + 3 else marchMonth - 9
  { year := yearOfEra + era * 400 + (if month ≤ 2 then 1 else 0)
    month := month
    day := dayOfYear - (153 * marchMonth + 2) / 5 + 1 }

/-- `'%0{width}d' % n`. -/
def padded (width : ℕ) (n : ℤ) : List Char :=
  let digits := Nat.toDigits 10 n.natAbs
  List.replicate (width - digits.length) '0' ++ digits

/-- `isoformat()`: microseconds are written only when there are any. -/
def isoformat (micros : ℤ) : String :=
  let seconds := micros / 1000000
  let fraction := micros % 1000000
  let date := civilFromDays (seconds / 86400)
  let clock := seconds % 86400
  String.ofList (padded 4 date.year ++ '-' :: padded 2 date.month ++ '-' :: padded 2 date.day ++
    'T' :: padded 2 (clock / 3600) ++ ':' :: padded 2 (clock / 60 % 60) ++
    ':' :: padded 2 (clock % 60) ++ (if fraction = 0 then [] else '.' :: padded 6 fraction) ++
    "+00:00".toList)

example : isoformat 1709210096000007 = "2024-02-29T12:34:56.000007+00:00" := by decide

end Python
