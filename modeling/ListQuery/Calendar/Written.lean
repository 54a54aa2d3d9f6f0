import ListQuery.Calendar.Instant

/-! Instants as text. -/

namespace ListQuery

namespace Calendar

/-- A number with zeros in front up to a width. -/
def padded (width : Nat) (n : Nat) : String :=
  let digits := Nat.toDigits 10 n
  String.ofList (List.replicate (width - digits.length) '0' ++ digits)

/-- A year has four digits; outside of the years 0 to 9999 it has a sign and may have more. -/
def writtenYear (year : Int) : String :=
  if 0 ≤ year && year ≤ 9999 then padded 4 year.toNat
  else (if year < 0 then "-" else "+") ++ padded 4 year.natAbs

end Calendar

open Calendar

namespace Instant

/-- The calendar day. -/
def dayText (i : Instant) : String :=
  writtenYear i.date.year ++ "-" ++ padded 2 i.date.month ++ "-" ++ padded 2 i.date.day

/-- The time of day, with three, six or nine digits of a fraction that is not zero. -/
def timeText (i : Instant) : String :=
  let leap := 1000000000 ≤ i.nano
  let nano := i.nano % 1000000000
  let second := i.second % 60 + if leap then 1 else 0
  let fraction :=
    if nano = 0 then ""
    else if nano % 1000000 = 0 then "." ++ padded 3 (nano / 1000000)
    else if nano % 1000 = 0 then "." ++ padded 6 (nano / 1000)
    else "." ++ padded 9 nano
  padded 2 (i.second / 3600) ++ ":" ++ padded 2 (i.second / 60 % 60) ++ ":" ++ padded 2 second
    ++ fraction

/-- The form of RFC 3339 with a numeric offset. -/
def rfc3339 (i : Instant) : String :=
  i.dayText ++ "T" ++ i.timeText ++ "+00:00"

/-- The form with the letter for universal time. -/
def zulu (i : Instant) : String :=
  i.dayText ++ "T" ++ i.timeText ++ "Z"

/-- The form with spaces and the name of the zone. -/
def spaced (i : Instant) : String :=
  i.dayText ++ " " ++ i.timeText ++ " UTC"

end Instant

end ListQuery
