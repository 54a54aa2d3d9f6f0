import ListQuery.Calendar.Date

/-! Instants of universal time, to the nanosecond. -/

namespace ListQuery

/-- An instant of universal time. A leap second is the second after the last of a minute: it
keeps that second's number and has a full second more of nanoseconds. Fractions of a second or more
at any other second, which only setting the nanoseconds by hand can make, are left out: no text and
no numbers of a clock give them. -/
structure Instant where
  date : Date
  second : Nat
  nano : Nat
  second_lt : second < 86400
  nano_lt : nano < 1000000000 ∨ (nano < 2000000000 ∧ second % 60 = 59)
deriving DecidableEq

namespace Instant

/-- The instant with these numbers, if there is one. The second sixty is a leap second. -/
def ofNumbers? (date : Date) (hour minute second nano : Nat) : Option Instant :=
  if numbers : hour < 24 ∧ minute < 60 ∧ second ≤ 60 ∧ nano < 1000000000 then
    if leap : second = 60 then
      some
        { date
          second := hour * 3600 + minute * 60 + 59
          nano := nano + 1000000000
          second_lt := by omega
          nano_lt := by omega }
    else
      some
        { date
          second := hour * 3600 + minute * 60 + second
          nano
          second_lt := by omega
          nano_lt := by omega }
  else none

/-- The first instant of a day. -/
def midnight (date : Date) : Instant :=
  { date, second := 0, nano := 0, second_lt := by omega, nano_lt := by omega }

/-- The instant a number of minutes earlier, less than a day either way, if the calendar
reaches it. -/
def minus? (i : Instant) (minutes : Int) : Option Instant :=
  let second : Int := i.second - minutes * 60
  if low : second < 0 then
    if inside : -86400 ≤ second then
      i.date.previous?.map fun date =>
        { i with
          date
          second := (second + 86400).toNat
          second_lt := by omega
          nano_lt := by have := i.nano_lt; omega }
    else none
  else if inside : second < 86400 then
    some
      { i with
        second := second.toNat
        second_lt := by omega
        nano_lt := by have := i.nano_lt; omega }
  else if inside : second < 172800 then
    i.date.next?.map fun date =>
      { i with
        date
        second := (second - 86400).toNat
        second_lt := by omega
        nano_lt := by have := i.nano_lt; omega }
  else none

/-- Instants are ordered by date, second and nanosecond. -/
def order (a b : Instant) : Ordering :=
  (a.date.order b.date).then ((compare a.second b.second).then (compare a.nano b.nano))

end Instant

end ListQuery
