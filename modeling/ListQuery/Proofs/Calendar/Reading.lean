import Mathlib.Tactic.SplitIfs
import ListQuery.Calendar.Reading
import ListQuery.Calendar.Written
import ListQuery.Proofs.Calendar.Days
import ListQuery.Proofs.Number.Digits

/-! Instants written and read again. Numbers of a fixed width are read back whatever follows them,
and so are fractions of a second and offsets; so the three readers agree on what each of them can
read, and a date and a time mean one instant, with a letter for universal time, without one, or with
an offset that is then taken away. -/

namespace ListQuery

namespace Calendar

/-! ### Numbers of a fixed width -/

section Padded
variable {width n : Nat}

theorem toList_padded (width n : Nat) : (padded width n).toList =
    List.replicate (width - (Nat.toDigits 10 n).length) '0' ++ Nat.toDigits 10 n :=
  String.toList_ofList

theorem isDigit_of_mem_padded : ∀ c ∈ (padded width n).toList, c.isDigit = true := by
  rw [toList_padded]
  exact List.forall_mem_append.mpr
    ⟨fun _ => Numeral.isDigit_of_mem_zeros, fun _ => Numeral.isDigit_of_mem_toDigits⟩

theorem natural_padded (width n : Nat) : Numeral.natural (padded width n).toList = n := by
  rw [Numeral.natural_of_isDigit isDigit_of_mem_padded, toList_padded, Nat.ofDigitChars_append,
    Nat.ofDigitChars_replicate_zero, Nat.mul_zero, Nat.ofDigitChars_ten_toDigits]

/-- A number has a width that it does not fill. -/
structure Fits (width n : Nat) : Prop where
  positive : 0 < width
  small : n < tenTo width

theorem Fits.length (fits : Fits width n) : (padded width n).toList.length = width := by
  have short : (Nat.toDigits 10 n).length ≤ width :=
    (Nat.length_toDigits_le_iff (by decide) fits.positive).mpr fits.small
  rw [toList_padded, List.length_append, List.length_replicate]
  omega

/-- What is written begins with a digit. -/
theorem Fits.exists_cons (fits : Fits width n) :
    ∃ d more, (padded width n).toList = d :: more ∧ d.isDigit = true := by
  have filled : (padded width n).toList ≠ [] := by
    refine List.ne_nil_of_length_pos ?_
    rw [fits.length]
    exact fits.positive
  obtain ⟨d, more, same⟩ := List.exists_cons_of_ne_nil filled
  exact ⟨d, more, same, isDigit_of_mem_padded d (same ▸ List.mem_cons_self)⟩

theorem Fits.exactly (fits : Fits width n) (rest : List Char) :
    exactly width ((padded width n).toList ++ rest) = some (n, rest) := by
  have all : (padded width n).toList.all Char.isDigit = true :=
    List.all_eq_true.mpr isDigit_of_mem_padded
  simp only [Calendar.exactly, List.take_left' fits.length, List.drop_left' fits.length, all,
    fits.length, natural_padded]
  simp

theorem Fits.digits (fits : Fits width n) (rest : List Char) :
    digits width ((padded width n).toList ++ rest) = some (n, rest) := by
  obtain ⟨d, more, same, -⟩ := fits.exists_cons
  have run : (((padded width n).toList ++ rest).takeWhile Char.isDigit).take width =
      (padded width n).toList := by
    rw [List.takeWhile_append_of_pos isDigit_of_mem_padded, List.take_left' fits.length]
  simp only [Calendar.digits, run, natural_padded, List.drop_left]
  simp [same]

theorem trimStart_of_isDigit {d : Char} (digit : d.isDigit = true) (rest : List Char) :
    Text.trimStart (d :: rest) = d :: rest := by
  have code : 48 ≤ d.toNat ∧ d.toNat ≤ 57 := by
    simpa [Char.isDigit, UInt32.le_iff_toNat_le] using digit
  have solid : ¬ Text.isBlank d = true := by
    simp [Text.isBlank]
    omega
  exact List.dropWhile_cons_of_neg solid

theorem Fits.loose (fits : Fits width n) (rest : List Char) :
    loose width ((padded width n).toList ++ rest) = some (n, rest) := by
  obtain ⟨d, more, same, digit⟩ := fits.exists_cons
  have read := fits.digits rest
  rw [same] at read ⊢
  rw [Calendar.loose, List.cons_append, trimStart_of_isDigit digit]
  exact read

end Padded

theorem fits_two {n : Nat} (small : n < 100) : Fits 2 n :=
  ⟨by decide, small⟩

theorem mark_cons (c : Char) (rest : List Char) : mark c (c :: rest) = some ((), rest) :=
  if_pos rfl

/-! ### Fractions and offsets -/

/-- No digit and no point comes next. -/
def EndsSeconds (rest : List Char) : Prop :=
  ∀ c ∈ rest.head?, c.isDigit = false ∧ c ≠ '.'

theorem endsSeconds_cons {c : Char} (solid : c.isDigit = false ∧ c ≠ '.') (rest : List Char) :
    EndsSeconds (c :: rest) := by
  rintro _ ⟨⟩
  exact solid

theorem fraction_of_ends {rest : List Char} (ends : EndsSeconds rest) :
    fraction rest = some (0, rest) := by
  unfold fraction
  split
  · exact absurd rfl (ends '.' rfl).2
  · rfl

theorem fraction_padded {width n : Nat} (fits : Fits width n) (short : width ≤ 9)
    {rest : List Char} (ends : EndsSeconds rest) :
    fraction ('.' :: ((padded width n).toList ++ rest)) = some (n * tenTo (9 - width), rest) := by
  have none : rest.takeWhile Char.isDigit = [] := by
    cases rest with
    | nil => rfl
    | cons c rest => exact List.takeWhile_cons_of_neg (by simp [ends c rfl])
  have run : ((padded width n).toList ++ rest).takeWhile Char.isDigit =
      (padded width n).toList := by
    rw [List.takeWhile_append_of_pos isDigit_of_mem_padded, none, List.append_nil]
  obtain ⟨d, more, same, -⟩ := fits.exists_cons
  have kept : (padded width n).toList.take 9 = (padded width n).toList :=
    List.take_of_length_le (by rw [fits.length]; exact short)
  simp only [fraction, run, kept, natural_padded, fits.length, List.drop_left' fits.length]
  simp [same]

/-- What is written of a second's nanoseconds: nothing for none, and else as many thousands of
digits as are needed. -/
def fractionText (nano : Nat) : String :=
  if nano = 0 then ""
  else if nano % 1000000 = 0 then "." ++ padded 3 (nano / 1000000)
  else if nano % 1000 = 0 then "." ++ padded 6 (nano / 1000)
  else "." ++ padded 9 nano

theorem fraction_fractionText {nano : Nat} (small : nano < 1000000000) {rest : List Char}
    (ends : EndsSeconds rest) :
    fraction ((fractionText nano).toList ++ rest) = some (nano, rest) := by
  have point (text : String) : ("." ++ text).toList ++ rest = '.' :: (text.toList ++ rest) := by
    rw [String.toList_append]
    rfl
  unfold fractionText
  split_ifs with none millis micros
  · subst none
    exact fraction_of_ends ends
  · have whole : nano / 1000000 * tenTo (9 - 3) = nano :=
      Nat.div_mul_cancel (Nat.dvd_of_mod_eq_zero millis)
    have fits : Fits 3 (nano / 1000000) := ⟨by decide, show nano / 1000000 < 1000 by omega⟩
    rw [point, fraction_padded fits (by decide) ends, whole]
  · have whole : nano / 1000 * tenTo (9 - 6) = nano :=
      Nat.div_mul_cancel (Nat.dvd_of_mod_eq_zero micros)
    have fits : Fits 6 (nano / 1000) := ⟨by decide, show nano / 1000 < 1000000 by omega⟩
    rw [point, fraction_padded fits (by decide) ends, whole]
  · have whole : nano * tenTo (9 - 9) = nano := Nat.mul_one nano
    have fits : Fits 9 nano := ⟨by decide, small⟩
    rw [point, fraction_padded fits (by decide) ends, whole]

/-- An offset is read as so many minutes. -/
theorem offset_minutes {hours minutes : Nat} (hour : hours < 24) (minute : minutes < 60) :
    offset ('+' :: ((padded 2 hours).toList ++ ':' :: (padded 2 minutes).toList)) =
        some (((hours * 60 + minutes : Nat) : Int), []) ∧
      offset ('-' :: ((padded 2 hours).toList ++ ':' :: (padded 2 minutes).toList)) =
        some (-((hours * 60 + minutes : Nat) : Int), []) := by
  have read := (fits_two (show hours < 100 by omega)).exactly (':' :: (padded 2 minutes).toList)
  have last := (fits_two (show minutes < 100 by omega)).exactly []
  rw [List.append_nil] at last
  constructor
  · simp [offset, read, mark_cons, last, hour, minute]
  · simp [offset, read, mark_cons, last, hour, minute]

/-! ### Dates and times -/

end Calendar

open Calendar

/-- A day with four digits of its year, and two of its month and of its day. -/
def Date.text (d : Date) : String :=
  padded 4 d.year.toNat ++ "-" ++ padded 2 d.month ++ "-" ++ padded 2 d.day

/-- A day in a year of four digits. -/
def Date.FourDigits (d : Date) : Prop :=
  0 ≤ d.year ∧ d.year ≤ 9999

theorem Date.FourDigits.inside {d : Date} (plain : d.FourDigits) :
    firstYear < d.year ∧ d.year < lastYear := by
  obtain ⟨first, last⟩ := plain
  rw [firstYear, lastYear]
  omega

/-- A time of day, with two digits for each of its numbers. -/
def Calendar.clockText (hour minute second : Nat) : String :=
  padded 2 hour ++ ":" ++ padded 2 minute ++ ":" ++ padded 2 second

/-- An offset: a sign, two digits of hours and two of minutes. -/
def Calendar.zoneText (sign : Char) (hours minutes : Nat) : String :=
  String.singleton sign ++ padded 2 hours ++ ":" ++ padded 2 minutes

namespace Calendar

/-- A year of four digits. -/
def plainYear : Reading Int := fun text =>
  (exactly 4 text).map fun (year, rest) => ((year : Int), rest)

section Dates
variable {d : Date} {hour minute second : Nat}

/-- The characters of a day, with what follows it. -/
def dayChars (d : Date) (rest : List Char) : List Char :=
  (padded 4 d.year.toNat).toList ++ '-' :: ((padded 2 d.month).toList ++
    '-' :: ((padded 2 d.day).toList ++ rest))

theorem toList_text (d : Date) (rest : List Char) : d.text.toList ++ rest = dayChars d rest := by
  simp [Date.text, dayChars]

/-- The characters of a time, with what follows it. -/
def clockChars (hour minute second : Nat) (rest : List Char) : List Char :=
  (padded 2 hour).toList ++ ':' :: ((padded 2 minute).toList ++
    ':' :: ((padded 2 second).toList ++ rest))

theorem toList_clockText (hour minute second : Nat) (rest : List Char) :
    (clockText hour minute second).toList ++ rest = clockChars hour minute second rest := by
  simp [clockText, clockChars]

/-- The numbers of a day have their widths. -/
theorem fits_of_fourDigits (plain : d.FourDigits) :
    Fits 4 d.year.toNat ∧ Fits 2 d.month ∧ Fits 2 d.day ∧ (d.year.toNat : Int) = d.year := by
  obtain ⟨first, last⟩ := plain
  obtain ⟨-, month⟩ := d.month_mem
  obtain ⟨-, day⟩ := d.day_mem
  have most : daysIn d.year d.month ≤ 31 := by
    unfold daysIn
    split_ifs <;> decide
  exact ⟨⟨by decide, show d.year.toNat < 10000 by omega⟩, fits_two (by omega), fits_two (by omega),
    by omega⟩

theorem looseYear_padded {year : Nat} (fits : Fits 4 year) (rest : List Char) :
    looseYear ((padded 4 year).toList ++ rest) = some ((year : Int), rest) := by
  obtain ⟨c, more, same, digit⟩ := fits.exists_cons
  have read := fits.digits rest
  rw [same, List.cons_append] at read ⊢
  rw [looseYear, trimStart_of_isDigit digit]
  -- A digit is no sign.
  split
  · rename_i sign
    cases sign
    cases digit
  · rename_i sign
    cases sign
    cases digit
  · rw [read]
    rfl

theorem looseDate_dayChars (plain : d.FourDigits) (rest : List Char) :
    looseDate (dayChars d rest) = some (d, rest) := by
  obtain ⟨year, month, day, whole⟩ := fits_of_fourDigits plain
  simp only [looseDate, dayChars, looseYear_padded year, month.loose, day.loose, mark_cons,
    Option.bind_eq_bind, Option.bind_some, whole, Date.ofNumbers?_self]

theorem bind_of_eq_some {α β : Type} {read : Option α} {a : α} (found : read = some a)
    (next : α → Option β) : (read >>= next) = next a := by
  rw [found]
  rfl

theorem plainYear_padded (plain : d.FourDigits) (rest : List Char) :
    plainYear ((padded 4 d.year.toNat).toList ++ rest) = some (d.year, rest) := by
  obtain ⟨year, -, -, whole⟩ := fits_of_fourDigits plain
  rw [plainYear, year.exactly]
  exact congrArg (fun year => some (year, rest)) whole

/-- A full date and time begins with its day; the separator and the time come after it. -/
theorem rfc3339_dayChars (plain : d.FourDigits) (rest : List Char) :
    rfc3339 plainYear (dayChars d rest) = (do
      let (_, rest) ← ((mark 'T' rest).or (mark 't' rest)).or (mark ' ' rest)
      let (hour, rest) ← exactly 2 rest
      let (_, rest) ← mark ':' rest
      let (minute, rest) ← exactly 2 rest
      let (_, rest) ← mark ':' rest
      let (second, rest) ← exactly 2 rest
      let (nano, rest) ← fraction rest
      let (minutes, rest) ← offset rest
      if rest.isEmpty then
        (Instant.ofNumbers? d hour minute second nano).bind (·.minus? minutes)
      else none) := by
  obtain ⟨-, month, day, -⟩ := fits_of_fourDigits plain
  refine (bind_of_eq_some (plainYear_padded plain _) _).trans ?_
  refine (bind_of_eq_some (mark_cons _ _) _).trans ?_
  refine (bind_of_eq_some (month.exactly _) _).trans ?_
  refine (bind_of_eq_some (mark_cons _ _) _).trans ?_
  refine (bind_of_eq_some (day.exactly _) _).trans ?_
  dsimp only
  rw [Date.ofNumbers?_self]
  rfl

/-- A full date and time is read up to its fraction. -/
theorem rfc3339_chars (plain : d.FourDigits) (hours : hour < 100) (minutes : minute < 100)
    (seconds : second < 100) (rest : List Char) :
    rfc3339 plainYear (dayChars d ('T' :: clockChars hour minute second rest)) =
      (fraction rest).bind fun (nano, rest) => (offset rest).bind fun (minutes, rest) =>
        if rest.isEmpty then
          (Instant.ofNumbers? d hour minute second nano).bind (·.minus? minutes)
        else none := by
  have separated (rest : List Char) :
      ((mark 'T' ('T' :: rest)).or (mark 't' ('T' :: rest))).or (mark ' ' ('T' :: rest)) =
        some ((), rest) := by
    rw [mark_cons, Option.some_or, Option.some_or]
  rw [rfc3339_dayChars plain]
  refine (bind_of_eq_some (separated _) _).trans ?_
  refine (bind_of_eq_some ((fits_two hours).exactly _) _).trans ?_
  refine (bind_of_eq_some (mark_cons _ _) _).trans ?_
  refine (bind_of_eq_some ((fits_two minutes).exactly _) _).trans ?_
  refine (bind_of_eq_some (mark_cons _ _) _).trans ?_
  refine (bind_of_eq_some ((fits_two seconds).exactly _) _).trans ?_
  rfl

/-- A day alone is no full date and time. -/
theorem rfc3339_day (plain : d.FourDigits) : rfc3339 plainYear (dayChars d []) = none := by
  rw [rfc3339_dayChars plain]
  rfl

theorem looseDateTime_chars (plain : d.FourDigits) (hours : hour < 100) (minutes : minute < 100)
    (seconds : second < 100) (rest : List Char) :
    looseDateTime (dayChars d ('T' :: clockChars hour minute second rest)) =
      if rest.isEmpty then Instant.ofNumbers? d hour minute second 0 else none := by
  simp only [looseDateTime, clockChars, looseDate_dayChars plain, mark_cons, (fits_two hours).loose,
    (fits_two minutes).loose, (fits_two seconds).loose, Option.bind_eq_bind, Option.bind_some]

theorem read?_eq {text : String} {cs : List Char} (chars : text.toList = cs) :
    read? text = ((rfc3339 plainYear cs).or (looseDateTime cs)).or (dateAlone cs) := by
  subst chars
  rfl

/-- A day alone is read as its first instant: the other two readers find no time. -/
theorem read?_day (plain : d.FourDigits) : read? d.text = some (Instant.midnight d) := by
  have chars : d.text.toList = dayChars d [] := by
    rw [← toList_text, List.append_nil]
  have loosely : looseDateTime (dayChars d []) = none := by
    rw [looseDateTime, looseDate_dayChars plain]
    rfl
  have alone : dateAlone (dayChars d []) = some (Instant.midnight d) := by
    rw [dateAlone, looseDate_dayChars plain]
    rfl
  rw [read?_eq chars, rfc3339_day plain, loosely, alone]
  rfl

section Times
variable {i : Instant} (plain : d.FourDigits) (hours : hour < 100) (minutes : minute < 100)
  (seconds : second < 100)
include plain hours minutes seconds

/-- A date and a time without an offset are no full date and time, and so are left to the reader
that takes them as universal time. -/
theorem read?_time (found : Instant.ofNumbers? d hour minute second 0 = some i) :
    read? (d.text ++ "T" ++ clockText hour minute second) = some i := by
  have chars : (d.text ++ "T" ++ clockText hour minute second).toList =
      dayChars d ('T' :: clockChars hour minute second []) := by
    rw [← toList_text, ← toList_clockText]
    simp
  have zoneless : rfc3339 plainYear (dayChars d ('T' :: clockChars hour minute second [])) = none :=
    rfc3339_chars plain hours minutes seconds []
  rw [read?_eq chars, zoneless, looseDateTime_chars plain hours minutes seconds, found]
  rfl

/-- A date and a time with an offset are read by the first reader, and the offset is taken away. -/
theorem read?_zoned {nano : Nat} (small : nano < 1000000000) {zone : String} {c : Char}
    {rest : List Char} (spelled : zone.toList = c :: rest) (solid : c.isDigit = false ∧ c ≠ '.')
    {away : Int} (zoned : offset (c :: rest) = some (away, []))
    (found : Instant.ofNumbers? d hour minute second nano = some i) {earlier : Instant}
    (moved : i.minus? away = some earlier) :
    read? (d.text ++ "T" ++ clockText hour minute second ++ fractionText nano ++ zone) =
      some earlier := by
  have chars :
      (d.text ++ "T" ++ clockText hour minute second ++ fractionText nano ++ zone).toList =
        dayChars d ('T' :: clockChars hour minute second
          ((fractionText nano).toList ++ c :: rest)) := by
    rw [← toList_text, ← toList_clockText, ← spelled]
    simp
  have first : rfc3339 plainYear (dayChars d ('T' :: clockChars hour minute second
      ((fractionText nano).toList ++ c :: rest))) = some earlier := by
    rw [rfc3339_chars plain hours minutes seconds,
      fraction_fractionText small (endsSeconds_cons solid rest)]
    refine (bind_of_eq_some zoned _).trans ?_
    exact (bind_of_eq_some found _).trans moved
  rw [read?_eq chars, first]
  rfl

end Times

end Dates

end Calendar

/-! ### Instants -/

namespace Instant

theorem ofNumbers?_of_lt (d : Date) {hour minute second : Nat} (hours : hour < 24)
    (minutes : minute < 60) (seconds : second < 60) :
    ∃ i : Instant, ofNumbers? d hour minute second 0 = some i ∧ i.date = d ∧
      i.second = hour * 3600 + minute * 60 + second ∧ i.nano = 0 := by
  rw [ofNumbers?, dif_pos ⟨hours, minutes, by omega, by decide⟩, dif_neg (by omega)]
  exact ⟨_, rfl, rfl, rfl, rfl⟩

/-- The second that an instant is written with: that of a leap second is the sixtieth. -/
def writtenSecond (i : Instant) : Nat :=
  i.second % 60 + if 1000000000 ≤ i.nano then 1 else 0

theorem writtenSecond_le (i : Instant) : i.writtenSecond ≤ 60 := by
  unfold writtenSecond
  split <;> omega

/-- The numbers that an instant is written with give it back, also those of a leap second. -/
theorem ofNumbers?_self (i : Instant) :
    ofNumbers? i.date (i.second / 3600) (i.second / 60 % 60) i.writtenSecond
      (i.nano % 1000000000) = some i := by
  have day := i.second_lt
  have kind := i.nano_lt
  have most := i.writtenSecond_le
  rw [ofNumbers?, dif_pos ⟨by omega, by omega, most, by omega⟩]
  by_cases leap : 1000000000 ≤ i.nano
  · have second : i.writtenSecond = i.second % 60 + 1 := by
      rw [writtenSecond, if_pos leap]
    have whole : i.second / 3600 * 3600 + i.second / 60 % 60 * 60 + 59 = i.second := by omega
    have nano : i.nano % 1000000000 + 1000000000 = i.nano := by omega
    rw [dif_pos (by omega)]
    simp only [whole, nano]
  · have second : i.writtenSecond = i.second % 60 := by
      rw [writtenSecond, if_neg leap, Nat.add_zero]
    have whole : i.second / 3600 * 3600 + i.second / 60 % 60 * 60 + i.writtenSecond = i.second := by
      omega
    have nano : i.nano % 1000000000 = i.nano := by omega
    rw [dif_neg (by omega)]
    simp only [whole, nano]

/-- Day and time, in front of whatever names the zone. -/
theorem dayText_timeText {i : Instant} (plain : i.date.FourDigits) :
    i.dayText ++ "T" ++ i.timeText = i.date.text ++ "T" ++ clockText (i.second / 3600)
      (i.second / 60 % 60) i.writtenSecond ++ fractionText (i.nano % 1000000000) := by
  have year : writtenYear i.date.year = padded 4 i.date.year.toNat :=
    if_pos (by simpa [Date.FourDigits] using plain)
  have day : i.dayText = i.date.text := by
    rw [dayText, year, Date.text]
  have time : i.timeText = clockText (i.second / 3600) (i.second / 60 % 60) i.writtenSecond ++
      fractionText (i.nano % 1000000000) := rfl
  rw [day, time, ← String.append_assoc]

section Universal
variable {i : Instant} (plain : i.date.FourDigits)
include plain

/-- With a zone that is no offset, day and time are read as their instant. -/
theorem read?_universal {zone : String} {c : Char} {rest : List Char}
    (spelled : zone.toList = c :: rest) (solid : c.isDigit = false ∧ c ≠ '.')
    (zoned : offset (c :: rest) = some (0, [])) :
    Calendar.read? (i.dayText ++ "T" ++ i.timeText ++ zone) = some i := by
  have day := i.second_lt
  have most := i.writtenSecond_le
  obtain ⟨first, last⟩ := plain.inside
  rw [dayText_timeText plain]
  exact read?_zoned plain (by omega) (by omega) (by omega) (Nat.mod_lt _ (by decide)) spelled
    solid zoned i.ofNumbers?_self (minus?_zero first last)

/-- What an instant is written as is read as that instant. -/
theorem read?_rfc3339 : Calendar.read? i.rfc3339 = some i :=
  read?_universal plain rfl (by decide) (by decide)

theorem read?_zulu : Calendar.read? i.zulu = some i :=
  read?_universal plain rfl (by decide) (by decide)

end Universal

end Instant

namespace Calendar

section Zones
variable {d : Date} {hour minute second : Nat} {i : Instant} (plain : d.FourDigits)
  (hours : hour < 24) (minutes : minute < 60) (seconds : second < 60)
  (found : Instant.ofNumbers? d hour minute second 0 = some i) (day : i.date = d)
include plain hours minutes seconds found day

/-- With an offset a date and a time mean the instant that is so many minutes earlier. -/
theorem read?_away {zone : String} {c : Char} {rest : List Char} (spelled : zone.toList = c :: rest)
    (solid : c.isDigit = false ∧ c ≠ '.') {away : Int}
    (zoned : offset (c :: rest) = some (away, [])) (low : -1440 < away) (high : away < 1440) :
    ∃ e, read? (d.text ++ "T" ++ clockText hour minute second ++ zone) = some e ∧
      e.seconds = i.seconds - away * 60 ∧ e.nano = i.nano := by
  obtain ⟨first, last⟩ := plain.inside
  rw [← day] at first last
  obtain ⟨e, moved, earlier, nano⟩ := Instant.exists_minus first last low high
  have read := read?_zoned plain (by omega) (by omega) (by omega) (by decide) spelled solid zoned
    found moved
  rw [show fractionText 0 = "" from rfl, String.append_empty] at read
  exact ⟨e, read, earlier, nano⟩

/-- The letter for universal time means no offset. -/
theorem read?_zulu : read? (d.text ++ "T" ++ clockText hour minute second ++ "Z") = some i := by
  obtain ⟨same, read, second, nano⟩ := read?_away plain hours minutes seconds found day
    (show "Z".toList = ['Z'] from rfl) (by decide) rfl (by decide) (by decide)
  rw [Int.zero_mul, Int.sub_zero] at second
  rw [read, Instant.eq_of_seconds second nano]

end Zones

theorem toList_zoneText (sign : Char) (hours minutes : Nat) :
    (zoneText sign hours minutes).toList =
      sign :: ((padded 2 hours).toList ++ ':' :: (padded 2 minutes).toList) := by
  simp [zoneText]

end Calendar

/-- A date and a time mean one instant, however they are written. What an instant is written as is
read as that instant. A day alone means the same as with midnight after it, and a time means the
same with the letter for universal time as without. With an offset in its place, they mean the
instant that lies the offset before. -/
theorem Calendar.one_instant_however_written :
    (∀ i : Instant, i.date.FourDigits → read? i.rfc3339 = some i) ∧
    (∀ d : Date, d.FourDigits →
      read? d.text = some (Instant.midnight d) ∧
      read? (d.text ++ "T00:00:00") = some (Instant.midnight d) ∧
      read? (d.text ++ "T00:00:00Z") = some (Instant.midnight d)) ∧
    ∀ (d : Date) (hour minute second : Nat), d.FourDigits → hour < 24 → minute < 60 →
      second < 60 → ∃ i : Instant,
        (i.date = d ∧ i.second = hour * 3600 + minute * 60 + second ∧ i.nano = 0) ∧
        read? (d.text ++ "T" ++ clockText hour minute second) = some i ∧
        read? (d.text ++ "T" ++ clockText hour minute second ++ "Z") = some i ∧
        ∀ hours minutes : Nat, hours < 24 → minutes < 60 →
          (∃ e, read? (d.text ++ "T" ++ clockText hour minute second ++
              zoneText '+' hours minutes) = some e ∧
            e.seconds = i.seconds - (hours * 60 + minutes) * 60 ∧ e.nano = 0) ∧
          ∃ e, read? (d.text ++ "T" ++ clockText hour minute second ++
              zoneText '-' hours minutes) = some e ∧
            e.seconds = i.seconds + (hours * 60 + minutes) * 60 ∧ e.nano = 0 := by
  refine ⟨fun i plain => Instant.read?_rfc3339 plain, ?_, ?_⟩
  · intro d plain
    have first : Instant.ofNumbers? d 0 0 0 0 = some (Instant.midnight d) := rfl
    have plainly : "T" ++ clockText 0 0 0 = "T00:00:00" := rfl
    have zoned : "T" ++ (clockText 0 0 0 ++ "Z") = "T00:00:00Z" := rfl
    have time := read?_time plain (by decide) (by decide) (by decide) first
    have zulu := read?_zulu plain (by decide) (by decide) (by decide) first rfl
    rw [String.append_assoc, plainly] at time
    rw [String.append_assoc, String.append_assoc, zoned] at zulu
    exact ⟨read?_day plain, time, zulu⟩
  · intro d hour minute second plain hours minutes seconds
    obtain ⟨i, found, day, time, nano⟩ := Instant.ofNumbers?_of_lt d hours minutes seconds
    refine ⟨i, ⟨day, time, nano⟩, read?_time plain (by omega) (by omega) (by omega) found,
      read?_zulu plain hours minutes seconds found day, ?_⟩
    intro east south few short
    obtain ⟨ahead, behind⟩ := offset_minutes few short
    have bound : east * 60 + south < 1440 := by omega
    obtain ⟨e, read, earlier, same⟩ := read?_away plain hours minutes seconds found day
      (toList_zoneText '+' east south) (by decide) ahead (by omega) (by omega)
    obtain ⟨l, read', later, same'⟩ := read?_away plain hours minutes seconds found day
      (toList_zoneText '-' east south) (by decide) behind (by omega) (by omega)
    refine ⟨⟨e, read, ?_, same.trans nano⟩, l, read', ?_, same'.trans nano⟩
    · omega
    · omega

/-- The last day of a year that ended with a leap second. -/
def Date.longDay : Date :=
  ⟨2016, 12, 31, by decide, by decide, by decide⟩

/-- A quarter of a second into the leap second of that day. -/
def Instant.leapSecond : Instant :=
  { date := Date.longDay, second := 86399, nano := 1250000000, second_lt := by decide
    nano_lt := by decide }

/-- Half an hour into the year after it. -/
def Instant.halfPast : Instant :=
  { date := ⟨2017, 1, 1, by decide, by decide, by decide⟩, second := 1800, nano := 0
    second_lt := by decide, nano_lt := by decide }

/-- The leap second is read back, and an offset leads from the old year into the new one. -/
theorem Calendar.leapSecond_halfPast_written :
    read? "2016-12-31T23:59:60.250+00:00" = some Instant.leapSecond ∧
      read? "2016-12-31" = read? "2016-12-31T00:00:00Z" ∧
      read? "2016-12-31T23:30:00-01:00" = some Instant.halfPast := by
  obtain ⟨instants, days, times⟩ := one_instant_however_written
  have plain : Date.longDay.FourDigits := ⟨by decide, by decide⟩
  refine ⟨instants Instant.leapSecond plain, ?_, ?_⟩
  · obtain ⟨day, -, zulu⟩ := days Date.longDay plain
    exact day.trans zulu.symm
  · obtain ⟨i, ⟨day, time, -⟩, -, -, offsets⟩ :=
      times Date.longDay 23 30 0 plain (by decide) (by decide) (by decide)
    obtain ⟨-, e, read, later, nano⟩ := offsets 1 0 (by decide) (by decide)
    have same : e.seconds = Instant.halfPast.seconds := by
      rw [later, Instant.seconds, day, time]
      decide
    rw [← Instant.eq_of_seconds same nano]
    exact read

end ListQuery
