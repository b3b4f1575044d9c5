import MemberDocs.Number.Literal

/-! # Dates and times

A timestamp is a date, or a date with a time of day and maybe an offset from universal time. Reading
one has two steps: the written fields (`TimestampFields.ofChars?`), and the check that they name a
day and a time that exist (`TimestampFields.check`).
-/

namespace MemberDocs

/-- Why written fields name no day or time. -/
inductive CalendarFault where
  | year (year : Nat)
  | month
  | day
  | hour
  | minute
  | second
  /-- The offset is a day or more, here in days and in seconds of the last of them. -/
  | offset (days seconds : Int)
deriving DecidableEq, Repr

def CalendarFault.message : CalendarFault → String
  | year n => "year " ++ toString n ++ " is out of range"
  | month => "month must be in 1..12"
  | day => "day is out of range for month"
  | hour => "hour must be in 0..23"
  | minute => "minute must be in 0..59"
  | second => "second must be in 0..59"
  | offset days seconds =>
    "offset must be a timedelta strictly between -timedelta(hours=24) and timedelta(hours=24), " ++
      "not datetime.timedelta(days=" ++ toString days ++
      (if seconds = 0 then "" else ", seconds=" ++ toString seconds) ++ ")."

/-- A time of day, with its offset from universal time in seconds if it has one. -/
structure TimeOfDay where
  hour : Nat
  minute : Nat
  second : Nat
  microsecond : Nat
  offset : Option Int
deriving DecidableEq, Repr

/-- A day, or a time of one. -/
structure Timestamp where
  year : Nat
  month : Nat
  day : Nat
  time : Option TimeOfDay
deriving DecidableEq, Repr

/-- How an offset from universal time is written. -/
inductive ZoneField where
  | none
  | universal
  | shifted (negative : Bool) (hours minutes : Nat)
deriving DecidableEq, Repr

/-- The fields of a time as they are written; the digits after the point are kept as digits. -/
structure TimeFields where
  hour : Nat
  minute : Nat
  second : Nat
  fraction : List Char
  zone : ZoneField
deriving DecidableEq, Repr

/-- The fields of a timestamp as they are written. -/
structure TimestampFields where
  year : Nat
  month : Nat
  day : Nat
  /-- Month and day are both written with two digits. -/
  isPadded : Bool
  time : Option TimeFields
deriving DecidableEq, Repr

/-- The number of one digit or of two at the front, how many digits it has, and what follows it. -/
def oneOrTwoDigits? : List Char → Option (Nat × Nat × List Char)
  | a :: b :: rest =>
    if a.isDigit then
      if b.isDigit then some (digitOf a * 10 + digitOf b, 2, rest)
      else some (digitOf a, 1, b :: rest)
    else none
  | [a] => if a.isDigit then some (digitOf a, 1, []) else none
  | [] => none

/-- The number of two digits at the front, and what follows it. -/
def twoDigits? (cs : List Char) : Option (Nat × List Char) :=
  match oneOrTwoDigits? cs with
  | some (n, 2, rest) => some (n, rest)
  | _ => none

/-- What follows a character at the front. -/
def after? (c : Char) : List Char → Option (List Char)
  | d :: rest => if c = d then some rest else none
  | [] => none

/-- The offset that ends a timestamp; only an offset may have blanks before it. -/
def readZone? (cs : List Char) : Option ZoneField :=
  if cs.isEmpty then some .none
  else
    match cs.dropWhile fun c => c = ' ' || c = '\t' with
    | ['Z'] => some .universal
    | sign :: rest =>
      if sign = '+' || sign = '-' then
        match oneOrTwoDigits? rest with
        | some (hours, _, []) => some (.shifted (sign = '-') hours 0)
        | some (hours, _, ':' :: rest) =>
          match twoDigits? rest with
          | some (minutes, []) => some (.shifted (sign = '-') hours minutes)
          | _ => none
        | _ => none
      else none
    | [] => none

/-- A time with its offset, up to the end. -/
def readTime? (cs : List Char) : Option TimeFields := do
  let (hour, _, cs) ← oneOrTwoDigits? cs
  let (minute, cs) ← twoDigits? (← after? ':' cs)
  let (second, cs) ← twoDigits? (← after? ':' cs)
  let (fraction, cs) :=
    match cs with
    | '.' :: cs => (cs.takeWhile Char.isDigit, cs.dropWhile Char.isDigit)
    | _ => ([], cs)
  let zone ← readZone? cs
  some ⟨hour, minute, second, fraction, zone⟩

/-- What follows the mark between a date and a time: a letter T, or blanks. -/
def dropTimeMark? : List Char → Option (List Char)
  | c :: rest =>
    if c = 'T' || c = 't' then some rest
    else if c = ' ' || c = '\t' then some (rest.dropWhile fun c => c = ' ' || c = '\t')
    else none
  | [] => none

/-- Reads the fields of a timestamp that takes up the whole text. -/
def TimestampFields.ofChars? (cs : List Char) : Option TimestampFields := do
  let (century, cs) ← twoDigits? cs
  let (inCentury, cs) ← twoDigits? cs
  let (month, monthWidth, cs) ← oneOrTwoDigits? (← after? '-' cs)
  let (day, dayWidth, cs) ← oneOrTwoDigits? (← after? '-' cs)
  let date : TimestampFields :=
    ⟨century * 100 + inCentury, month, day, monthWidth = 2 && dayWidth = 2, none⟩
  if cs.isEmpty then some date
  else
    let time ← readTime? (← dropTimeMark? cs)
    some { date with time := some time }

/-- A leap year has one day more, in its second month. -/
def isLeapYear (year : Nat) : Bool :=
  year % 4 = 0 && (year % 100 ≠ 0 || year % 400 = 0)

def daysInMonth (year month : Nat) : Nat :=
  if month = 2 then if isLeapYear year then 29 else 28
  else if month = 4 || month = 6 || month = 9 || month = 11 then 30
  else 31

/-- The microseconds that the digits after the point stand for; digits after the sixth do not
count. -/
def microseconds (fraction : List Char) : Nat :=
  let digits := fraction.take 6
  digitsValue 10 (digits ++ List.replicate (6 - digits.length) '0')

/-- The offset that is written, in seconds; it has to be less than a day. -/
def ZoneField.check : ZoneField → Except CalendarFault (Option Int)
  | none => .ok Option.none
  | universal => .ok (some 0)
  | shifted negative hours minutes =>
    let seconds : Int := hours * 3600 + minutes * 60
    let seconds := if negative then -seconds else seconds
    if seconds.natAbs < 86400 then .ok (some seconds)
    else .error (.offset (seconds.fdiv 86400) (seconds.fmod 86400))

/-- The first field of a date that is out of range. -/
def dateFault? (year month day : Nat) : Option CalendarFault :=
  if year = 0 then some (.year year)
  else if month < 1 || 12 < month then some .month
  else if day < 1 || daysInMonth year month < day then some .day
  else none

/-- The first field of a time that is out of range. -/
def timeFault? (fields : TimeFields) : Option CalendarFault :=
  if 23 < fields.hour then some .hour
  else if 59 < fields.minute then some .minute
  else if 59 < fields.second then some .second
  else none

/-- The timestamp that written fields name. The offset is checked first, then the date, then the
time. -/
def TimestampFields.check (fields : TimestampFields) : Except CalendarFault Timestamp := do
  let offset ←
    match fields.time with
    | none => .ok none
    | some time => time.zone.check
  match dateFault? fields.year fields.month fields.day with
  | some fault => .error fault
  | none =>
    match fields.time with
    | none => .ok ⟨fields.year, fields.month, fields.day, none⟩
    | some time =>
      match timeFault? time with
      | some fault => .error fault
      | none =>
        .ok ⟨fields.year, fields.month, fields.day,
          some ⟨time.hour, time.minute, time.second, microseconds time.fraction, offset⟩⟩

/-- A number with zeros in front, up to a width. -/
def padded (width n : Nat) : String :=
  let digits := Nat.toDigits 10 n
  String.ofList (List.replicate (width - digits.length) '0' ++ digits)

/-- A time of day as text, with the offset in hours and minutes. -/
def TimeOfDay.text (time : TimeOfDay) : String :=
  padded 2 time.hour ++ ":" ++ padded 2 time.minute ++ ":" ++ padded 2 time.second ++
    (if time.microsecond = 0 then "" else "." ++ padded 6 time.microsecond) ++
    match time.offset with
    | none => ""
    | some offset =>
      (if offset < 0 then "-" else "+") ++ padded 2 (offset.natAbs / 3600) ++ ":" ++
        padded 2 (offset.natAbs / 60 % 60)

/-- A timestamp as text. -/
def Timestamp.text (timestamp : Timestamp) : String :=
  padded 4 timestamp.year ++ "-" ++ padded 2 timestamp.month ++ "-" ++ padded 2 timestamp.day ++
    match timestamp.time with
    | none => ""
    | some time => " " ++ time.text

/-- The number of days before a date, counted from the first day of the year 1. -/
def dayNumber (year month day : Nat) : Nat :=
  let years := year - 1
  years * 365 + years / 4 - years / 100 + years / 400 +
    (List.range (month - 1)).foldl (fun days m => days + daysInMonth year (m + 1)) 0 + (day - 1)

/-- The microseconds of a time since the start of the year 1, less its offset. -/
def instant (date : Timestamp) (time : TimeOfDay) : Int :=
  let seconds : Int :=
    ((dayNumber date.year date.month date.day * 24 + time.hour) * 60 + time.minute) * 60 +
      time.second
  (seconds - time.offset.getD 0) * 1000000 + time.microsecond

/-- Two timestamps are the same if they name the same day, or the same time. A time with an offset
is never the same as one without. -/
def Timestamp.same (a b : Timestamp) : Bool :=
  match a.time, b.time with
  | none, none => a = b
  | some s, some t => s.offset.isSome = t.offset.isSome && instant a s = instant b t
  | _, _ => false

end MemberDocs
