import ModelSchema.Schema.Address
import ModelSchema.Schema.Pattern

/-!
# Formats of text

The formats that a schema may ask for by name: dates and times, addresses, and patterns.

A date is `YYYY-MM-DD` with a day that exists, leap years being taken as in the Gregorian calendar
in all years.  A time is `HH:MM:SS`, possibly with a fraction, and an offset from universal time;
second 60 occurs only at the end of a day in universal time.  A date-time is a date and a time
with `T` between them.
-/

namespace ModelSchema

namespace Format

/-- The number that two ASCII digits stand for. -/
def twoDigits? (a b : Char) : Option Nat :=
  if a.isDigit ∧ b.isDigit then some (10 * (a.toNat - 48) + (b.toNat - 48)) else none

/-- Whether a year has 366 days. -/
def isLeapYear (year : Nat) : Bool := year % 4 == 0 && (year % 100 != 0 || year % 400 == 0)

/-- The number of days of a month; no month has days beyond December. -/
def daysOfMonth (year month : Nat) : Nat :=
  if month = 2 then if isLeapYear year then 29 else 28
  else if month ∈ [4, 6, 9, 11] then 30
  else if 1 ≤ month ∧ month ≤ 12 then 31
  else 0

/-- Whether a text is a date. -/
def isDate : List Char → Bool
  | [y1, y2, y3, y4, '-', m1, m2, '-', d1, d2] =>
    match twoDigits? y1 y2, twoDigits? y3 y4, twoDigits? m1 m2, twoDigits? d1 d2 with
    | some century, some year, some month, some day =>
      1 ≤ day && day ≤ daysOfMonth (100 * century + year) month
    | _, _, _, _ => false
  | _ => false

/-- The offset from universal time in minutes. -/
def offset? : List Char → Option Int
  | ['Z'] => some 0
  | ['z'] => some 0
  | [sign, h1, h2, ':', m1, m2] =>
    match twoDigits? h1 h2, twoDigits? m1 m2 with
    | some hours, some minutes =>
      if 23 < hours ∨ 59 < minutes then none
      else if sign = '+' then some (60 * hours + minutes : Nat)
      else if sign = '-' then some (-(60 * hours + minutes : Nat))
      else none
    | _, _ => none
  | _ => none

/-- The text after a fraction of a second; a point without a digit is no fraction. -/
def afterFraction? : List Char → Option (List Char)
  | '.' :: rest =>
    match rest with
    | d :: _ => if d.isDigit then some (rest.dropWhile Char.isDigit) else none
    | [] => none
  | rest => some rest

/-- Whether a text is a time. -/
def isTime : List Char → Bool
  | h1 :: h2 :: ':' :: m1 :: m2 :: ':' :: s1 :: s2 :: rest =>
    match twoDigits? h1 h2, twoDigits? m1 m2, twoDigits? s1 s2, (afterFraction? rest).bind offset?
      with
    | some hour, some minute, some second, some offset =>
      hour ≤ 23 && minute ≤ 59 &&
        (second ≤ 59 ||
          (second == 60 && ((60 * hour + minute : Nat) - offset) % 1440 == 23 * 60 + 59))
    | _, _, _, _ => false
  | _ => false

/-- Whether a text is a date and a time. -/
def isDateTime (cs : List Char) : Bool :=
  let date := cs.takeWhile fun c => c ≠ 'T' && c ≠ 't'
  match cs.drop date.length with
  | _ :: time => isDate date && isTime time
  | [] => false

/-- Whether a text has a format.  Every text has a format that is not known. -/
def holds (format text : String) : Bool :=
  match format with
  | "date" => isDate text.toList
  | "time" => isTime text.toList
  | "date-time" => isDateTime text.toList
  | "email" => Address.isEmail text.toList
  | "hostname" => Address.isHostname text.toList
  | "ipv4" => Address.isIPv4 text.toList
  | "ipv6" => Address.isIPv6 text.toList
  | "uri" => Address.isUri text.toList
  | "regex" => (SchemaPattern.ofText? text).isSome
  | _ => true

end Format

end ModelSchema
