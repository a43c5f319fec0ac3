/-!
# Timestamps in plain scalars

A plain scalar is a timestamp when it is a date `YYYY-M-D`, alone or followed by a time
`h:m:s` with an optional fraction, either after `T` or `t` and then a zone (`Z` or `±hh:mm`),
or after spaces and with no zone. The year has four digits; month, day, hour, minute and
second have one or two. Every field must be in range: the day within its month (February has
29 days in leap years), the hour below 24, minute and second below 60, the zone's hour at most
24 and its minute at most 60.
-/

namespace WordSift.Yaml.Timestamp

/-- One or two digits, as many as there are, and the rest. -/
def number? : List Char → Option (Nat × List Char)
  | a :: b :: r =>
    if !a.isDigit then none
    else if b.isDigit then some (10 * (a.toNat - 48) + (b.toNat - 48), r)
    else some (a.toNat - 48, b :: r)
  | [a] => if a.isDigit then some (a.toNat - 48, []) else none
  | [] => none

/-- Exactly two digits. -/
def twoDigits? : List Char → Option Nat
  | [a, b] => if a.isDigit && b.isDigit then some (10 * (a.toNat - 48) + (b.toNat - 48)) else none
  | _ => none

/-- A leap year of the Gregorian calendar. -/
def isLeap (y : Nat) : Bool := y % 4 == 0 && (y % 100 != 0 || y % 400 == 0)

/-- The number of days of a month. -/
def daysIn (month year : Nat) : Nat :=
  if month == 2 then (if isLeap year then 29 else 28)
  else if month == 4 || month == 6 || month == 9 || month == 11 then 30
  else 31

/-- A date `YYYY-M-D` at the start of a text, if its fields are in range, and the rest. -/
def date? (cs : List Char) : Option (List Char) := do
  let year := cs.take 4
  if year.length != 4 || !year.all Char.isDigit then none
  let year := year.foldl (fun n c => 10 * n + (c.toNat - 48)) 0
  let rest ← match cs.drop 4 with
    | '-' :: r => some r
    | _ => none
  let (month, rest) ← number? rest
  if month == 0 || 12 < month then none
  let rest ← match rest with
    | '-' :: r => some r
    | _ => none
  let (day, rest) ← number? rest
  if day == 0 || daysIn month year < day then none
  return rest

/-- A time `h:m:s` with an optional fraction (a point or comma and digits) at the start of a
text, if its fields are in range, and the rest. -/
def time? (cs : List Char) : Option (List Char) := do
  let (hour, rest) ← number? cs
  if 24 ≤ hour then none
  let rest ← match rest with
    | ':' :: r => some r
    | _ => none
  let (minute, rest) ← number? rest
  if 60 ≤ minute then none
  let rest ← match rest with
    | ':' :: r => some r
    | _ => none
  let (second, rest) ← number? rest
  if 60 ≤ second then none
  match rest with
  | c :: d :: r =>
    if (c == '.' || c == ',') && d.isDigit then some (r.dropWhile Char.isDigit) else some rest
  | _ => some rest

/-- A zone that ends a text: `Z`, or a sign, two digits, a colon and two digits. -/
def isZone : List Char → Bool
  | ['Z'] => true
  | [s, h1, h2, ':', m1, m2] =>
    (s == '+' || s == '-') &&
      ((twoDigits? [h1, h2]).any (· ≤ 24)) && ((twoDigits? [m1, m2]).any (· ≤ 60))
  | _ => false

/-- Whether a text is a timestamp. -/
def isTimestamp (s : String) : Bool :=
  match date? s.toList with
  | none => false
  | some [] => true
  | some (c :: rest) =>
    if c == 'T' || c == 't' then
      match time? rest with
      | some zone => isZone zone
      | none => false
    else if c == ' ' then
      match time? (rest.dropWhile (· == ' ')) with
      | some [] => true
      | _ => false
    else false

end WordSift.Yaml.Timestamp
