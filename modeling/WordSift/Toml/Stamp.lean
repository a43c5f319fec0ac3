import WordSift.Bytes

/-!
# TOML date-times

A date-time is written in one of four forms: an offset date-time `1979-05-27T07:32:00Z` (or with
an offset `+hh:mm` or `-hh:mm` in place of `Z`), a local date-time without the offset, a local
date `1979-05-27`, and a local time `07:32:00`. A lowercase `t`, a space and a lowercase `z`
stand for `T`, `T` and `Z`. The year has four digits and every other field two; the seconds may
be followed by a point and a fraction of any length, of which nine digits are kept as
nanoseconds. The month runs from 1 to 12, the day within its month (February has 29 days in a
leap year of the Gregorian calendar), the hour below 24, the minute and the second below 60; an
offset may reach 24 hours and 60 minutes.

A date-time is written back in RFC 3339 form: the fraction without its trailing zeros (and no
point when it is zero), `Z` for a zero or a local offset, and the date 0000-01-01 for a local
time.
-/

namespace WordSift.Toml

/-- Where a date-time stands: at a fixed offset from universal time, in minutes, or nowhere in
particular. -/
inductive Zone where
  | offset (minutes : Int)
  | floating
deriving DecidableEq, Repr

/-- A date-time. -/
structure Stamp where
  year : Nat := 0
  month : Nat := 1
  day : Nat := 1
  hour : Nat := 0
  minute : Nat := 0
  second : Nat := 0
  nanos : Nat := 0
  zone : Zone := .floating
deriving DecidableEq, Repr

namespace Stamp

/-- The value of a run of decimal digits, if every character is one. -/
def digits? (cs : List Char) : Option Nat :=
  if cs.isEmpty || !cs.all Char.isDigit then none
  else some (cs.foldl (fun n c => 10 * n + (c.toNat - 48)) 0)

/-- A leap year of the Gregorian calendar. -/
def isLeap (y : Nat) : Bool := y % 4 == 0 && (y % 100 != 0 || y % 400 == 0)

/-- The number of days of a month. -/
def daysIn (year month : Nat) : Nat :=
  match month with
  | 2 => if isLeap year then 29 else 28
  | 4 | 6 | 9 | 11 => 30
  | _ => 31

/-- Reads a date `yyyy-mm-dd` at the front: year, month, day and what follows. -/
def date? : List Char → Option ((Nat × Nat × Nat) × List Char)
  | y1 :: y2 :: y3 :: y4 :: '-' :: m1 :: m2 :: '-' :: d1 :: d2 :: rest => do
    let y ← digits? [y1, y2, y3, y4]
    let m ← digits? [m1, m2]
    let d ← digits? [d1, d2]
    if m < 1 || m > 12 || d < 1 || d > daysIn y m then none
    return ((y, m, d), rest)
  | _ => none

/-- Reads a time `hh:mm:ss` with an optional fraction at the front: hour, minute, second,
nanoseconds and what follows. -/
def time? : List Char → Option ((Nat × Nat × Nat × Nat) × List Char)
  | h1 :: h2 :: ':' :: n1 :: n2 :: ':' :: s1 :: s2 :: rest => do
    let h ← digits? [h1, h2]
    let n ← digits? [n1, n2]
    let s ← digits? [s1, s2]
    if h ≥ 24 || n ≥ 60 || s ≥ 60 then none
    match rest with
    | '.' :: d :: more =>
      if !d.isDigit then return ((h, n, s, 0), rest)
      let fraction := (d :: more).takeWhile Char.isDigit
      let kept := (fraction.take 9 ++ List.replicate 9 '0').take 9
      return ((h, n, s, (digits? kept).getD 0), (d :: more).dropWhile Char.isDigit)
    | _ => return ((h, n, s, 0), rest)
  | _ => none

/-- Reads an offset at the front: `Z`, or a sign, two digits of hours, a colon and two digits of
minutes. -/
def zone? : List Char → Option (Zone × List Char)
  | 'Z' :: rest => some (.offset 0, rest)
  | sign :: h1 :: h2 :: ':' :: m1 :: m2 :: rest => do
    let h ← digits? [h1, h2]
    let m ← digits? [m1, m2]
    if h > 24 || m > 60 then none
    let minutes : Int := (h * 60 + m : Nat)
    if sign == '+' then return (.offset minutes, rest)
    else if sign == '-' then return (.offset (-minutes), rest)
    else none
  | _ => none

/-- The text with `t`, `z` and spaces read as `T`, `Z` and `T`. -/
def normalize (s : String) : List Char :=
  s.toList.map fun c => if c == 't' || c == ' ' then 'T' else if c == 'z' then 'Z' else c

/-- Reads a date-time in one of its four forms. -/
def read? (s : String) : Option Stamp :=
  let cs := normalize s
  let withDate : Option Stamp := do
    let ((year, month, day), rest) ← date? cs
    match rest with
    | [] => return { year, month, day }
    | 'T' :: more =>
      let ((hour, minute, second, nanos), rest) ← time? more
      match rest with
      | [] => return { year, month, day, hour, minute, second, nanos }
      | _ =>
        let (zone, rest) ← zone? rest
        if rest.isEmpty then return { year, month, day, hour, minute, second, nanos, zone }
        else none
    | _ => none
  match withDate with
  | some st => some st
  | none => do
    let ((hour, minute, second, nanos), rest) ← time? cs
    if rest.isEmpty then return { hour, minute, second, nanos } else none

/-- A number with at least `width` digits. -/
def padded (width n : Nat) : String :=
  let ds := toString n
  String.ofList (List.replicate (width - ds.length) '0') ++ ds

/-- The fraction of a second as written after the seconds: nine digits without their trailing
zeros, behind a point; nothing for zero. -/
def fractionText (nanos : Nat) : String :=
  if nanos == 0 then ""
  else "." ++ String.ofList ((padded 9 nanos).toList.reverse.dropWhile (· == '0')).reverse

/-- The offset as written: `Z` for zero, else a sign, hours and minutes. -/
def zoneText : Zone → String
  | .floating => "Z"
  | .offset m =>
    if m == 0 then "Z"
    else (if m < 0 then "-" else "+") ++ padded 2 (m.natAbs / 60) ++ ":" ++ padded 2 (m.natAbs % 60)

/-- The date-time in RFC 3339 form. -/
def text (t : Stamp) : String :=
  padded 4 t.year ++ "-" ++ padded 2 t.month ++ "-" ++ padded 2 t.day ++ "T" ++
    padded 2 t.hour ++ ":" ++ padded 2 t.minute ++ ":" ++ padded 2 t.second ++
    fractionText t.nanos ++ zoneText t.zone

end Stamp

end WordSift.Toml
