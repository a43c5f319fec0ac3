import WordSift.Bytes

/-!
# Decimal numerals

`decimal?` reads a signed decimal numeral: an optional `+` or `-`, then at least one ASCII
digit and nothing else, with a value that fits in 64 signed bits. `grouped` writes an integer
with a comma between groups of three digits, counted from the right.
-/

namespace WordSift.Numeral

/-- The least value of 64 signed bits. -/
def int64Min : Int := -(Nat.pow 2 63 : Int)

/-- The greatest value of 64 signed bits. -/
def int64Max : Int := (Nat.pow 2 63 : Int) - 1

/-- The value of a string of ASCII digits, if it is one and not empty. -/
def digitsValue? (s : Bytes) : Option Nat :=
  if !s.isEmpty && s.all (fun b => decide (48 ≤ b.toNat) && decide (b.toNat ≤ 57)) then
    some (s.foldl (fun n b => 10 * n + (b.toNat - 48)) 0)
  else none

/-- Reads a signed decimal numeral that fits in 64 signed bits. -/
def decimal? (s : Bytes) : Option Int :=
  let (neg, body) := match s with
    | 45 :: r => (true, r)
    | 43 :: r => (false, r)
    | r => (false, r)
  match digitsValue? body with
  | none => none
  | some v =>
    let n : Int := if neg then -(v : Int) else v
    if int64Min ≤ n ∧ n ≤ int64Max then some n else none

/-- Groups the digits of a natural number by three from the right. -/
def groupDigits (ds : List Char) : List Char :=
  let r := ds.reverse
  ((List.range r.length).zip r).foldl
    (fun acc (i, d) => if i > 0 ∧ i % 3 = 0 then d :: ',' :: acc else d :: acc) []

/-- An integer with its digits grouped by three, such as `-1,234,567`. -/
def grouped (n : Int) : String :=
  let body := String.ofList (groupDigits (Nat.toDigits 10 n.natAbs))
  if n < 0 then "-" ++ body else body

end WordSift.Numeral
