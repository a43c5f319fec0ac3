import WordSift.Bytes

/-!
# Double-precision numbers

A double-precision number is `± m × 2 ^ e` with a 53-bit significand (an infinity or NaN
aside). `Double.ofDecimal` rounds a decimal `± digits × 10 ^ exp` to the nearest one, a tie
going to the even significand, with the usual gradual underflow below `2 ^ -1022` and infinity
above the largest finite number. `Double.shortest` finds the decimal with the fewest digits that
rounds back to the same number, the nearest of those when two have as few. `Double.general`
writes a number in the general notation: positional when its decimal exponent is at least -4
and below 6, scientific with a two-digit exponent otherwise.
-/

namespace WordSift

/-- A double-precision number: `± m × 2 ^ e`, an infinity or NaN. -/
inductive Double where
  | finite (neg : Bool) (m : Nat) (e : Int)
  | inf (neg : Bool)
  | nan
deriving DecidableEq, Repr

namespace Double

/-- `n / d` rounded to the nearest integer, a tie going to the even one. -/
def roundHalfEven (n d : Nat) : Nat :=
  let q := n / d
  let r := n % d
  if 2 * r > d then q + 1 else if 2 * r < d then q else if q % 2 == 0 then q else q + 1

/-- `n / d ≥ 2 ^ k`, for a possibly negative `k`. -/
def atLeastPow2 (n d : Nat) (k : Int) : Bool :=
  if 0 ≤ k then n ≥ d * Nat.pow 2 k.toNat else n * Nat.pow 2 (-k).toNat ≥ d

/-- `⌊log₂ (n / d)⌋` for positive `n` and `d`. -/
def floorLog2 (n d : Nat) : Int :=
  let k : Int := (Nat.log2 n : Int) - Nat.log2 d
  if atLeastPow2 n d k then k else k - 1

/-- The nearest number to the positive fraction `n / d`, or to zero. -/
def ofRatio (neg : Bool) (n d : Nat) : Double :=
  if n = 0 then .finite neg 0 0
  else
    let e := max (floorLog2 n d - 52) (-1074)
    let m := if 0 ≤ e then roundHalfEven n (d * Nat.pow 2 e.toNat)
      else roundHalfEven (n * Nat.pow 2 (-e).toNat) d
    let (m, e) := if m = Nat.pow 2 53 then (Nat.pow 2 52, e + 1) else (m, e)
    if e > 971 then .inf neg else .finite neg m e

/-- The number of decimal digits of a natural number (one for zero). -/
def digitCount (n : Nat) : Nat := (toString n).length

/-- The nearest number to `± digits × 10 ^ exp`. -/
def ofDecimal (neg : Bool) (digits : Nat) (exp : Int) : Double :=
  if digits = 0 then .finite neg 0 0
  else if exp > 310 then .inf neg
  else if exp + digitCount digits < -330 then .finite neg 0 0
  else if 0 ≤ exp then ofRatio neg (digits * Nat.pow 10 exp.toNat) 1
  else ofRatio neg digits (Nat.pow 10 (-exp).toNat)

/-- A non-negative rational `num / den`. -/
structure Ratio where
  num : Nat
  den : Nat

/-- `k × 2 ^ e` as a ratio. -/
def scaled (k : Nat) (e : Int) : Ratio :=
  if 0 ≤ e then ⟨k * Nat.pow 2 e.toNat, 1⟩ else ⟨k, Nat.pow 2 (-e).toNat⟩

/-- `c × 10 ^ t` as a ratio. -/
def decimal (c : Nat) (t : Int) : Ratio :=
  if 0 ≤ t then ⟨c * Nat.pow 10 t.toNat, 1⟩ else ⟨c, Nat.pow 10 (-t).toNat⟩

/-- Compares two ratios. -/
def Ratio.le (a b : Ratio) : Bool := a.num * b.den ≤ b.num * a.den

/-- Compares two ratios strictly. -/
def Ratio.lt (a b : Ratio) : Bool := a.num * b.den < b.num * a.den

/-- `⌊log₁₀ v⌋` for the positive number `m × 2 ^ e`. -/
def floorLog10 (m : Nat) (e : Int) : Int :=
  let v := scaled m e
  let b : Int := (Nat.log2 m : Int) + e
  let x0 : Int := (b * 30103).fdiv 100000
  if (decimal 1 (x0 + 1)).le v then x0 + 1 else if (decimal 1 x0).le v then x0 else x0 - 1

/-- The decimal `c × 10 ^ t` with the fewest digits (and then nearest) that rounds to the
positive number `m × 2 ^ e`. -/
def shortest (m : Nat) (e : Int) : Nat × Int :=
  let v := scaled m e
  let lowK := if m = Nat.pow 2 52 ∧ e > -1074 then 4 * m - 1 else 4 * m - 2
  let low := scaled lowK (e - 2)
  let high := scaled (4 * m + 2) (e - 2)
  let closed := m % 2 == 0
  let inside := fun (r : Ratio) =>
    if closed then low.le r && r.le high else low.lt r && r.lt high
  let x := floorLog10 m e
  let pick := fun (n : Nat) =>
    let t : Int := x - n + 1
    let unit := decimal 1 t
    let c0 := (v.num * unit.den) / (v.den * unit.num)
    let lowIn := inside (decimal c0 t)
    let highIn := inside (decimal (c0 + 1) t)
    if lowIn && highIn then
      -- the nearer of the two, a tie going to the even digit string
      let twice : Ratio := ⟨2 * v.num, v.den⟩
      let mid := decimal (2 * c0 + 1) t
      if twice.lt mid then some (c0, t) else if mid.lt twice then some (c0 + 1, t)
      else if c0 % 2 == 0 then some (c0, t) else some (c0 + 1, t)
    else if lowIn then some (c0, t)
    else if highIn then some (c0 + 1, t)
    else none
  let found := ((List.range 17).map (· + 1)).findSome? pick
  let (c, t) := found.getD (m, e)
  let zeros := ((toString c).toList.reverse.takeWhile (· == '0')).length
  (c / Nat.pow 10 zeros, t + zeros)

/-- Writes a decimal exponent with its sign and at least two digits. -/
def exponentText (x : Int) : String :=
  let ds := toString x.natAbs
  (if x < 0 then "-" else "+") ++ (if ds.length < 2 then "0" ++ ds else ds)

/-- The general notation of the digits `ds` with the decimal point after `dp` of them. -/
def generalDigits (ds : String) (dp : Int) : String :=
  let nd := ds.length
  let x := dp - 1
  if x < -4 ∨ x ≥ 6 then
    let cs := ds.toList
    String.singleton (cs.headD '0') ++ (if nd > 1 then "." ++ String.ofList cs.tail else "") ++
      "e" ++ exponentText x
  else if dp ≤ 0 then
    "0." ++ String.ofList (List.replicate (-dp).toNat '0') ++ ds
  else if dp ≥ nd then ds ++ String.ofList (List.replicate (dp.toNat - nd) '0')
  else String.ofList (ds.toList.take dp.toNat) ++ "." ++ String.ofList (ds.toList.drop dp.toNat)

/-- A number in the general notation with the fewest digits. -/
def general : Double → String
  | .nan => "NaN"
  | .inf neg => if neg then "-Inf" else "+Inf"
  | .finite neg m e =>
    let sign := if neg then "-" else ""
    if m = 0 then sign ++ "0"
    else
      let (c, t) := shortest m e
      let ds := toString c
      sign ++ generalDigits ds (ds.length + t)

/-- The 64 bits that encode a number: sign, biased exponent and fraction. -/
def bits : Double → Nat
  | .nan => 0x7FF8000000000000
  | .inf neg => (if neg then Nat.pow 2 63 else 0) + 0x7FF * Nat.pow 2 52
  | .finite neg m e =>
    let sign := if neg then Nat.pow 2 63 else 0
    if m < Nat.pow 2 52 then sign + m
    else sign + (e + 1075).toNat * Nat.pow 2 52 + (m - Nat.pow 2 52)

/-- The integer a number converts to, cut toward zero, when it is at most `2 ^ 63`; numbers
out of the range of 64-bit integers convert to the least of them. -/
def toInt64? : Double → Option Int
  | .nan => none
  | .inf neg => if neg then some (-(Nat.pow 2 63 : Int)) else none
  | .finite neg m e =>
    let mag := if 0 ≤ e then m * Nat.pow 2 e.toNat else m / Nat.pow 2 (-e).toNat
    let above := !neg &&
      (if 0 ≤ e then m * Nat.pow 2 e.toNat > Nat.pow 2 63 else m > Nat.pow 2 63 * Nat.pow 2 (-e).toNat)
    if above then none
    else if mag ≥ Nat.pow 2 63 then some (-(Nat.pow 2 63 : Int))
    else some (if neg then -(mag : Int) else mag)

end Double

end WordSift
