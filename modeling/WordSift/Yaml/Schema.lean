import WordSift.Yaml.Timestamp
import WordSift.Numeral.Binary64

/-!
# What scalars mean

A scalar's tag says what it is. A tag written as `tag:yaml.org,2002:x` is shown as `!!x`. A
plain scalar without a tag gets the tag its text suggests:

* null for the empty text, `~` and `null`, booleans for `true` and `false`, floats for `.nan`,
  `.inf`, `+.inf`, `-.inf` (each in three spellings) and for `-0` and `-0.0`;
* a timestamp for a date, or a date and time (see `Timestamp`);
* an integer for a decimal number of 64 bits, signed or not, or one with a prefix `0x`, `0o`
  or `0b` (a leading `0` alone also means octal); underscores are ignored;
* a float for digits with a point or an exponent, unless it is too large to hold;
* a string for everything else.

A scalar with an explicit tag of the core schema must read as that tag (an integer may stand
for a float); a tag outside the core schema is kept as it is.
-/

namespace WordSift.Yaml

/-- The prefix of the tags of the core schema. -/
def corePrefix : String := "tag:yaml.org,2002:"

/-- A tag in its short form: `!!x` for a tag of the core schema. -/
def shortTag (tag : String) : String :=
  if tag.startsWith corePrefix then "!!" ++ String.ofList (tag.toList.drop corePrefix.length)
  else tag

/-- What a scalar means. An integer may be any 64-bit value, signed or not. -/
inductive Scalar where
  | null
  | bool (b : Bool)
  | int (n : Int)
  | float (x : Double)
  | timestamp
  | str (s : String)
deriving DecidableEq, Repr

/-- The short tag of a meaning. -/
def Scalar.tag : Scalar → String
  | .null => "!!null"
  | .bool _ => "!!bool"
  | .int _ => "!!int"
  | .float _ => "!!float"
  | .timestamp => "!!timestamp"
  | .str _ => "!!str"

/-- The value of a digit in a base, if it is one; letters in either case. -/
def digitIn (base : Nat) (c : Char) : Option Nat :=
  let v := if c.isDigit then some (c.toNat - 48)
    else if 'a' ≤ c.toLower && c.toLower ≤ 'z' then some (c.toLower.toNat - 87)
    else none
  v.bind fun d => if d < base then some d else none

/-- The value of digits in a base, if they all are digits of it. -/
def digitsValue (base : Nat) (cs : List Char) : Option Nat :=
  cs.foldl (fun acc c => acc.bind fun n => (digitIn base c).map (base * n + ·)) (some 0)

/-- Reads an unsigned integer below `2 ^ 64`. In base 0 the base comes from a prefix: `0b`,
`0o` or `0x` followed by at least one character, or else a leading `0` for octal. -/
def readUnsigned? (base : Nat) (cs : List Char) : Option Nat := do
  if cs.isEmpty then none
  let (b, ds) := if base != 0 then (base, cs) else
    match cs with
    | '0' :: c :: r@(_ :: _) =>
      if c.toLower == 'b' then (2, r) else if c.toLower == 'o' then (8, r)
      else if c.toLower == 'x' then (16, r) else (8, c :: r)
    | '0' :: r => (8, r)
    | _ => (10, cs)
  let v ← digitsValue b ds
  if Nat.pow 2 64 ≤ v then none
  return v

/-- Reads a signed integer of 64 bits, with an optional sign before the number. -/
def readSigned? (base : Nat) (cs : List Char) : Option Int := do
  let (neg, body) := match cs with
    | '-' :: r => (true, r)
    | '+' :: r => (false, r)
    | r => (false, r)
  let v ← readUnsigned? base body
  if neg then
    if Nat.pow 2 63 < v then none
    return -(v : Int)
  else
    if Nat.pow 2 63 ≤ v then none
    return v

/-- The exponent of a decimal float, whose digits stop counting once the value reaches 10000. -/
def exponentValue (ds : List Char) : Nat :=
  ds.foldl (fun e c => if c.isDigit && e < 10000 then 10 * e + (c.toNat - 48) else e) 0

/-- Underscores stand only between digits, or between a base prefix and a digit. -/
def underscoresFit (cs : List Char) : Bool :=
  let body := match cs with
    | '-' :: r | '+' :: r => r
    | r => r
  let (start, hex, rest) := match body with
    | '0' :: c :: r =>
      if c.toLower == 'b' || c.toLower == 'o' || c.toLower == 'x' then ('0', c.toLower == 'x', r)
      else ('^', false, body)
    | _ => ('^', false, body)
  let isDigit := fun (c : Char) => c.isDigit || (hex && 'a' ≤ c.toLower && c.toLower ≤ 'f')
  let last := rest.foldl (fun (saw : Option Char) c =>
    saw.bind fun s =>
      if isDigit c then some '0'
      else if c == '_' then (if s == '0' then some '_' else none)
      else if s == '_' then none
      else some '!') (some start)
  last.any (· != '_')

/-- A decimal float `[sign] digits [. digits] [e [sign] digits]` (digits on at least one side
of the point, underscores only between digits), rounded to the nearest double; none when it
does not read or is too large. -/
def decimalFloat? (cs : List Char) : Option Double := do
  if !underscoresFit cs then none
  let (neg, body) := match cs with
    | '-' :: r => (true, r)
    | '+' :: r => (false, r)
    | r => (false, r)
  let isPart := fun (c : Char) => c.isDigit || c == '_'
  let (whole, rest) := body.span isPart
  let (frac, rest) := match rest with
    | '.' :: r => r.span isPart
    | r => ([], r)
  let whole := whole.filter (· != '_')
  let frac := frac.filter (· != '_')
  if whole.isEmpty && frac.isEmpty then none
  let exp : Int ← match rest with
    | [] => some 0
    | e :: r =>
      if e != 'e' && e != 'E' then none
      else
        let (eneg, ds) := match r with
          | '-' :: d => (true, d)
          | '+' :: d => (false, d)
          | d => (false, d)
        match ds with
        | d :: _ =>
          if !d.isDigit || !ds.all isPart then none
          else
            let v := (exponentValue ds : Int)
            some (if eneg then -v else v)
        | [] => none
  let digits := (whole ++ frac).foldl (fun n c => 10 * n + (c.toNat - 48)) 0
  match Double.ofDecimal neg digits (exp - frac.length) with
  | .inf _ => none
  | x => some x

/-- The text matches `[-+]?(\.[0-9]+|[0-9]+(\.[0-9]*)?)([eE][-+]?[0-9]+)?`. -/
def looksFloat (cs : List Char) : Bool :=
  let body := match cs with
    | '-' :: r | '+' :: r => r
    | r => r
  let (whole, rest) := body.span Char.isDigit
  let mantissaRest := match rest with
    | '.' :: r =>
      let (frac, after) := r.span Char.isDigit
      if whole.isEmpty && frac.isEmpty then none else some after
    | r => if whole.isEmpty then none else some r
  match mantissaRest with
  | none => false
  | some [] => true
  | some (e :: r) =>
    (e == 'e' || e == 'E') &&
      (let ds := match r with
        | '-' :: d | '+' :: d => d
        | d => d
       !ds.isEmpty && ds.all Char.isDigit)

/-- The meaning of the spellings that stand for themselves, whatever their first character. -/
def namedScalar? (s : String) : Option Scalar :=
  match s with
  | "" | "~" | "null" | "Null" | "NULL" => some .null
  | "true" | "True" | "TRUE" => some (.bool true)
  | "false" | "False" | "FALSE" => some (.bool false)
  | ".nan" | ".NaN" | ".NAN" => some (.float .nan)
  | ".inf" | ".Inf" | ".INF" | "+.inf" | "+.Inf" | "+.INF" => some (.float (.inf false))
  | "-.inf" | "-.Inf" | "-.INF" => some (.float (.inf true))
  | _ => none

/-- Reads an integer written as a number, the last resorts first tried on what follows a
`0b` or `0o` prefix (where a sign may stand after the prefix). -/
def numberScalar? (plain : List Char) : Option Scalar :=
  let tryBase := fun (b : Nat) (rest : List Char) =>
    match readSigned? b rest with
    | some n => some (Scalar.int n)
    | none => (readUnsigned? b rest).map fun v => .int v
  let tryNeg := fun (b : Nat) (rest : List Char) =>
    (readSigned? b ('-' :: rest)).map Scalar.int
  match plain with
  | '0' :: 'b' :: r => tryBase 2 r
  | '-' :: '0' :: 'b' :: r => tryNeg 2 r
  | '0' :: 'o' :: r => tryBase 8 r
  | '-' :: '0' :: 'o' :: r => tryNeg 8 r
  | _ => none

/-- What a plain text means when it starts with a digit or a sign: a timestamp (when
`timestamps`), an integer, a float, or a string. -/
def numericScalar (timestamps : Bool) (text : String) : Scalar :=
  if timestamps && Timestamp.isTimestamp text then .timestamp
  else
    let plain := text.toList.filter (· != '_')
    match readSigned? 0 plain with
    | some n => .int n
    | none =>
      match readUnsigned? 0 plain with
      | some v => .int v
      | none =>
        let asFloat := if looksFloat plain then decimalFloat? plain else none
        match asFloat with
        | some x => .float x
        | none => (numberScalar? plain).getD (.str text)

/-- What a text means under no tag or a core tag: `timestamps` says whether a date may be a
timestamp, and a `!!str` tag keeps every text a string. -/
def scalarOf (tag text : String) : Scalar :=
  if tag == "!!str" then .str text
  else
    match text.toList.head? with
    | none => .null
    | some c =>
      if c.isDigit || c == '+' || c == '-' then
        (namedScalar? text).getD (numericScalar (tag == "" || tag == "!!timestamp") text)
      else if c == '.' then
        (namedScalar? text).getD ((decimalFloat? text.toList).map Scalar.float |>.getD (.str text))
      else if "yYnNtTfFoO~".contains c then (namedScalar? text).getD (.str text)
      else .str text

/-- The tags whose texts are read here. -/
def isCoreTag (tag : String) : Bool :=
  ["", "!!str", "!!bool", "!!int", "!!float", "!!null", "!!timestamp"].contains tag

/-- Reads a scalar under a tag: the tag it has and what it means. A core tag that does not fit
the text is a fault; any other tag keeps the text as a string. -/
def resolve (tag text : String) : Except String (String × Scalar) :=
  let tag := shortTag tag
  if !isCoreTag tag then .ok (tag, .str text)
  else
    let v := scalarOf tag text
    if tag == "" || tag == v.tag || tag == "!!str" then .ok (v.tag, v)
    else match tag, v with
      | "!!float", .int n =>
        if n < (Nat.pow 2 63 : Int) then
          .ok ("!!float", .float (Double.ofDecimal (n < 0) n.natAbs 0))
        else .error ("cannot decode " ++ v.tag ++ " `" ++ text ++ "` as a " ++ tag)
      | _, _ => .error ("cannot decode " ++ v.tag ++ " `" ++ text ++ "` as a " ++ tag)

/-- The boolean one of the old words `y`, `yes`, `on`, `n`, `no` and `off` stands for, in their
usual spellings; a text field of a boolean takes these too. -/
def oldBool? (t : String) : Option Bool :=
  if ["y", "Y", "yes", "Yes", "YES", "on", "On", "ON"].contains t then some true
  else if ["n", "N", "no", "No", "NO", "off", "Off", "OFF"].contains t then some false
  else none

end WordSift.Yaml
