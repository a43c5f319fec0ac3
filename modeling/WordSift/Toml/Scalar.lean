import WordSift.Toml.Token
import WordSift.Toml.Value

/-!
# TOML scalars

The values of single tokens: strings with their escapes, integers, floats, booleans and
date-times. The tokenizer has already checked the shape of escapes and cut numbers generously;
the rules that need the whole token are checked here, each with its own message:

* an underscore stands between two digits (hexadecimal digits included);
* a decimal number does not start with `0` unless it is zero (a sign may precede it);
* a point in a float is followed by a digit;
* an integer fits in 64 signed bits, and a float does not overflow;
* a `\u` or `\U` escape names a scalar value.
-/

namespace WordSift.Toml

/-- A line feed (or a carriage return and line feed) right after the opening delimiter of a
multi-line string is not part of it. -/
def dropFirstBreak : List Char → List Char
  | '\n' :: r => r
  | '\r' :: '\n' :: r => r
  | cs => cs

/-- A blank or line break that may follow a backslash at the end of a line. -/
def isGapChar (c : Char) : Bool := c == ' ' || c == '\t' || c == '\r' || c == '\n'

/-- Removes every backslash that ends a line in a multi-line basic string, with all blanks and
line breaks after it; a backslash followed by blanks only, without a line break, stays. -/
def joinLines (acc : List Char) : List Char → List Char
  | [] => acc.reverse
  | '\\' :: '\\' :: rest => joinLines ('\\' :: '\\' :: acc) rest
  | '\\' :: rest =>
    let gap := rest.takeWhile isGapChar
    if gap.contains '\n' then joinLines acc (rest.dropWhile isGapChar)
    else joinLines ('\\' :: acc) rest
  | c :: rest => joinLines (c :: acc) rest
termination_by cs => cs.length
decreasing_by
  all_goals simp only [List.length_cons]
  all_goals first
    | omega
    | (have h : (rest.dropWhile isGapChar).length ≤ rest.length :=
        (List.dropWhile_suffix isGapChar).length_le
       omega)

/-- The value of hexadecimal digits. -/
def hexValue (cs : List Char) : Nat :=
  cs.foldl (fun n c =>
    let d := if c.isDigit then c.toNat - 48 else if 'a' ≤ c && c ≤ 'f' then c.toNat - 87
      else c.toNat - 55
    16 * n + d) 0

/-- A code point that UTF-8 can encode: at most U+10FFFF and not a surrogate. -/
def isScalarValue (n : Nat) : Bool := n < 0xD800 || (0xE000 ≤ n && n ≤ 0x10FFFF)

/-- The characters of a basic string with its escapes replaced. -/
def unescape (acc : List Char) : List Char → Except String String
  | [] => .ok (String.ofList acc.reverse)
  | '\\' :: c :: rest =>
    if c == ' ' || c == '\t' then .error ("invalid escape: '\\" ++ String.singleton c ++ "'")
    else if c == 'u' || c == 'U' then
      let n := if c == 'u' then 4 else 8
      let ds := rest.take n
      let v := hexValue ds
      if isScalarValue v then unescape (Char.ofNat v :: acc) (rest.drop n)
      else .error ("Escaped character '\\u" ++ String.ofList ds ++ "' is not valid UTF-8.")
    else
      let e := match c with
        | 'b' => '\x08'
        | 't' => '\t'
        | 'n' => '\n'
        | 'f' => '\x0c'
        | 'r' => '\r'
        | x => x
      unescape (e :: acc) rest
  | c :: rest => unescape (c :: acc) rest
termination_by cs => cs.length
decreasing_by all_goals simp only [List.length_cons, List.length_drop]; omega

/-- Underscores stand only right after a digit (a hexadecimal one included) and never last;
the names of infinities and NaN pass. -/
def underscoresFit (s : String) : Bool :=
  if ["nan", "+nan", "-nan", "inf", "-inf", "+inf"].contains s then true
  else
    let cs := s.toList
    let hex := fun (c : Char) => c.isDigit || ('a' ≤ c && c ≤ 'f') || ('A' ≤ c && c ≤ 'F')
    (cs.zip (' ' :: cs)).all (fun (c, before) => c != '_' || hex before) &&
      cs.getLast?.any hex

/-- A decimal number with a leading zero (after its sign) that is not zero itself; a base
prefix `0b`, `0o` or `0x` is not one. -/
def leadingZero (s : String) : Bool :=
  match s.toList with
  | '0' :: c :: _ => !(c == 'b' || c == 'o' || c == 'x')
  | sign :: '0' :: _ :: _ => sign == '-' || sign == '+'
  | _ => false

/-- Every point is followed by a digit. -/
def pointsFit (s : String) : Bool :=
  let cs := s.toList
  (cs.zip (cs.drop 1 ++ [' '])).all fun (c, after) => c != '.' || after.isDigit

/-- The value of digits in a base, underscores skipped. -/
def digitsIn (base : Nat) (cs : List Char) : Nat :=
  (cs.filter (· != '_')).foldl (fun n c =>
    let d := if c.isDigit then c.toNat - 48 else if 'a' ≤ c && c ≤ 'f' then c.toNat - 87
      else c.toNat - 55
    base * n + d) 0

/-- The least and greatest integers of 64 signed bits. -/
def fitsInt64 (n : Int) : Bool :=
  decide (-(Nat.pow 2 63 : Int) ≤ n) && decide (n < (Nat.pow 2 63 : Int))

/-- Reads an integer token. -/
def integerOf (s : String) : Except String Int := do
  if !underscoresFit s then
    throw ("Invalid integer " ++ Text.quote (Bytes.ofString s) ++ ": underscores must be surrounded by digits")
  if leadingZero s then
    throw ("Invalid integer " ++ Text.quote (Bytes.ofString s) ++ ": cannot have leading zeroes")
  let (neg, body) := match s.toList with
    | '-' :: r => (true, r)
    | '+' :: r => (false, r)
    | r => (false, r)
  let magnitude := match body with
    | '0' :: 'x' :: r => digitsIn 16 r
    | '0' :: 'o' :: r => digitsIn 8 r
    | '0' :: 'b' :: r => digitsIn 2 r
    | r => digitsIn 10 r
  let n : Int := if neg then -(magnitude : Int) else magnitude
  if fitsInt64 n then return n
  throw (s ++ " is out of range for int64")

/-- Reads a decimal float `[sign] digits [. digits] [e [sign] digits]`, digits on at least one
side of the point, rounded to the nearest double. -/
def decimalOf? (cs : List Char) : Option Double := do
  let (neg, body) := match cs with
    | '-' :: r => (true, r)
    | '+' :: r => (false, r)
    | r => (false, r)
  let (whole, rest) := body.span Char.isDigit
  let (frac, rest) := match rest with
    | '.' :: r => r.span Char.isDigit
    | r => ([], r)
  if whole.isEmpty && frac.isEmpty then none
  let exp : Int ← match rest with
    | [] => some 0
    | e :: r =>
      if e != 'e' && e != 'E' then none
      else
        let (eneg, ds) := match r with
          | '-' :: d => (true, d)
          | '+' :: d => (false, d)
          | d => (false, d)
        if ds.isEmpty || !ds.all Char.isDigit then none
        else
          let v := (ds.foldl (fun e c => if e < 10000 then 10 * e + (c.toNat - 48) else e) 0 : Nat)
          some (if eneg then -(v : Int) else v)
  let digits := (whole ++ frac).foldl (fun n c => 10 * n + (c.toNat - 48)) 0
  return Double.ofDecimal neg digits (exp - frac.length)

/-- Reads a float token. -/
def floatOf (s : String) : Except String Double := do
  let parts := (s.splitOn ".").flatMap (·.splitOn "e") |>.flatMap (·.splitOn "E") |>.filter (· != "")
  if !parts.all underscoresFit then
    throw ("Invalid float " ++ Text.quote (Bytes.ofString s) ++ ": underscores must be surrounded by digits")
  if parts.head?.any leadingZero then
    throw ("Invalid float " ++ Text.quote (Bytes.ofString s) ++ ": cannot have leading zeroes")
  if !pointsFit s then
    throw ("Invalid float " ++ Text.quote (Bytes.ofString s) ++ ": '.' must be followed by one or more digits")
  let plain := s.toList.filter (· != '_')
  let named : Option Double := match String.ofList plain with
    | "inf" | "+inf" => some (.inf false)
    | "-inf" => some (.inf true)
    | "nan" | "+nan" | "-nan" => some .nan
    | _ => none
  match named with
  | some x => return x
  | none =>
    match decimalOf? plain with
    | none => throw ("Invalid float value: " ++ Text.quote (Bytes.ofString s))
    | some (.inf _) => throw (s ++ " is out of range for float64")
    | some x => return x

/-- Reads a date-time token. -/
def datetimeOf (s : String) : Except String Stamp :=
  match Stamp.read? s with
  | some t => .ok t
  | none => .error ("invalid datetime: " ++ Text.quote (Bytes.ofString (String.ofList (Stamp.normalize s))))

/-- The string a string token stands for. -/
def stringOf (t : Token) : Except String String :=
  match t.kind with
  | .escaped => unescape [] t.text.toList
  | .multiline => unescape [] (joinLines [] (dropFirstBreak t.text.toList))
  | .multilineLiteral => .ok (String.ofList (dropFirstBreak t.text.toList))
  | _ => .ok t.text

end WordSift.Toml
