import WordSift.Bytes

/-!
# Command-line options

The options of a run: `-in`, `-out` and `-config` take a path, `-max` a number, and `-prune`,
`-d`, `-c`, `-s` and `-version` are switches. An option is written with one or two dashes,
its value after `=` or as the next argument; a switch takes a value only after `=`. Reading
stops at the first argument that is not an option (a lone `-` included) or after `--`.
`-h` and `-help` ask for help. An unknown option, a missing value or a value that does not
read is an error.

A number is read as an integer literal: an optional sign, then decimal digits, or digits after
a `0x`, `0o` or `0b` prefix or a leading `0` (octal), with single underscores between digits;
it must fit in 64 bits. A switch value is one of `1 t T TRUE true True` or
`0 f F FALSE false False`.
-/

namespace WordSift.Command

/-- The options of a run; a path, number or `-prune` is `none` unless given. -/
structure Options where
  version : Bool := false
  input : Option Bytes := none
  output : Option Bytes := none
  config : Bytes := []
  compare : Option Int := none
  prune : Option Bool := none
  debug : Bool := false
  prompt : Bool := false
  serve : Bool := false
deriving DecidableEq, Repr

/-- The outcome of reading the command line. -/
inductive Parsed where
  | run (o : Options)
  | help
  | bad (message : String)
deriving DecidableEq, Repr

/-- A switch value. -/
def readBool? (s : String) : Option Bool :=
  if ["1", "t", "T", "TRUE", "true", "True"].contains s then some true
  else if ["0", "f", "F", "FALSE", "false", "False"].contains s then some false
  else none

/-- The underscores of a literal separate digits (or follow a base prefix). -/
def underscoresFit (body : List Char) (prefixed : Bool) : Bool :=
  let rec go (saw : Char) : List Char → Bool
    | [] => saw != '_'
    | c :: r =>
      if c.isAlphanum then go '0' r
      else if c == '_' then saw == '0' && go '_' r
      else saw != '_' && go '!' r
  go (if prefixed then '0' else '^') body

/-- The value of digits in a base, underscores skipped. -/
def digitsIn (base : Nat) (cs : List Char) : Option Nat :=
  let ds := cs.filter (· != '_')
  if ds.isEmpty then none
  else ds.foldl (fun acc c => acc.bind fun n =>
    let d := if c.isDigit then c.toNat - 48
      else if 'a' ≤ c.toLower ∧ c.toLower ≤ 'z' then c.toLower.toNat - 87 else 99
    if d < base then some (base * n + d) else none) (some 0)

/-- Reads an integer literal that fits in 64 bits. -/
def readInt? (s : String) : Option Int :=
  let cs := s.toList
  let (neg, body) := match cs with
    | '-' :: r => (true, r)
    | '+' :: r => (false, r)
    | r => (false, r)
  let (base, digits, prefixed) := match body with
    | '0' :: c :: r =>
      if c == 'x' || c == 'X' then (16, r, true)
      else if c == 'o' || c == 'O' then (8, r, true)
      else if c == 'b' || c == 'B' then (2, r, true)
      else (8, c :: r, false)
    | r => (10, r, false)
  if !underscoresFit (if prefixed then digits else body) prefixed then none
  else
    match digitsIn base digits with
    | none => none
    | some v =>
      let n : Int := if neg then -(v : Int) else v
      if -(Nat.pow 2 63 : Int) ≤ n ∧ n < (Nat.pow 2 63 : Int) then some n else none

/-- The kind of value an option takes. -/
inductive Takes where
  | path
  | number
  | switch
deriving DecidableEq, Repr

/-- The options there are, by name. -/
def known (name : String) : Option Takes :=
  if ["in", "out", "config"].contains name then some .path
  else if name == "max" then some .number
  else if ["prune", "d", "c", "s", "version"].contains name then some .switch
  else none

/-- Sets an option to a value read. -/
def Options.set (o : Options) (name : String) (v : String) : Options :=
  match name with
  | "in" => { o with input := some (Bytes.ofString v) }
  | "out" => { o with output := some (Bytes.ofString v) }
  | "config" => { o with config := Bytes.ofString v }
  | "max" => { o with compare := readInt? v }
  | "prune" => { o with prune := readBool? v }
  | "d" => { o with debug := readBool? v == some true }
  | "c" => { o with prompt := readBool? v == some true }
  | "s" => { o with serve := readBool? v == some true }
  | "version" => { o with version := readBool? v == some true }
  | _ => o

/-- The value an option is given after `=`, if any. -/
def givenValue : List Char → Option String
  | [] => none
  | _ :: v => some (String.ofList v)

/-- Whether a value fits an option that takes a value. -/
def fits (t : Takes) (v : String) : Bool := t != .number || (readInt? v).isSome

/-- Reads options from the arguments, over those read so far. -/
def parseFrom (o : Options) : List String → Parsed
  | [] => .run o
  | a :: rest =>
    let cs := a.toList
    if cs.length < 2 || cs.head? != some '-' || a == "--" then .run o
    else
      let body := if cs.getD 1 ' ' == '-' then cs.drop 2 else cs.drop 1
      if body.isEmpty || body.head? == some '-' || body.head? == some '=' then
        .bad ("bad flag syntax: " ++ a)
      else
        let name := String.ofList (body.takeWhile (· != '='))
        let given := givenValue (body.dropWhile (· != '='))
        match known name, given, rest with
        | none, _, _ =>
          if name == "help" || name == "h" then .help
          else .bad ("flag provided but not defined: -" ++ name)
        | some .switch, v, more =>
          if (readBool? (v.getD "true")).isNone then .bad ("invalid boolean value for -" ++ name)
          else parseFrom (o.set name (v.getD "true")) more
        | some t, some v, more =>
          if fits t v then parseFrom (o.set name v) more
          else .bad ("invalid value for flag -" ++ name)
        | some t, none, v :: more =>
          if fits t v then parseFrom (o.set name v) more
          else .bad ("invalid value for flag -" ++ name)
        | some _, none, [] => .bad ("flag needs an argument: -" ++ name)

/-- Reads the options from the arguments. -/
def parse (args : List String) : Parsed := parseFrom {} args

end WordSift.Command
