import WordSift.Settings.Basic
import WordSift.Yaml.Schema
import WordSift.Text.Utf8
import WordSift.Text.Base64

/-!
# Settings as a YAML document

Each section is a key at the left margin with its fields below it, indented by two spaces.
Numbers and booleans are written plainly. A string is written plainly when it would read back
as the same string and nothing in it stands in the way; otherwise between single quotes, or
between double quotes with escapes when a single-quoted form cannot hold it; a string with a
line feed becomes a literal block. A string that would read back as something else (a null,
a boolean, a number, a date, one of the old boolean words, a sexagesimal number) is always
double-quoted. Bytes that are not UTF-8 are written as a `!!binary` scalar, which reads back as
the same bytes.
-/

namespace WordSift.Settings

open Yaml

/-- A line break inside a scalar. -/
def isBreakChar (c : Nat) : Bool :=
  c == 0x0A || c == 0x0D || c == 0x85 || c == 0x2028 || c == 0x2029

/-- A character that may stand unescaped in a written scalar. -/
def isWritable (c : Nat) : Bool :=
  c == 0x0A || (0x20 ≤ c && c ≤ 0x7E) || (0xA0 ≤ c && c ≤ 0xD7FF) ||
    (0xE000 ≤ c && c ≤ 0xFFFD && c != 0xFEFF)

/-- A blank (space or tab), or the end. -/
def blankOrEnd : Option Nat → Bool
  | none => true
  | some c => c == 0x20 || c == 0x09

/-- A blank, a line break or the start. -/
def blankBreakOrStart : Option Nat → Bool
  | none => true
  | some c => c == 0x20 || c == 0x09 || isBreakChar c

/-- The forms a scalar may take, as far as its characters allow. -/
structure Forms where
  /-- May be written plainly. -/
  plain : Bool
  /-- May be written between single quotes. -/
  single : Bool
  /-- May be written as a literal block. -/
  block : Bool
deriving Repr

/-- What the characters of a non-empty scalar allow. -/
def forms (cs : List Nat) : Forms :=
  let n := cs.length
  let at? := fun (i : Int) => if 0 ≤ i then cs[i.toNat]? else none
  let idx := List.range n
  let marker := cs.take 3 == [45, 45, 45] || cs.take 3 == [46, 46, 46]
  let indicator := fun (i : Nat) (c : Nat) =>
    let after := blankOrEnd (at? (i + 1))
    if i == 0 then
      if [35, 44, 91, 93, 123, 125, 38, 42, 33, 124, 62, 39, 34, 37, 64, 96].contains c then true
      else if c == 63 || c == 58 || c == 45 then after
      else false
    else if c == 58 then after
    else if c == 35 then blankBreakOrStart (at? (i - 1 : Int))
    else false
  let blockIndicators := marker || idx.any fun i => indicator i (cs.getD i 0)
  let tabs := cs.contains 9
  let special := cs.any fun c => c != 9 && !isWritable c
  let isSpace := fun (i : Int) => at? i == some 32
  let isBreak := fun (i : Int) => (at? i).any isBreakChar
  let leading := isSpace 0 || isBreak 0
  let trailingSpace := isSpace (n - 1)
  let trailing := trailingSpace || isBreak (n - 1)
  let breakSpace := idx.any fun i => isSpace i && isBreak (i - 1 : Int)
  let spaceBreak := idx.any fun i => isBreak i && isSpace (i - 1 : Int)
  let lineBreaks := cs.any isBreakChar
  { plain := !(leading || trailing || breakSpace || spaceBreak || tabs || special || lineBreaks ||
      blockIndicators)
    single := !(breakSpace || spaceBreak || tabs || special)
    block := !(trailingSpace || spaceBreak || special) }

/-- A sexagesimal number such as `1:20`, which older readers take for a number. -/
def isSexagesimal (cs : List Char) : Bool :=
  let body := match cs with
    | '+' :: r | '-' :: r => r
    | r => r
  let (whole, rest) := body.span fun c => c.isDigit || c == '_'
  let (groups, tail) := rest.span fun c => c.isDigit || c == ':'
  let parts := (groups.splitOn ':').drop 1
  (whole.head?.any Char.isDigit) && groups.head? == some ':' &&
    parts.all (fun p => 1 ≤ p.length && p.length ≤ 2 && p.all Char.isDigit &&
      (p.length < 2 || p.head?.any fun c => "012345".toList.contains c)) &&
    (match tail with
      | [] => true
      | '.' :: r => r.all fun c => c.isDigit || c == '_'
      | _ => false)

/-- The string would read back as itself when written plainly. -/
def readsAsText (s : String) : Bool :=
  (match resolve "" s with
    | .ok (tag, _) => tag == "!!str"
    | .error _ => false) && !isSexagesimal s.toList && (oldBool? s).isNone

/-- The escape of one character inside a double-quoted scalar. With `always` every character is
escaped, even one that could stand as itself. -/
def doubleEscape (always : Bool) (c : Nat) : String :=
  if c == 0x22 then "\\\"" else if c == 0x5C then "\\\\"
  else if !always && isWritable c && !isBreakChar c then String.singleton (Char.ofNat c)
  else match c with
    | 0x00 => "\\0"
    | 0x07 => "\\a"
    | 0x08 => "\\b"
    | 0x09 => "\\t"
    | 0x0A => "\\n"
    | 0x0B => "\\v"
    | 0x0C => "\\f"
    | 0x0D => "\\r"
    | 0x1B => "\\e"
    | 0x85 => "\\N"
    | 0xA0 => "\\_"
    | 0x2028 => "\\L"
    | 0x2029 => "\\P"
    | _ =>
      let (mark, width) := if c ≤ 0xFF then ("x", 2) else if c ≤ 0xFFFF then ("u", 4) else ("U", 8)
      "\\" ++ mark ++ (Bytes.hexPadded width c).toUpper

/-- A scalar between double quotes. A scalar that starts with a byte-order mark has every
character escaped. -/
def doubleQuotedText (cs : List Nat) : String :=
  "\"" ++ String.join (cs.map (doubleEscape (cs.head? == some 0xFEFF))) ++ "\""

/-- Spaces that indent a line. -/
def indentText (n : Nat) : String := String.ofList (List.replicate n ' ')

/-- The characters of a scalar between single quotes (`quoted`) or in a literal block, starting
after a line break or not (`atBreak`). A line break is written as it is and ends the line; the
next character that is not a break is indented by `indent`, and so is a closing quote that
follows a break. Between quotes a quote is written twice. -/
def scalarLines (indent : Nat) (quoted : Bool) : Bool → List Nat → String
  | atBreak, [] => if quoted && atBreak then indentText indent else ""
  | atBreak, c :: rest =>
    if isBreakChar c then
      let doubled := if quoted && !atBreak && c == 10 then "\n" else ""
      doubled ++ String.singleton (Char.ofNat c) ++ scalarLines indent quoted true rest
    else
      let lead := if atBreak then indentText indent else ""
      let shown := if quoted && c == 39 then "''" else String.singleton (Char.ofNat c)
      lead ++ shown ++ scalarLines indent quoted false rest

/-- A scalar between single quotes whose continued lines are indented by `indent`. -/
def singleQuotedText (indent : Nat) (cs : List Nat) : String :=
  "'" ++ scalarLines indent true false cs ++ "'"

/-- A scalar as a literal block whose lines are indented by `indent`: its header gives the
indentation when the text starts with a blank or a break, and how its final breaks are kept.
A break that starts the text ends the header's line, so it is lost on reading back. -/
def literalText (indent : Nat) (cs : List Nat) : String :=
  let hint := if cs.head? == some 32 || (cs.head?.any isBreakChar) then "2" else ""
  let chomp := match cs.reverse with
    | [] => "-"
    | [c] => if isBreakChar c then "+" else "-"
    | c :: d :: _ => if !isBreakChar c then "-" else if isBreakChar d then "+" else ""
  -- the header's line ends with the first character when that is a break, so a leading
  -- break of the text does not come back when the block is read
  let headerEnd := if cs.head?.any isBreakChar then "" else "\n"
  "|" ++ hint ++ chomp ++ headerEnd ++ scalarLines indent false true cs

/-- Base64 text as a scalar's characters: on one line when it is shorter than seventy
characters, otherwise cut into lines of seventy, each ended by a line feed. -/
def base64Lines (text : String) : List Nat :=
  let cs := text.toList.map Char.toNat
  if cs.length < 70 then cs
  else ((List.range ((cs.length + 69) / 70)).map fun i => (cs.drop (70 * i)).take 70 ++ [10]).flatten

/-- A string as the value of a key whose lines are indented by `indent`, and whether the text
already ends its line (a literal block whose last character is a break). Bytes that are not
UTF-8 are written as a `!!binary` scalar of their base64 text. -/
def yamlScalar (indent : Nat) (s : Bytes) : String × Bool :=
  let ended := fun (cs : List Nat) => cs.getLast?.any isBreakChar
  if !Text.isValid s then
    let cs := base64Lines (Text.Base64.encode s)
    if cs.contains 10 then ("!!binary " ++ literalText indent cs, ended cs)
    else ("!!binary " ++ String.ofList (cs.map Char.ofNat), false)
  else
    let cs := (Text.decode s).map Text.Piece.value
    let text := String.ofList (cs.map Char.ofNat)
    if cs.isEmpty then ("\"\"", false)
    else
      let f := forms cs
      if cs.contains 10 then
        if f.block then (literalText indent cs, ended cs) else (doubleQuotedText cs, false)
      else if readsAsText text then
        if f.plain then (text, false)
        else if f.single then (singleQuotedText indent cs, false)
        else (doubleQuotedText cs, false)
      else (doubleQuotedText cs, false)

/-- The settings as a YAML document. -/
def toYaml (s : Settings) : Bytes :=
  let line := fun (k v : String) => "  " ++ k ++ ": " ++ v ++ "\n"
  let text := fun (k : String) (v : Bytes) =>
    let (w, ended) := yamlScalar 4 v
    "  " ++ k ++ ": " ++ w ++ (if ended then "" else "\n")
  let flag := fun (b : Bool) => if b then "true" else "false"
  Bytes.ofString <|
    "match:\n" ++
      line "max_compare_words" (toString s.matching.compare) ++
      line "case_insensitive" (flag s.matching.fold) ++
      line "prune_traversal" (flag s.matching.prune) ++
    "io:\n" ++
      text "input" s.io.input ++
      text "output" s.io.output ++
    "server:\n" ++
      line "max_words" (toString s.server.maxWords) ++
      line "max_pattern_len" (toString s.server.maxPatternLen) ++
      line "max_word_len" (toString s.server.maxWordLen)

end WordSift.Settings
