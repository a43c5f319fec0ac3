import WordSift.Yaml.Token.Cursor
import WordSift.Yaml.Encoding
import WordSift.Text.Utf8

/-!
# Anchors, aliases, tags and directives

What may stand before a node, and what may open a document:

* an anchor `&name` or an alias `*name`, the name of ASCII letters, digits, `_` and `-`;
* a tag: verbatim `!<uri>`, a handle and a suffix `!!str` or `!e!suffix`, a suffix under the
  primary handle `!suffix`, or `!` alone. A suffix is made of URI characters, where `%` and two
  hexadecimal digits stand for an octet, and the octets must spell UTF-8;
* a directive `%YAML major.minor`, each number of at most two digits, or
  `%TAG handle prefix`, and nothing but a comment after it on its line.
-/

namespace WordSift.Yaml

/-- A character that may stand in a tag's URI; the flow indicators `,`, `[` and `]` only in a
verbatim tag or a directive's prefix. -/
def isUriChar (verbatim : Bool) (c : Char) : Bool :=
  isNameChar c || ";/?:@&=+$.!~*()%".contains c || c == apostrophe ||
    (verbatim && (c == ',' || c == '[' || c == ']'))

/-- Reads a name of ASCII letters, digits, `_` and `-`. -/
def readName : Scan String := do
  let mut name := ""
  for _ in [0:(← get).text.size + 1] do
    if isNameChar (← current) then name ← readChar name else break
  return name

/-- Reads an anchor (`&name`), or an alias (`*name`) when `isAlias`, from its indicator. The
name must be followed by a blank, the end, or one of `?`, `:`, `,`, `]`, `}`, `%`, `@` and the
backquote. -/
def scanAnchor (isAlias : Bool) : Scan Token := do
  let start := (← get).mark
  skip
  let name ← readName
  let stop := (← get).mark
  let c ← current
  if name.isEmpty || !(isBlankOrEnd c || "?:,]\x7d%@".contains c || c == backquote) then
    scanFail start "did not find expected alphabetic or numeric character"
  return ⟨if isAlias then .alias name else .anchor name, start, stop⟩

/-- Reads `%`-escaped octets of a tag, which must spell one UTF-8 character. -/
def readUriEscapes (start : Mark) (acc : Bytes) : Scan Bytes := do
  let mut acc := acc
  -- the number of octets still to read, unknown before the first
  let mut left : Option Nat := none
  for _ in [0:5] do
    if left == some 0 then break
    need 3
    let s ← get
    match s.ahead 0, hexValue? (s.ahead 1), hexValue? (s.ahead 2) with
    | '%', some hi, some lo =>
      let octet := (16 * hi + lo).toUInt8
      match left with
      | none =>
        let w := leadWidth octet
        if w == 0 then scanFail start "found an incorrect leading UTF-8 octet"
        left := some (w - 1)
      | some k =>
        if octet &&& 0xC0 != 0x80 then scanFail start "found an incorrect trailing UTF-8 octet"
        left := some (k - 1)
      acc := acc ++ [octet]
      skip
      skip
      skip
    | _, _, _ => scanFail start "did not find URI escaped octet"
  return acc

/-- Reads the URI of a tag, after `head` (a handle that turned out to be part of the suffix)
without its leading `!`. The URI may be empty only after a head. -/
def scanTagUri (verbatim : Bool) (head : String) (start : Mark) : Scan String := do
  let mut out : Bytes := Bytes.ofString (String.ofList (head.toList.drop 1))
  let mut found := !head.isEmpty
  for _ in [0:(← get).text.size + 1] do
    let c ← current
    if !isUriChar verbatim c then break
    if c == '%' then out ← readUriEscapes start out
    else
      skip
      out := out ++ Bytes.ofString (String.singleton c)
    found := true
  if !found then scanFail start "did not find expected tag URI"
  return Text.lossy out

/-- Reads a tag handle: `!`, then name characters, then `!` if one follows. In a `%TAG`
directive the handle must end with `!` unless it is `!` alone. -/
def scanTagHandle (directive : Bool) (start : Mark) : Scan String := do
  if (← current) != '!' then scanFail start "did not find expected '!'"
  let mut handle ← readChar ""
  handle := handle ++ (← readName)
  if (← current) == '!' then handle ← readChar handle
  else if directive && handle != "!" then scanFail start "did not find expected '!'"
  return handle

/-- Reads a tag from its `!`. It must be followed by a blank or the end, or by `,` in a flow
collection. -/
def scanTag : Scan Token := do
  need 2
  let s ← get
  let start := s.mark
  let (handle, suffix) ← if s.ahead 1 == '<' then do
      skip
      skip
      let suffix ← scanTagUri true "" start
      if (← current) != '>' then scanFail start "did not find the expected '>'"
      skip
      pure ("", suffix)
    else do
      let handle ← scanTagHandle false start
      if handle.length > 1 && handle.endsWith "!" then
        pure (handle, ← scanTagUri false "" start)
      else
        let suffix ← scanTagUri false handle start
        pure (if suffix.isEmpty then ("", "!") else ("!", suffix))
  let c ← current
  if !isBlankOrEnd c && ((← get).flowLevel == 0 || c != ',') then
    scanFail start "did not find expected whitespace or line break"
  return ⟨.tag handle suffix, start, (← get).mark⟩

/-- Reads a version number of at most two digits. -/
def scanVersionNumber (start : Mark) : Scan Nat := do
  let mut value := 0
  let mut length := 0
  for _ in [0:3] do
    let c ← current
    if !c.isDigit then break
    length := length + 1
    if length > 2 then scanFail start "found extremely long version number"
    value := 10 * value + (c.toNat - 48)
    skip
  if length == 0 then scanFail start "did not find expected version number"
  return value

/-- Reads a directive from its `%`. -/
def scanDirective : Scan Token := do
  let start := (← get).mark
  skip
  let name ← readName
  if name.isEmpty then scanFail start "could not find expected directive name"
  if !isBlankOrEnd (← current) then scanFail start "found unexpected non-alphabetical character"
  let kind ← if name == "YAML" then do
      skipBlanks
      let major ← scanVersionNumber start
      if (← current) != '.' then scanFail start "did not find expected digit or '.' character"
      skip
      let minor ← scanVersionNumber start
      pure (TokenKind.versionDirective major minor)
    else if name == "TAG" then do
      skipBlanks
      let handle ← scanTagHandle true start
      if !isBlank (← current) then scanFail start "did not find expected whitespace"
      skipBlanks
      let pfx ← scanTagUri true "" start
      if !isBlankOrEnd (← current) then
        scanFail start "did not find expected whitespace or line break"
      pure (TokenKind.tagDirective handle pfx)
    else scanFail start "found unknown directive name"
  let stop := (← get).mark
  finishLine start
  return ⟨kind, start, stop⟩

end WordSift.Yaml
