import WordSift.Yaml.Token.Cursor

/-!
# Scalars in a YAML stream

The three ways to write a scalar, each read into its text:

* *Quoted* scalars run to the matching quote. Inside single quotes a doubled quote stands for
  one; inside double quotes a backslash starts an escape: a letter for a control character or a
  quote, `x`, `u` or `U` with two, four or eight hexadecimal digits for a code point, or a line
  break that joins the lines without a space.
* *Plain* scalars run until `: `, ` #`, the end of the line when the next line is not indented
  more than the enclosing collection, and in a flow collection also `,`, `[`, `]`, `{`, `}`.
* *Block* scalars (`|` literal, `>` folded) take the lines indented more than their header, the
  indentation given by a digit or found on the first line that is not empty; a `-` or `+` says
  whether the final line breaks are dropped or all kept (one is kept by default).

Quoted and plain scalars fold a line break into a space, and a run of breaks into one break
fewer; blanks around a break are dropped.
-/

namespace WordSift.Yaml

/-- How the blanks between two parts of a quoted or plain scalar are joined when they held a
line break: the first break (`leading`) becomes a space unless more follow, and the further
breaks (`trailing`) stay. A line or paragraph separator is never folded. -/
def foldBreaks (leading trailing : String) : String :=
  if leading.startsWith "\n" then (if trailing.isEmpty then " " else trailing)
  else leading ++ trailing

/-- The character an escape letter stands for in a double-quoted scalar. -/
def escapedChar? (c : Char) : Option Char :=
  if c == apostrophe then some apostrophe
  else match c with
    | '0' => some (Char.ofNat 0)
    | 'a' => some (Char.ofNat 7)
    | 'b' => some (Char.ofNat 8)
    | 't' | '\t' => some '\t'
    | 'n' => some '\n'
    | 'v' => some (Char.ofNat 11)
    | 'f' => some (Char.ofNat 12)
    | 'r' => some '\r'
    | 'e' => some (Char.ofNat 27)
    | ' ' => some ' '
    | '"' => some '"'
    | '\\' => some '\\'
    | '/' => some '/'
    | 'N' => some (Char.ofNat 0x85)
    | '_' => some (Char.ofNat 0xA0)
    | 'L' => some lineSeparator
    | 'P' => some paragraphSeparator
    | _ => none

/-- How many hexadecimal digits follow an escape letter that gives a code point, 0 for any
other letter. -/
def escapeWidth (c : Char) : Nat :=
  if c == 'x' then 2 else if c == 'u' then 4 else if c == 'U' then 8 else 0

/-- The value of hexadecimal digits, if they all are. -/
def hexNumber? (cs : List Char) : Option Nat :=
  cs.foldl (fun acc c => acc.bind fun n => (hexValue? c).map (16 * n + ·)) (some 0)

/-- Reads an escape sequence of a double-quoted scalar that starts at the backslash. -/
def readEscape (start : Mark) (acc : String) : Scan String := do
  let e ← peekChar 1
  match escapedChar? e with
  | some c =>
    skip
    skip
    return acc.push c
  | none =>
    let width := escapeWidth e
    if width == 0 then scanFail start "found unknown escape character"
    skip
    skip
    need width
    let s ← get
    match hexNumber? ((List.range width).map s.ahead) with
    | none => scanFail start "did not find expected hexdecimal number"
    | some v =>
      if (0xD800 ≤ v && v ≤ 0xDFFF) || 0x10FFFF < v then
        scanFail start "found invalid Unicode character escape code"
      for _ in [0:width] do skip
      return acc.push (Char.ofNat v)

/-- Reads a quoted scalar, single-quoted when `single`, from its opening quote. -/
def scanQuotedScalar (single : Bool) : Scan Token := do
  let start := (← get).mark
  let quote := if single then apostrophe else '"'
  skip
  let bound := (← get).text.size + 1
  let mut text := ""
  for _ in [0:bound] do
    need 4
    let s ← get
    if s.atDocumentMarker '-' || s.atDocumentMarker '.' then
      scanFail start "found unexpected document indicator"
    if isEnd (s.ahead 0) then scanFail start "found unexpected end of stream"
    -- the characters up to a blank, or the closing quote
    let mut leadingBlanks := false
    for _ in [0:bound] do
      let c ← current
      let next ← peekChar 1
      if isBlankOrEnd c then break
      if single && c == apostrophe && next == apostrophe then
        text := text.push apostrophe
        skip
        skip
      else if c == quote then break
      else if !single && c == '\\' && isBreak next then
        skip
        skipLine
        leadingBlanks := true
        break
      else if !single && c == '\\' then text ← readEscape start text
      else text ← readChar text
    if (← current) == quote then break
    -- the blanks and line breaks that follow
    let mut blanks := ""
    let mut leading := ""
    let mut trailing := ""
    for _ in [0:bound] do
      let c ← current
      if isBlank c then
        if leadingBlanks then skip else blanks ← readChar blanks
      else if isBreak c then
        if leadingBlanks then trailing ← readBreak trailing
        else
          blanks := ""
          leading ← readBreak leading
          leadingBlanks := true
      else break
    text := text ++ (if leadingBlanks then foldBreaks leading trailing else blanks)
  skip
  return ⟨.scalar text (if single then .singleQuoted else .doubleQuoted), start, (← get).mark⟩

/-- A character that ends a plain scalar in a flow collection. -/
def isFlowIndicator (c : Char) : Bool :=
  c == ',' || c == '[' || c == ']' || c == '{' || c == '}'

/-- Reads a plain scalar. It may go on over line breaks while the lines are indented more than
the enclosing block collection; a tab in that indentation is a fault. When it ends after
blanks or breaks, a simple key may follow. -/
def scanPlainScalar : Scan Token := do
  let s0 ← get
  let start := s0.mark
  let indent : Int := s0.indent + 1
  let bound := s0.text.size + 1
  let mut text := ""
  let mut stop := start
  let mut leading := ""
  let mut trailing := ""
  let mut blanks := ""
  let mut leadingBlanks := false
  for _ in [0:bound] do
    need 4
    let s ← get
    if s.atDocumentMarker '-' || s.atDocumentMarker '.' then break
    if s.ahead 0 == '#' then break
    -- the characters up to a blank or an indicator
    for _ in [0:bound] do
      need 2
      let s ← get
      let c := s.ahead 0
      let next := s.ahead 1
      if isBlankOrEnd c then break
      if s.flowLevel > 0 && c == ':' && (next == '?' || isFlowIndicator next) then break
      if (c == ':' && isBlankOrEnd next) || (s.flowLevel > 0 && isFlowIndicator c) then break
      if leadingBlanks then
        text := text ++ foldBreaks leading trailing
        leading := ""
        trailing := ""
        leadingBlanks := false
      else
        text := text ++ blanks
        blanks := ""
      text ← readChar text
      stop := (← get).mark
    let c ← current
    if !(isBlank c || isBreak c) then break
    -- the blanks and line breaks that follow
    for _ in [0:bound] do
      let c ← current
      let s ← get
      if isBlank c then
        if leadingBlanks && (s.mark.column : Int) < indent && c == '\t' then
          scanFail start "found a tab character that violates indentation"
        if leadingBlanks then skip else blanks ← readChar blanks
      else if isBreak c then
        if leadingBlanks then trailing ← readBreak trailing
        else
          blanks := ""
          leading ← readBreak leading
          leadingBlanks := true
      else break
    let s ← get
    if s.flowLevel == 0 && (s.mark.column : Int) < indent then break
  if leadingBlanks then modify fun s => { s with simpleKeyAllowed := true }
  return ⟨.scalar text .plain, start, stop⟩

/-- Moves past the indentation and the empty lines before a line of a block scalar, collecting
the breaks. With no indentation fixed yet (`0`) it takes the deepest indentation of the empty
lines, at least one more than the enclosing collection's and at least 1. Returns the
indentation, the breaks and the position after the last break. -/
def blockScalarBreaks (start : Mark) (indent : Int) (breaks : String) :
    Scan (Int × String × Mark) := do
  let mut stop := (← get).mark
  let mut widest : Nat := 0
  let mut breaks := breaks
  for _ in [0:(← get).text.size + 1] do
    for _ in [0:(← get).text.size + 1] do
      let c ← current
      if (indent == 0 || ((← get).mark.column : Int) < indent) && c == ' ' then skip else break
    let s ← get
    widest := max widest s.mark.column
    if (indent == 0 || (s.mark.column : Int) < indent) && s.ahead 0 == '\t' then
      scanFail start "found a tab character where an indentation space is expected"
    if !isBreak (s.ahead 0) then break
    breaks ← readBreak breaks
    stop := (← get).mark
  let s ← get
  let found := if indent != 0 then indent else max (max (widest : Int) (s.indent + 1)) 1
  return (found, breaks, stop)

/-- Reads the header of a block scalar after its indicator: the chomping (`-1` strip, `0`
clip, `1` keep) and the indentation step, in either order. -/
def blockScalarHeader (start : Mark) : Scan (Int × Nat) := do
  let readChomp : Scan Int := do
    let c ← current
    if c == '+' || c == '-' then
      skip
      return if c == '+' then 1 else -1
    return 0
  let readStep : Scan Nat := do
    let c ← current
    if c.isDigit then
      if c == '0' then scanFail start "found an indentation indicator equal to 0"
      skip
      return c.toNat - 48
    return 0
  let c ← current
  if c == '+' || c == '-' then
    let chomp ← readChomp
    return (chomp, ← readStep)
  else
    let step ← readStep
    return (← readChomp, step)

/-- Reads a block scalar, literal when `literal`, from its indicator. -/
def scanBlockScalar (literal : Bool) : Scan Token := do
  let start := (← get).mark
  skip
  let (chomp, step) ← blockScalarHeader start
  finishLine start
  let s ← get
  let given : Int := if step > 0 then (if s.indent ≥ 0 then s.indent + step else step) else 0
  let (indent, breaks, stop0) ← blockScalarBreaks start given ""
  let mut stop := stop0
  let mut trailing := breaks
  let mut text := ""
  let mut leading := ""
  let mut leadingBlank := false
  for _ in [0:(← get).text.size + 1] do
    need 1
    let s ← get
    if (s.mark.column : Int) != indent || isEnd (s.ahead 0) then break
    let trailingBlank := isBlank (s.ahead 0)
    if !literal && !leadingBlank && !trailingBlank && leading.startsWith "\n" then
      if trailing.isEmpty then text := text.push ' '
    else text := text ++ leading
    leading := ""
    text := text ++ trailing
    trailing := ""
    leadingBlank := trailingBlank
    for _ in [0:s.text.size + 1] do
      if isBreakOrEnd (← current) then break
      text ← readChar text
    leading ← readBreak leading
    let (_, more, after) ← blockScalarBreaks start indent ""
    trailing := more
    stop := after
  if chomp != -1 then text := text ++ leading
  if chomp == 1 then text := text ++ trailing
  return ⟨.scalar text (if literal then .literal else .folded), start, stop⟩

end WordSift.Yaml
