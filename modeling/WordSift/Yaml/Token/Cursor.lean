import WordSift.Yaml.Token

/-!
# The cursor that splits a YAML stream into tokens

The scanner walks the characters of a stream and keeps the tokens it has produced. Beside the
position it tracks what decides how the next characters are read: the indentation of every open
block collection, how deeply flow collections are nested, whether a simple key (a key without
`?`) may start here, and for each flow level the position where a pending simple key started.
A simple key is only known to be one when its `:` arrives, so its `KEY` token (and the start of
a block mapping) is inserted into the queue afterwards, before the tokens of the key.

This file holds the character classes, the moves of the cursor, and the bookkeeping of simple
keys and indentation.
-/

namespace WordSift.Yaml

/-- The end of the text reads as this character. -/
def endChar : Char := Char.ofNat 0

/-- The line separator and paragraph separator, which YAML counts as line breaks. -/
def lineSeparator : Char := Char.ofNat 0x2028

/-- The paragraph separator. -/
def paragraphSeparator : Char := Char.ofNat 0x2029

/-- The apostrophe, which quotes single-quoted scalars. -/
def apostrophe : Char := Char.ofNat 39

/-- The backquote, a reserved indicator that may not start a plain scalar. -/
def backquote : Char := Char.ofNat 96

/-- A space or a tab. -/
def isBlank (c : Char) : Bool := c == ' ' || c == '\t'

/-- A line break: carriage return, line feed, NEL, or a line or paragraph separator. -/
def isBreak (c : Char) : Bool :=
  c == '\r' || c == '\n' || c == Char.ofNat 0x85 || c == lineSeparator || c == paragraphSeparator

/-- The end of the text. -/
def isEnd (c : Char) : Bool := c == endChar

/-- A line break or the end. -/
def isBreakOrEnd (c : Char) : Bool := isBreak c || isEnd c

/-- A blank, a line break or the end. -/
def isBlankOrEnd (c : Char) : Bool := isBlank c || isBreakOrEnd c

/-- A character of a name: an ASCII letter or digit, `_` or `-`. -/
def isNameChar (c : Char) : Bool :=
  ('0' ≤ c && c ≤ '9') || ('A' ≤ c && c ≤ 'Z') || ('a' ≤ c && c ≤ 'z') || c == '_' || c == '-'

/-- The value of a hexadecimal digit. -/
def hexValue? (c : Char) : Option Nat :=
  if '0' ≤ c && c ≤ '9' then some (c.toNat - 48)
  else if 'a' ≤ c && c ≤ 'f' then some (c.toNat - 87)
  else if 'A' ≤ c && c ≤ 'F' then some (c.toNat - 55)
  else none

/-- The byte-order mark. -/
def byteOrderMark : Char := Char.ofNat 0xFEFF

/-- A simple key that may be pending at a flow level: whether it still may be one, whether it
must be one, the number of its first token and where it starts. -/
structure SimpleKey where
  possible : Bool := false
  required : Bool := false
  tokenNumber : Nat := 0
  mark : Mark := {}
deriving Repr, Inhabited

/-- The scanner: the text, the position, every token produced so far and how many of them the
parser has taken, and the context that decides how to read on. -/
structure Scanner where
  text : Array Char
  /-- When the rest of the stream cannot be decoded, why not. -/
  undecodable : Option String := none
  /-- How many characters may be read before the rest of the stream has to be decoded. -/
  decoded : Nat := 0
  /-- A decoding fault met while looking ahead, reported once the current event is complete. -/
  pendingFault : Option String := none
  mark : Mark := {}
  tokens : Array Token := #[]
  /-- How many tokens the parser has taken. -/
  taken : Nat := 0
  /-- The queue holds enough tokens for the parser to look at the next one. -/
  ready : Bool := false
  started : Bool := false
  /-- The column of the innermost block collection, `-1` outside any. -/
  indent : Int := -1
  /-- The columns of the enclosing block collections, innermost first. -/
  indents : List Int := []
  simpleKeyAllowed : Bool := false
  /-- One pending simple key per flow level, the innermost last. -/
  simpleKeys : Array SimpleKey := #[]
  /-- Which pending simple key (by its place in `simpleKeys`) starts at a token number. -/
  keysByToken : List (Nat × Nat) := []
  flowLevel : Nat := 0
  /-- How many line breaks were passed since the last character that is not blank. -/
  newlines : Nat := 0
deriving Repr, Inhabited

/-- A step of the scanner. -/
abbrev Scan := StateT Scanner (Except Fault)

namespace Scanner

/-- The character `k` places after the position, or the end character past the text. -/
def ahead (s : Scanner) (k : Nat) : Char := s.text.getD (s.mark.index + k) endChar

/-- A document marker (`---` or `...`) stands at the position, followed by a blank or the end. -/
def atDocumentMarker (s : Scanner) (c : Char) : Bool :=
  s.mark.column == 0 && s.ahead 0 == c && s.ahead 1 == c && s.ahead 2 == c &&
    isBlankOrEnd (s.ahead 3)

/-- A fault found at the current position, with the given context. -/
def fault (s : Scanner) (context : Mark) (message : String) : Fault :=
  { stage := .scanner, context := context, problem := s.mark, message := message }

end Scanner

/-- Asks for the `n` characters from the position on. Asking past the decoded characters of a
stream whose rest cannot be decoded fails with the reason. -/
def need (n : Nat) : Scan Unit := do
  let s ← get
  if s.decoded < s.mark.index + n then
    if let some why := s.undecodable then throw { stage := .reader, message := why }

/-- The character `k` places ahead. -/
def peekChar (k : Nat) : Scan Char := do
  need (k + 1)
  return (← get).ahead k

/-- The current character. -/
def current : Scan Char := peekChar 0

/-- Fails at the current position with a context. -/
def scanFail {α : Type} (context : Mark) (message : String) : Scan α := do
  throw ((← get).fault context message)

/-- Fails at the current position, which is its own context. -/
def scanFailHere {α : Type} (message : String) : Scan α := do
  scanFail (← get).mark message

/-- Moves past one character that is not a line break. -/
def skip : Scan Unit := modify fun s =>
  { s with
    newlines := if isBlank (s.ahead 0) then s.newlines else 0
    mark := { s.mark with index := s.mark.index + 1, column := s.mark.column + 1 } }

/-- Moves past a line break; a carriage return and line feed count as one. -/
def skipLine : Scan Unit := do
  need 2
  modify fun s =>
    let width := if s.ahead 0 == '\r' && s.ahead 1 == '\n' then 2
      else if isBreak (s.ahead 0) then 1 else 0
    if width == 0 then s
    else
      { s with
        newlines := s.newlines + 1
        mark := { index := s.mark.index + width, line := s.mark.line + 1, column := 0 } }

/-- Moves past the current character, appending it to a text. -/
def readChar (acc : String) : Scan String := do
  let c ← current
  skip
  return acc.push c

/-- Moves past a line break, appending it to a text: a line or paragraph separator as itself,
every other break as a line feed. -/
def readBreak (acc : String) : Scan String := do
  let c ← current
  if !isBreak c then return acc
  skipLine
  return acc.push (if c == lineSeparator || c == paragraphSeparator then c else '\n')

/-- Moves past the blanks at the position. -/
def skipBlanks : Scan Unit := do
  for _ in [0:(← get).text.size + 1] do
    if isBlank (← current) then skip else break

/-- Moves past the rest of a line: blanks, a comment, and the line break, which must come. -/
def finishLine (start : Mark) : Scan Unit := do
  skipBlanks
  if (← current) == '#' then
    for _ in [0:(← get).text.size + 1] do
      if isBreakOrEnd (← current) then break
      skip
  if !isBreakOrEnd (← current) then scanFail start "did not find expected comment or line break"
  skipLine

/-- Appends a token to the queue. -/
def pushToken (kind : TokenKind) (start stop : Mark) : Scan Unit :=
  modify fun s => { s with tokens := s.tokens.push ⟨kind, start, stop⟩ }

/-- Inserts a token into the queue so that it gets number `n`. -/
def insertToken (n : Nat) (kind : TokenKind) (start stop : Mark) : Scan Unit :=
  modify fun s =>
    { s with tokens := (s.tokens.toList.take n ++ ⟨kind, start, stop⟩ :: s.tokens.toList.drop n).toArray }

/-- The pending simple keys without the one starting at token `n`. -/
def dropKey (n : Nat) (m : List (Nat × Nat)) : List (Nat × Nat) := m.filter (·.1 != n)

/-- Gives up the pending simple key of the current flow level; a key that must be one is a
fault. -/
def removeSimpleKey : Scan Unit := do
  let s ← get
  let i := s.simpleKeys.size - 1
  let k := s.simpleKeys.getD i default
  if k.possible then
    if k.required then scanFail k.mark "could not find expected ':'"
    set { s with
      simpleKeys := s.simpleKeys.set! i { k with possible := false }
      keysByToken := dropKey k.tokenNumber s.keysByToken }

/-- Notes that a simple key may start here, if one may. It must be one when it starts a line of
a block collection at the collection's column. -/
def saveSimpleKey : Scan Unit := do
  let s ← get
  if s.simpleKeyAllowed then
    let key : SimpleKey :=
      { possible := true
        required := s.flowLevel == 0 && s.indent == (s.mark.column : Int)
        tokenNumber := s.tokens.size
        mark := s.mark }
    removeSimpleKey
    modify fun s =>
      let i := s.simpleKeys.size - 1
      { s with
        simpleKeys := s.simpleKeys.set! i key
        keysByToken := (key.tokenNumber, i) :: dropKey key.tokenNumber s.keysByToken }

/-- Whether the pending simple key at place `i` may still be one: a key ends with its line and
within 1024 characters. A key that ran out is given up, and is a fault if it must be one. -/
def keyStillPossible (i : Nat) : Scan Bool := do
  let s ← get
  let k := s.simpleKeys.getD i default
  if !k.possible then return false
  if k.mark.line < s.mark.line || k.mark.index + 1024 < s.mark.index then
    if k.required then scanFail k.mark "could not find expected ':'"
    set { s with simpleKeys := s.simpleKeys.set! i { k with possible := false } }
    return false
  return true

/-- Enters a flow collection. -/
def increaseFlowLevel : Scan Unit := do
  modify fun s =>
    { s with simpleKeys := s.simpleKeys.push { mark := s.mark }, flowLevel := s.flowLevel + 1 }
  let s ← get
  if s.flowLevel > 10000 then
    scanFail (s.simpleKeys.getD (s.simpleKeys.size - 1) default).mark "exceeded max depth of 10000"

/-- Leaves a flow collection. -/
def decreaseFlowLevel : Scan Unit := modify fun s =>
  if s.flowLevel == 0 then s
  else
    let last := s.simpleKeys.getD (s.simpleKeys.size - 1) default
    { s with
      flowLevel := s.flowLevel - 1
      keysByToken := dropKey last.tokenNumber s.keysByToken
      simpleKeys := s.simpleKeys.pop }

/-- Opens a block collection at `column` when it is deeper than the current one, with its
start token appended or, for a simple key, inserted as token number `n`. -/
def rollIndent (column : Int) (n : Option Nat) (kind : TokenKind) (mark : Mark) : Scan Unit := do
  let s ← get
  if s.flowLevel == 0 && s.indent < column then
    set { s with indents := s.indent :: s.indents, indent := column }
    if s.indents.length + 1 > 10000 then
      scanFail (s.simpleKeys.getD (s.simpleKeys.size - 1) default).mark
        "exceeded max depth of 10000"
    match n with
    | none => pushToken kind mark mark
    | some k => insertToken k kind mark mark

/-- Closes every block collection deeper than `column`, each with a `BLOCK-END` token placed
just before where the scan for the next token began. -/
def unrollIndent (column : Int) (scanMark : Mark) : Scan Unit := do
  let blockMark := { scanMark with index := scanMark.index - 1 }
  for _ in [0:(← get).indents.length + 1] do
    let s ← get
    if s.flowLevel > 0 || s.indent ≤ column then break
    pushToken .blockEnd blockMark blockMark
    modify fun s => { s with indent := s.indents.headD (-1), indents := s.indents.tail }

end WordSift.Yaml
