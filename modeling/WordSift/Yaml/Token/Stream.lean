import WordSift.Yaml.Token.Scalar
import WordSift.Yaml.Token.Property

/-!
# The token stream

Tokens are produced on demand. Before each token the blanks, comments and line breaks are
passed, and the block collections deeper than the new column are closed. The first character
then decides the token: an indicator, a property, a scalar in one of its styles, or a fault
when nothing may start there.

The parser looks at one token at a time, but a plain or quoted scalar, an anchor, a tag or a
flow collection may turn out to be a simple key only when a `:` follows it on the same line.
So the scanner keeps at least three tokens ahead, and more while the next token may still start
a simple key; when the `:` comes, the `KEY` token (and, in block context, the start of a
mapping) is inserted before it.
-/

namespace WordSift.Yaml

/-- The first of the places `first`, …, 511 after the position whose character `stop` holds,
looking at them in turn. Looking past the decoded characters of a stream whose rest cannot be
decoded ends the search with nothing found: the fault is kept, to be reported once the current
event is complete, and the characters before it count as decoded from then on. -/
def lookAhead (first : Nat) (stop : Char → Bool) : Scan (Option Nat) := do
  let s ← get
  let found := (List.range' first (512 - first)).find? fun k => stop (s.ahead k)
  match s.undecodable with
  | some why =>
    if max first (s.decoded - s.mark.index) ≤ found.getD 511 then
      set { s with pendingFault := some why, decoded := s.text.size }
      return none
    return found
  | none => return found

/-- Moves past a comment and the comment lines that follow it, with the blanks and empty lines
between them, as long as the next comment starts within 511 characters. -/
def skipComments : Scan Unit := do
  for _ in [0:(← get).text.size + 1] do
    for _ in [0:(← get).text.size + 1] do
      if isBreakOrEnd (← current) then break
      skip
    match ← lookAhead 1 fun c => !(isBlank c || isBreak c) with
    | some k =>
      if (← get).ahead k != '#' then break
      let target := (← get).mark.index + k
      for _ in [0:k] do
        if (← get).mark.index ≥ target then break
        if isBreak (← current) then skipLine else skip
    | none => break

/-- Moves past a comment that follows a token on its line, with the blanks before it, unless a
line break came since the last character that is not blank. -/
def skipTrailingComment : Scan Unit := do
  if (← get).newlines > 0 then return
  match ← lookAhead 0 fun c => !isBlank c with
  | some k =>
    if (← get).ahead k == '#' then
      for _ in [0:(← get).text.size + 1] do
        if isBreakOrEnd (← current) then break
        skip
  | none => pure ()

/-- Moves to the start of the next token, past blanks, comments and line breaks. Tabs count as
blanks only in a flow collection or where no simple key may start; a line break in block
context lets a simple key start. -/
def skipToToken : Scan Unit := do
  for _ in [0:(← get).text.size + 1] do
    if (← get).mark.column == 0 && (← current) == byteOrderMark then skip
    for _ in [0:(← get).text.size + 1] do
      let c ← current
      let s ← get
      if c == ' ' || ((s.flowLevel > 0 || !s.simpleKeyAllowed) && c == '\t') then skip else break
    if (← current) == '#' then skipComments
    let s ← get
    if !isBreak (s.ahead 0) then break
    skipLine
    if s.flowLevel == 0 then modify fun s => { s with simpleKeyAllowed := true }

/-- Produces a token that is one indicator character, moving past it. -/
def pushIndicator (kind : TokenKind) : Scan Unit := do
  let start := (← get).mark
  skip
  pushToken kind start (← get).mark

/-- The first token of every stream. -/
def fetchStreamStart : Scan Unit := do
  modify fun s =>
    { s with indent := -1, simpleKeys := s.simpleKeys.push {}, simpleKeyAllowed := true,
             started := true }
  let m := (← get).mark
  pushToken .streamStart m m

/-- The end of the stream closes every block collection. -/
def fetchStreamEnd : Scan Unit := do
  modify fun s =>
    if s.mark.column == 0 then s
    else { s with mark := { s.mark with column := 0, line := s.mark.line + 1 } }
  unrollIndent (-1) (← get).mark
  removeSimpleKey
  modify fun s => { s with simpleKeyAllowed := false }
  let m := (← get).mark
  pushToken .streamEnd m m

/-- A directive, which closes every block collection. -/
def fetchDirective : Scan Unit := do
  unrollIndent (-1) (← get).mark
  removeSimpleKey
  modify fun s => { s with simpleKeyAllowed := false }
  let t ← scanDirective
  pushToken t.kind t.start t.stop

/-- A document marker `---` or `...`, which closes every block collection. -/
def fetchDocumentMarker (kind : TokenKind) : Scan Unit := do
  unrollIndent (-1) (← get).mark
  removeSimpleKey
  modify fun s => { s with simpleKeyAllowed := false }
  let start := (← get).mark
  skip
  skip
  skip
  pushToken kind start (← get).mark

/-- `[` or `{`, which may start a simple key. -/
def fetchCollectionStart (kind : TokenKind) : Scan Unit := do
  saveSimpleKey
  increaseFlowLevel
  modify fun s => { s with simpleKeyAllowed := true }
  pushIndicator kind

/-- `]` or `}`. -/
def fetchCollectionEnd (kind : TokenKind) : Scan Unit := do
  removeSimpleKey
  decreaseFlowLevel
  modify fun s => { s with simpleKeyAllowed := false }
  pushIndicator kind

/-- `,` between the entries of a flow collection. -/
def fetchFlowEntry : Scan Unit := do
  removeSimpleKey
  modify fun s => { s with simpleKeyAllowed := true }
  pushIndicator .flowEntry

/-- `-` before an entry of a block sequence, which it may open. -/
def fetchBlockEntry : Scan Unit := do
  let s ← get
  if s.flowLevel == 0 then
    if !s.simpleKeyAllowed then
      scanFailHere "block sequence entries are not allowed in this context"
    rollIndent s.mark.column none .blockSequenceStart s.mark
  removeSimpleKey
  modify fun s => { s with simpleKeyAllowed := true }
  pushIndicator .blockEntry

/-- `?` before a key, which in block context may open a mapping. -/
def fetchKey : Scan Unit := do
  let s ← get
  if s.flowLevel == 0 then
    if !s.simpleKeyAllowed then scanFailHere "mapping keys are not allowed in this context"
    rollIndent s.mark.column none .blockMappingStart s.mark
  removeSimpleKey
  modify fun s => { s with simpleKeyAllowed := s.flowLevel == 0 }
  pushIndicator .key

/-- `:` before a value. When a simple key is pending, its `KEY` token is inserted where it
started, opening a block mapping at its column if needed. -/
def fetchValue : Scan Unit := do
  let s ← get
  let i := s.simpleKeys.size - 1
  if (← keyStillPossible i) then
    let s ← get
    let k := s.simpleKeys.getD i default
    insertToken k.tokenNumber .key k.mark k.mark
    rollIndent k.mark.column (some k.tokenNumber) .blockMappingStart k.mark
    modify fun s =>
      { s with
        simpleKeys := s.simpleKeys.set! i { k with possible := false }
        keysByToken := dropKey k.tokenNumber s.keysByToken
        simpleKeyAllowed := false }
  else
    let s ← get
    if s.flowLevel == 0 then
      if !s.simpleKeyAllowed then scanFailHere "mapping values are not allowed in this context"
      rollIndent s.mark.column none .blockMappingStart s.mark
    modify fun s => { s with simpleKeyAllowed := s.flowLevel == 0 }
  pushIndicator .value

/-- A token that may start a simple key, and after which none may start. -/
def fetchKeyable (scan : Scan Token) : Scan Unit := do
  saveSimpleKey
  modify fun s => { s with simpleKeyAllowed := false }
  let t ← scan
  pushToken t.kind t.start t.stop

/-- A block scalar, after which a simple key may start. -/
def fetchBlockScalar (literal : Bool) : Scan Unit := do
  removeSimpleKey
  modify fun s => { s with simpleKeyAllowed := true }
  let t ← scanBlockScalar literal
  pushToken t.kind t.start t.stop

/-- Whether a plain scalar may start here: not at a blank or an indicator, except `-`, `?` and
`:` followed by a character that is not blank (`?` and `:` only in block context). -/
def Scanner.startsPlain (s : Scanner) : Bool :=
  let c := s.ahead 0
  let next := s.ahead 1
  !(isBlankOrEnd c || "-?:,[]\x7b\x7d#&*!|>%@".contains c || c == apostrophe || c == '"' ||
      c == backquote) ||
    (c == '-' && !isBlank next) ||
    (s.flowLevel == 0 && (c == '?' || c == ':') && !isBlankOrEnd next)

/-- Produces the token that starts at the current character. -/
def fetchContent : Scan Unit := do
  let s ← get
  let c := s.ahead 0
  let next := s.ahead 1
  let flow := s.flowLevel > 0
  if c == '[' then fetchCollectionStart .flowSequenceStart
  else if c == '{' then fetchCollectionStart .flowMappingStart
  else if c == ']' then fetchCollectionEnd .flowSequenceEnd
  else if c == '}' then fetchCollectionEnd .flowMappingEnd
  else if c == ',' then fetchFlowEntry
  else if c == '-' && isBlankOrEnd next then fetchBlockEntry
  else if c == '?' && (flow || isBlankOrEnd next) then fetchKey
  else if c == ':' && (flow || isBlankOrEnd next) then fetchValue
  else if c == '*' then fetchKeyable (scanAnchor true)
  else if c == '&' then fetchKeyable (scanAnchor false)
  else if c == '!' then fetchKeyable scanTag
  else if c == '|' && !flow then fetchBlockScalar true
  else if c == '>' && !flow then fetchBlockScalar false
  else if c == apostrophe then fetchKeyable (scanQuotedScalar true)
  else if c == '"' then fetchKeyable (scanQuotedScalar false)
  else if s.startsPlain then fetchKeyable scanPlainScalar
  else scanFailHere "found character that cannot start any token"

/-- Produces the next token (or, when a simple key completes, the tokens it implies). -/
def fetchNextToken : Scan Unit := do
  need 1
  if !(← get).started then
    fetchStreamStart
    return
  let scanMark := (← get).mark
  skipToToken
  unrollIndent (← get).mark.column scanMark
  -- the longest indicators, `--- ` and `... `, take four characters
  need 4
  let s ← get
  let c := s.ahead 0
  if isEnd c then fetchStreamEnd
  else if s.mark.column == 0 && c == '%' then fetchDirective
  else if s.atDocumentMarker '-' then fetchDocumentMarker .documentStart
  else if s.atDocumentMarker '.' then fetchDocumentMarker .documentEnd
  else
    fetchContent
    if ((← get).tokens.back?.map (·.kind)) != some .blockEntry then skipTrailingComment

/-- Scans until the parser may look at its next token: three tokens are queued past it, and it
does not start a simple key that may still be one. -/
def fetchMoreTokens : Scan Unit := do
  for _ in [0:(← get).text.size + 8] do
    let s ← get
    if s.taken + 2 < s.tokens.size then
      match s.keysByToken.lookup s.taken with
      | none => break
      | some i => if !(← keyStillPossible i) then break
    fetchNextToken
  modify fun s => { s with ready := true }

/-- The next token, scanning as far as needed. -/
def peekToken : Scan Token := do
  if !(← get).ready then fetchMoreTokens
  let s ← get
  return s.tokens.getD s.taken default

/-- Takes the next token. -/
def skipToken : Scan Unit :=
  modify fun s => { s with ready := false, taken := s.taken + 1 }

end WordSift.Yaml
