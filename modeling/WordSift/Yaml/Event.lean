import WordSift.Yaml.Token.Stream

/-!
# YAML events

The tokens of a stream fit together into events: the start and end of the stream, of each
document and of each collection, scalars and aliases. A block collection's start and end come
from its indentation tokens, a flow collection's from its brackets, and a sequence of `-`
entries at the same column as the key it belongs to ("indentless") from the entries
themselves. A missing key or value, or a node that has only properties, is an empty scalar.

A document may begin with directives: at most one `%YAML`, of version 1.1, and `%TAG`
directives naming distinct handles; `!` and `!!` stand for `!` and `tag:yaml.org,2002:`
unless a directive says otherwise. A tag's handle must be one of these.

Events are produced one at a time, each reading only as many tokens as it needs, so a fault
later in the stream is only found when the events reach it.
-/

namespace WordSift.Yaml

/-- The kinds of events, with what they carry. A node's anchor and tag (the tag with its
handle already replaced by the prefix) come with its first event. -/
inductive EventKind where
  | streamStart
  | streamEnd
  | documentStart
  | documentEnd
  | alias (name : String)
  | scalar (anchor : Option String) (tag value : String) (style : ScalarStyle)
  | sequenceStart (anchor : Option String) (tag : String) (flow : Bool)
  | sequenceEnd
  | mappingStart (anchor : Option String) (tag : String) (flow : Bool)
  | mappingEnd
deriving Repr, Inhabited, DecidableEq

/-- An event with the positions where it starts and ends. -/
structure Event where
  kind : EventKind
  start : Mark
  stop : Mark
deriving Repr, Inhabited

/-- Where the parser stands: what it expects next. -/
inductive Expect where
  | streamStart
  | implicitDocumentStart
  | documentStart
  | documentContent
  | documentEnd
  | blockNode
  | blockNodeOrIndentlessSequence
  | flowNode
  | blockSequenceFirstEntry
  | blockSequenceEntry
  | indentlessSequenceEntry
  | blockMappingFirstKey
  | blockMappingKey
  | blockMappingValue
  | flowSequenceFirstEntry
  | flowSequenceEntry
  | flowSequenceEntryMappingKey
  | flowSequenceEntryMappingValue
  | flowSequenceEntryMappingEnd
  | flowMappingFirstKey
  | flowMappingKey
  | flowMappingValue
  | flowMappingEmptyValue
  | finished
deriving Repr, Inhabited, DecidableEq

/-- The parser: the token stream, what it expects now and what it expects after each open
node, where each open collection started, and the tag handles of the current document. -/
structure Parser where
  tokens : Scanner
  expect : Expect := .streamStart
  after : List Expect := []
  marks : List Mark := []
  handles : List (String × String) := []
deriving Inhabited

/-- A step of the parser. -/
abbrev Parse := StateT Parser (Except Fault)

/-- The parser of a stream's characters. -/
def Parser.ofChars (c : Chars) : Parser :=
  { tokens := { text := c.chars, decoded := c.ready, undecodable := c.fault } }

/-- Runs a step of the token stream. -/
def liftScan {α : Type} (m : Scan α) : Parse α := fun p => do
  let (a, s) ← m.run p.tokens
  return (a, { p with tokens := s })

/-- The next token. -/
def peekT : Parse Token := liftScan peekToken

/-- Takes the next token. -/
def skipT : Parse Unit := liftScan skipToken

/-- A fault of the parser at a token. -/
def parseFail {α : Type} (message : String) (place : Mark) : Parse α :=
  throw { stage := .parser, problem := place, message := message }

/-- A fault of the parser at a token, within a node or collection that started at `context`. -/
def parseFailIn {α : Type} (context : Mark) (message : String) (place : Mark) : Parse α :=
  throw { stage := .parser, context := context, problem := place, message := message }

/-- Expects `e` next. -/
def goTo (e : Expect) : Parse Unit := modify fun p => { p with expect := e }

/-- Expects `e` once the node about to be read is complete. -/
def pushAfter (e : Expect) : Parse Unit := modify fun p => { p with after := e :: p.after }

/-- Returns to what was expected before the current node. -/
def popAfter : Parse Unit := modify fun p =>
  { p with expect := p.after.headD .finished, after := p.after.tail }

/-- Notes where a collection starts. -/
def pushMark (m : Mark) : Parse Unit := modify fun p => { p with marks := m :: p.marks }

/-- Forgets where the innermost collection started, returning it. -/
def popMark : Parse Mark := do
  let p ← get
  set { p with marks := p.marks.tail }
  return p.marks.headD {}

/-- An empty plain scalar at a position. -/
def emptyScalar (m : Mark) : Event := ⟨.scalar none "" "" .plain, m, m⟩

/-- How many steps any loop over tokens may take. -/
def tokenBound : Parse Nat := return (← get).tokens.text.size + 8

/-- Adds a tag handle; a handle given twice is a fault unless it is a default. -/
def addHandle (handle pfx : String) (isDefault : Bool) (m : Mark) : Parse Unit := do
  let p ← get
  if (p.handles.lookup handle).isSome then
    if !isDefault then parseFail "found duplicate %TAG directive" m
  else set { p with handles := p.handles ++ [(handle, pfx)] }

/-- Reads the directives before a document and adds the default handles. -/
def processDirectives : Parse Unit := do
  let mut version := false
  for _ in [0:← tokenBound] do
    let t ← peekT
    match t.kind with
    | .versionDirective major minor =>
      if version then parseFail "found duplicate %YAML directive" t.start
      if major != 1 || minor != 1 then parseFail "found incompatible YAML document" t.start
      version := true
    | .tagDirective handle pfx => addHandle handle pfx false t.start
    | _ => break
    skipT
  let t ← peekT
  addHandle "!" "!" true t.start
  addHandle "!!" "tag:yaml.org,2002:" true t.start

/-- The start of the stream. -/
def parseStreamStart : Parse Event := do
  let t ← peekT
  if t.kind != .streamStart then parseFail "did not find expected <stream-start>" t.start
  goTo .implicitDocumentStart
  skipT
  return ⟨.streamStart, t.start, t.stop⟩

/-- The start of a document, or the end of the stream. A document that is not the first needs
`---`; extra `...` markers before it are passed over. -/
def parseDocumentStart (implicit : Bool) : Parse Event := do
  let mut t ← peekT
  if !implicit then
    for _ in [0:← tokenBound] do
      if t.kind != .documentEnd then break
      skipT
      t ← peekT
  let directive := match t.kind with
    | .versionDirective .. | .tagDirective .. => true
    | _ => false
  if implicit && !directive && t.kind != .documentStart && t.kind != .streamEnd then
    processDirectives
    pushAfter .documentEnd
    goTo .blockNode
    return ⟨.documentStart, t.start, t.stop⟩
  else if t.kind != .streamEnd then
    let start := t.start
    processDirectives
    let marker ← peekT
    if marker.kind != .documentStart then
      parseFail "did not find expected <document start>" marker.start
    pushAfter .documentEnd
    goTo .documentContent
    skipT
    return ⟨.documentStart, start, marker.stop⟩
  else
    goTo .finished
    skipT
    return ⟨.streamEnd, t.start, t.stop⟩

/-- A token that ends a document's content: a directive, a document marker or the end of the
stream. -/
def isDocumentBoundary : TokenKind → Bool
  | .versionDirective .. | .tagDirective .. | .documentStart | .documentEnd | .streamEnd => true
  | _ => false

/-- The end of a document, with or without `...`. -/
def parseDocumentEnd : Parse Event := do
  let t ← peekT
  let stop ← if t.kind == .documentEnd then do
      skipT
      pure t.stop
    else pure t.start
  modify fun p => { p with handles := [] }
  goTo .documentStart
  return ⟨.documentEnd, t.start, stop⟩

/-- A node: an alias, or properties followed by a scalar or the start of a collection (block
collections only where `block`, a sequence of bare `-` entries where `indentless`). Properties
alone make an empty scalar. -/
def parseNode (block indentless : Bool) : Parse Event := do
  let first ← peekT
  if let .alias name := first.kind then
    popAfter
    skipT
    return ⟨.alias name, first.start, first.stop⟩
  let mut t := first
  let start := first.start
  let mut stop := first.start
  let mut anchor : Option String := none
  let mut tagToken : Option (String × String × Mark) := none
  match t.kind with
  | .anchor a =>
    anchor := some a
    stop := t.stop
    skipT
    t ← peekT
    if let .tag h s := t.kind then
      tagToken := some (h, s, t.start)
      stop := t.stop
      skipT
      t ← peekT
  | .tag h s =>
    tagToken := some (h, s, t.start)
    stop := t.stop
    skipT
    t ← peekT
    if let .anchor a := t.kind then
      anchor := some a
      stop := t.stop
      skipT
      t ← peekT
  | _ => pure ()
  let tag ← match tagToken with
    | none => pure ""
    | some (h, s, m) =>
      if h.isEmpty then pure s
      else match (← get).handles.lookup h with
        | some pfx => pure (pfx ++ s)
        | none => parseFailIn start "found undefined tag handle" m
  if indentless && t.kind == .blockEntry then
    goTo .indentlessSequenceEntry
    return ⟨.sequenceStart anchor tag false, start, t.stop⟩
  match t.kind with
  | .scalar value style =>
    popAfter
    skipT
    return ⟨.scalar anchor tag value style, start, t.stop⟩
  | .flowSequenceStart =>
    goTo .flowSequenceFirstEntry
    return ⟨.sequenceStart anchor tag true, start, t.stop⟩
  | .flowMappingStart =>
    goTo .flowMappingFirstKey
    return ⟨.mappingStart anchor tag true, start, t.stop⟩
  | .blockSequenceStart =>
    if block then
      goTo .blockSequenceFirstEntry
      return ⟨.sequenceStart anchor tag false, start, t.stop⟩
  | .blockMappingStart =>
    if block then
      goTo .blockMappingFirstKey
      return ⟨.mappingStart anchor tag false, start, t.stop⟩
  | _ => pure ()
  if anchor.isSome || !tag.isEmpty then
    popAfter
    return ⟨.scalar anchor tag "" .plain, start, stop⟩
  parseFailIn start "did not find expected node content" t.start

/-- The explicit document's content. -/
def parseDocumentContent : Parse Event := do
  let t ← peekT
  if isDocumentBoundary t.kind then
    popAfter
    return emptyScalar t.start
  parseNode true false

/-- An entry of a block sequence, or its end. -/
def parseBlockSequenceEntry (first : Bool) : Parse Event := do
  if first then
    pushMark (← peekT).start
    skipT
  let t ← peekT
  if t.kind == .blockEntry then
    let m := t.stop
    skipT
    let t ← peekT
    if t.kind != .blockEntry && t.kind != .blockEnd then
      pushAfter .blockSequenceEntry
      parseNode true false
    else
      goTo .blockSequenceEntry
      return emptyScalar m
  else if t.kind == .blockEnd then
    popAfter
    let _ ← popMark
    skipT
    return ⟨.sequenceEnd, t.start, t.stop⟩
  else
    parseFailIn (← popMark) "did not find expected '-' indicator" t.start

/-- An entry of a sequence of bare `-` entries, or its end at any other token. -/
def parseIndentlessSequenceEntry : Parse Event := do
  let t ← peekT
  if t.kind == .blockEntry then
    let m := t.stop
    skipT
    let t ← peekT
    if t.kind != .blockEntry && t.kind != .key && t.kind != .value && t.kind != .blockEnd then
      pushAfter .indentlessSequenceEntry
      parseNode true false
    else
      goTo .indentlessSequenceEntry
      return emptyScalar m
  else
    popAfter
    return ⟨.sequenceEnd, t.start, t.start⟩

/-- A key of a block mapping, or its end. -/
def parseBlockMappingKey (first : Bool) : Parse Event := do
  if first then
    pushMark (← peekT).start
    skipT
  let t ← peekT
  if t.kind == .key then
    let m := t.stop
    skipT
    let t ← peekT
    if t.kind != .key && t.kind != .value && t.kind != .blockEnd then
      pushAfter .blockMappingValue
      parseNode true true
    else
      goTo .blockMappingValue
      return emptyScalar m
  else if t.kind == .blockEnd then
    popAfter
    let _ ← popMark
    skipT
    return ⟨.mappingEnd, t.start, t.stop⟩
  else
    parseFailIn (← popMark) "did not find expected key" t.start

/-- A value of a block mapping, empty when its `:` is missing. -/
def parseBlockMappingValue : Parse Event := do
  let t ← peekT
  if t.kind == .value then
    let m := t.stop
    skipT
    let t ← peekT
    if t.kind != .key && t.kind != .value && t.kind != .blockEnd then
      pushAfter .blockMappingKey
      parseNode true true
    else
      goTo .blockMappingKey
      return emptyScalar m
  else
    goTo .blockMappingKey
    return emptyScalar t.start

/-- An entry of a flow sequence, or its end. An entry with `?` or a key and `:` is a mapping of
one pair. -/
def parseFlowSequenceEntry (first : Bool) : Parse Event := do
  if first then
    pushMark (← peekT).start
    skipT
  let mut t ← peekT
  if t.kind != .flowSequenceEnd then
    if !first then
      if t.kind == .flowEntry then
        skipT
        t ← peekT
      else parseFailIn (← popMark) "did not find expected ',' or ']'" t.start
    if t.kind == .key then
      goTo .flowSequenceEntryMappingKey
      skipT
      return ⟨.mappingStart none "" true, t.start, t.stop⟩
    else if t.kind != .flowSequenceEnd then
      pushAfter .flowSequenceEntry
      return (← parseNode false false)
  popAfter
  let _ ← popMark
  skipT
  return ⟨.sequenceEnd, t.start, t.stop⟩

/-- The key of a one-pair mapping in a flow sequence. -/
def parseFlowSequenceEntryMappingKey : Parse Event := do
  let t ← peekT
  if t.kind != .value && t.kind != .flowEntry && t.kind != .flowSequenceEnd then
    pushAfter .flowSequenceEntryMappingValue
    parseNode false false
  else
    skipT
    goTo .flowSequenceEntryMappingValue
    return emptyScalar t.stop

/-- The value of a one-pair mapping in a flow sequence. -/
def parseFlowSequenceEntryMappingValue : Parse Event := do
  let t ← peekT
  if t.kind == .value then
    skipT
    let next ← peekT
    if next.kind != .flowEntry && next.kind != .flowSequenceEnd then
      pushAfter .flowSequenceEntryMappingEnd
      return (← parseNode false false)
  goTo .flowSequenceEntryMappingEnd
  return emptyScalar t.start

/-- The end of a one-pair mapping in a flow sequence. -/
def parseFlowSequenceEntryMappingEnd : Parse Event := do
  let t ← peekT
  goTo .flowSequenceEntry
  return ⟨.mappingEnd, t.start, t.start⟩

/-- A key of a flow mapping, or its end. -/
def parseFlowMappingKey (first : Bool) : Parse Event := do
  if first then
    pushMark (← peekT).start
    skipT
  let mut t ← peekT
  if t.kind != .flowMappingEnd then
    if !first then
      if t.kind == .flowEntry then
        skipT
        t ← peekT
      else parseFailIn (← popMark) "did not find expected ',' or '\x7d'" t.start
    if t.kind == .key then
      skipT
      let next ← peekT
      if next.kind != .value && next.kind != .flowEntry && next.kind != .flowMappingEnd then
        pushAfter .flowMappingValue
        return (← parseNode false false)
      else
        goTo .flowMappingValue
        return emptyScalar next.start
    else if t.kind != .flowMappingEnd then
      pushAfter .flowMappingEmptyValue
      return (← parseNode false false)
  popAfter
  let _ ← popMark
  skipT
  return ⟨.mappingEnd, t.start, t.stop⟩

/-- A value of a flow mapping; empty when `empty` (a key without `:`) or when nothing follows
the `:`. -/
def parseFlowMappingValue (empty : Bool) : Parse Event := do
  let t ← peekT
  if empty then
    goTo .flowMappingKey
    return emptyScalar t.start
  if t.kind == .value then
    skipT
    let t ← peekT
    if t.kind != .flowEntry && t.kind != .flowMappingEnd then
      pushAfter .flowMappingKey
      return (← parseNode false false)
    goTo .flowMappingKey
    return emptyScalar t.start
  goTo .flowMappingKey
  return emptyScalar t.start

/-- The next event. After the end of the stream there are no more; asking again gives the end
once more. -/
def nextEvent : Parse Event := do
  match (← get).expect with
  | .streamStart => parseStreamStart
  | .implicitDocumentStart => parseDocumentStart true
  | .documentStart => parseDocumentStart false
  | .documentContent => parseDocumentContent
  | .documentEnd => parseDocumentEnd
  | .blockNode => parseNode true false
  | .blockNodeOrIndentlessSequence => parseNode true true
  | .flowNode => parseNode false false
  | .blockSequenceFirstEntry => parseBlockSequenceEntry true
  | .blockSequenceEntry => parseBlockSequenceEntry false
  | .indentlessSequenceEntry => parseIndentlessSequenceEntry
  | .blockMappingFirstKey => parseBlockMappingKey true
  | .blockMappingKey => parseBlockMappingKey false
  | .blockMappingValue => parseBlockMappingValue
  | .flowSequenceFirstEntry => parseFlowSequenceEntry true
  | .flowSequenceEntry => parseFlowSequenceEntry false
  | .flowSequenceEntryMappingKey => parseFlowSequenceEntryMappingKey
  | .flowSequenceEntryMappingValue => parseFlowSequenceEntryMappingValue
  | .flowSequenceEntryMappingEnd => parseFlowSequenceEntryMappingEnd
  | .flowMappingFirstKey => parseFlowMappingKey true
  | .flowMappingKey => parseFlowMappingKey false
  | .flowMappingValue => parseFlowMappingValue false
  | .flowMappingEmptyValue => parseFlowMappingValue true
  | .finished =>
    let m := (← get).tokens.mark
    return ⟨.streamEnd, m, m⟩

end WordSift.Yaml
