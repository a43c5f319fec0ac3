import WordSift.Bytes
import WordSift.Text.Utf8
import WordSift.Text.Quoted

/-!
# TOML tokens and the reading head

A document is cut into tokens by a machine whose modes say what may come next; a stack of modes
remembers where to go back once a nested part (a value, a comment, a key) is done. This module
holds the tokens, the faults, and the reading head the modes share: it reads one character at a
time, can step back over the last four, and keeps the line it stands on.

A character that is not UTF-8, a control character other than the tab, and a carriage return
that no line feed follows are faults wherever they stand. Each token records the line the head
stood on when the token was taken, which for a token that spans lines is its last one. A fault
found at the very end, or on reading a line break, may be reported on the line before, as each
mode says.
-/

namespace WordSift.Toml

/-- The kinds of tokens. -/
inductive Kind where
  | eof
  | text
  | basic
  | escaped
  | literal
  | multiline
  | multilineLiteral
  | bool
  | integer
  | float
  | datetime
  | arrayStart
  | arrayEnd
  | tableStart
  | tableEnd
  | arrayTableStart
  | arrayTableEnd
  | keyStart
  | keyEnd
  | commentStart
  | inlineStart
  | inlineEnd
deriving DecidableEq, Repr, Inhabited

/-- A token: its kind, its text, and the line of the reading head when it was taken. -/
structure Token where
  kind : Kind
  text : String
  line : Nat
deriving Repr, Inhabited

/-- A fault of a document: the line it is reported on and its message. -/
structure Fault where
  line : Nat
  message : String
deriving Repr

/-- The modes of the tokenizer: what it expects to read next. -/
inductive Mode where
  | top
  | topEnd
  | tableStart
  | tableEnd
  | arrayTableEnd
  | tableNameStart
  | tableNameEnd
  | bareName
  | quotedName
  | keyStart
  | keyNameStart
  | keyEnd
  | value
  | arrayValue
  | arrayValueEnd
  | arrayEnd
  | inlineValue
  | inlineValueEnd
  | inlineEnd
  | commentStart
  | comment
  | basic
  | multiline
  | literal
  | multilineLiteral
  | multilineEscape
  | escape
  | shortUnicode
  | longUnicode
  | numberOrDateStart
  | numberOrDate
  | datetime
  | hexDigits
  | octalDigits
  | binaryDigits
  | decimal
  | signedStart
  | zeroStart
  | float
  | word
deriving DecidableEq, Repr, Inhabited

/-- The state of the tokenizer: the input, where the current token starts, the reading head and
its line, the widths of the last characters read (latest first, at most four), whether the head
has met the end, the stack of modes to return to, whether the current string held an escape,
and the tokens taken so far. -/
structure Tokenizer where
  input : Array UInt8
  start : Nat := 0
  pos : Nat := 0
  line : Nat := 1
  widths : List Nat := []
  atEnd : Bool := false
  modes : List Mode := []
  escaped : Bool := false
  tokens : Array Token := #[]

/-- A step of the tokenizer; a fault ends the reading. -/
abbrev Tokenize := ExceptT Fault (StateM Tokenizer)

/-- The character that stands for the end of the input. -/
def endChar : Nat := 0

/-- A blank inside a line: space or tab. -/
def isBlank (c : Nat) : Bool := c == 32 || c == 9

/-- A line break: line feed or carriage return. -/
def isBreak (c : Nat) : Bool := c == 10 || c == 13

/-- A decimal digit. -/
def isDigit (c : Nat) : Bool := 48 ≤ c && c ≤ 57

/-- A hexadecimal digit, in either case. -/
def isHex (c : Nat) : Bool := isDigit c || (65 ≤ c && c ≤ 70) || (97 ≤ c && c ≤ 102)

/-- An octal digit. -/
def isOctal (c : Nat) : Bool := 48 ≤ c && c ≤ 55

/-- A binary digit. -/
def isBinary (c : Nat) : Bool := c == 48 || c == 49

/-- A character of a bare key: an ASCII letter or digit, `-` or `_`. -/
def isBareChar (c : Nat) : Bool :=
  isDigit c || (65 ≤ c && c ≤ 90) || (97 ≤ c && c ≤ 122) || c == 45 || c == 95

/-- A control character other than tab, line feed and carriage return. -/
def isControl (c : Nat) : Bool := (c < 32 && c != 9 && c != 10 && c != 13) || c == 127

/-- A character as a one-character string. -/
def charText (c : Nat) : String := String.singleton (Char.ofNat c)

/-- A character between single quotes, escaped as a character literal. -/
def quoted (c : Nat) : String := Text.quoteChar (Char.ofNat c)

/-- A character between single quotes as it is, or `end of file` for the end. -/
def quotedOrEnd (c : Nat) : String :=
  if c == endChar then "end of file" else "'" ++ charText c ++ "'"

namespace Tokenizer

/-- The byte at a position, zero past the end. -/
def byteAt (t : Tokenizer) (i : Nat) : UInt8 := t.input.getD i 0

/-- The text of the current token. -/
def current (t : Tokenizer) : String :=
  Text.lossy (t.input.extract t.start t.pos).toList

end Tokenizer

/-- A fault on the line of the head. -/
def fault {α : Type} (msg : String) : Tokenize α := do
  throw ⟨(← get).line, msg⟩

/-- A fault on the line before the head's. -/
def faultBefore {α : Type} (msg : String) : Tokenize α := do
  throw ⟨(← get).line - 1, msg⟩

/-- A fault on the head's line, or at the end on the line of the last character read. -/
def faultHere {α : Type} (msg : String) : Tokenize α := do
  let t ← get
  if t.atEnd && t.pos ≥ 1 && t.byteAt (t.pos - 1) == 10 then throw ⟨t.line - 1, msg⟩
  else throw ⟨t.line, msg⟩

/-- A fault on the head's line, or at the end on the line before. -/
def faultOrBefore {α : Type} (msg : String) : Tokenize α := do
  if (← get).atEnd then faultBefore msg else fault msg

/-- Reads the next character, or `endChar` at the end. -/
def next : Tokenize Nat := do
  let t ← get
  if t.pos ≥ t.input.size then
    set { t with atEnd := true }
    return endChar
  let b := t.byteAt t.pos
  let line := if b == 10 then t.line + 1 else t.line
  set { t with line }
  let rest := (t.input.extract (t.pos + 1) (t.pos + 4)).toList
  match Text.front b rest with
  | (.stray s, _) => fault ("invalid UTF-8 byte: 0x" ++ Bytes.hexPadded 2 s.toNat)
  | (.scalar c, w) =>
    if isControl c || (c == 13 && t.byteAt (t.pos + 1) != 10) then
      fault ("TOML files cannot contain control characters: '0x" ++ Bytes.hexPadded 2 c ++ "'")
    set { t with line, pos := t.pos + w + 1, widths := ((w + 1) :: t.widths).take 4 }
    return c

/-- Steps back over the last character read; after the end, only forgets the end. -/
def backup : Tokenize Unit := do
  let t ← get
  if t.atEnd then set { t with atEnd := false }
  else
    let w := t.widths.headD 0
    let pos := t.pos - w
    let line := if pos < t.input.size && t.byteAt pos == 10 then t.line - 1 else t.line
    set { t with pos, line, widths := t.widths.drop 1 }

/-- Reads the next character only if it is `c`. -/
def accept (c : Nat) : Tokenize Bool := do
  if (← next) == c then return true
  backup
  return false

/-- The next character, left unread. -/
def peek : Tokenize Nat := do
  let c ← next
  backup
  return c

/-- Drops what was read since the current token started. -/
def ignore : Tokenize Unit := modify fun t => { t with start := t.pos }

/-- Reads past the characters that satisfy `p`, and drops them. -/
def skipWhile (p : Nat → Bool) : Tokenize Unit := do
  let n := (← get).input.size
  for _ in [0:n + 1] do
    if !(p (← next)) then break
  backup
  ignore

/-- Takes the current token. -/
def emit (k : Kind) : Tokenize Unit := do
  let t ← get
  if t.start > t.pos then fault ("invalid UTF-8 byte: 0x" ++ Bytes.hexPadded 2 (t.byteAt t.pos).toNat)
  set { t with start := t.pos, tokens := t.tokens.push ⟨k, t.current, t.line⟩ }

/-- Takes the current token without its surrounding blanks. -/
def emitTrimmed (k : Kind) : Tokenize Unit := do
  let t ← get
  let text := String.ofList ((t.current.toList.dropWhile (· == ' ')).reverse.dropWhile (· == ' ')).reverse
  set { t with start := t.pos, tokens := t.tokens.push ⟨k, text, t.line⟩ }

/-- Remembers a mode to return to. -/
def push (m : Mode) : Tokenize Unit := modify fun t => { t with modes := m :: t.modes }

/-- Returns to the last remembered mode. -/
def pop : Tokenize (Option Mode) := do
  match (← get).modes with
  | m :: rest =>
    modify fun t => { t with modes := rest }
    return some m
  | [] => fault "BUG in lexer: no states to pop"

end WordSift.Toml
