import WordSift.Toml.Token
import WordSift.Text.Letter

/-!
# Cutting a TOML document into tokens

Each mode reads what it expects and names the mode that follows; `none` means the reading is
over (the end-of-input token was taken). The modes follow the grammar of TOML:

* at the top, a table header `[a.b]` or `[[a.b]]`, a key/value pair, or a comment, each ending
  its line;
* a key is a dotted list of bare or quoted names followed by `=`;
* a value is a string (basic, literal, or either of them on several lines), a number, a
  date-time, a boolean, an array, or an inline table on one line;
* numbers and date-times are cut generously here (any run of the characters they may hold) and
  checked when the document is built.

Every fault ends the reading; the tokens taken before it are kept.
-/

namespace WordSift.Toml

/-- Reads an escape after a backslash. -/
def escapeStep : Tokenize (Option Mode) := do
  modify fun t => { t with escaped := true }
  let c ← next
  if c == 98 || c == 116 || c == 110 || c == 102 || c == 114 || c == 34 || c == 32 ||
      c == 9 || c == 92 then pop
  else if c == 117 then return some .shortUnicode
  else if c == 85 then return some .longUnicode
  else faultOrBefore ("invalid escape in string '\\" ++ charText c ++ "'")

/-- Reads the `n` hexadecimal digits of a `\u` or `\U` escape. -/
def unicodeStep (n : Nat) (mark : String) (count : String) : Tokenize (Option Mode) := do
  for _ in [0:n] do
    let c ← next
    if !isHex c then
      faultHere ("expected " ++ count ++ " hexadecimal digits after '\\" ++ mark ++
        "', but got " ++ Text.quote (Bytes.ofString (← get).current) ++ " instead")
  pop

/-- Reads a letter word as a boolean. -/
def wordStep : Tokenize (Option Mode) := do
  let n := (← get).input.size
  let mut word : List Nat := []
  for _ in [0:n + 1] do
    let c ← next
    if !Text.isLetter c then
      backup
      break
    word := c :: word
  let s := String.ofList (word.reverse.map Char.ofNat)
  if s == "true" || s == "false" then
    emit .bool
    pop
  else faultHere ("expected value but found " ++ Text.quote (Bytes.ofString s) ++ " instead")

/-- Reads the closing delimiter of a multi-line string of quote `q` (`"` or `'`) once its first
character is read: a run of three closes it, as do the last three of a run of up to five. -/
def closingStep (q : Nat) (kind : Kind) (self : Mode) : Tokenize (Option Mode) := do
  if ← accept q then
    if ← accept q then
      if (← peek) == q then
        let cur := (← get).current
        let five := String.ofList (List.replicate 5 (Char.ofNat q))
        let guarded := q == 34 && cur.endsWith ("\\" ++ five)
        if cur.endsWith five && !guarded then
          let six := String.ofList (List.replicate 6 (Char.ofNat q))
          if q == 34 then faultHere ("unexpected '" ++ six ++ "'")
          else faultHere ("unexpected \"" ++ six ++ "\"")
        backup
        backup
        return some self
      backup
      backup
      backup
      modify fun t => { t with escaped := false }
      emit kind
      let _ ← next
      let _ ← next
      let _ ← next
      ignore
      return ← pop
    backup
  return some self

/-- One step of the tokenizer in a mode. -/
def step : Mode → Tokenize (Option Mode)
  | .top => do
    let c ← next
    if isBlank c || isBreak c then ignore; return some .top
    if c == 35 then push .top; return some .commentStart
    if c == 91 then return some .tableStart
    if c == endChar then
      let t ← get
      if t.pos > t.start then faultHere "unexpected EOF"
      emit .eof
      return none
    backup
    push .topEnd
    return some .keyStart
  | .topEnd => do
    let c ← next
    if c == 35 then push .top; return some .commentStart
    if isBlank c then return some .topEnd
    if isBreak c then ignore; return some .top
    if c == endChar then emit .eof; return none
    faultHere ("expected a top-level item to end with a newline, comment, or EOF, but got " ++
      quoted c ++ " instead")
  | .tableStart => do
    if (← peek) == 91 then
      let _ ← next
      emit .arrayTableStart
      push .arrayTableEnd
    else
      emit .tableStart
      push .tableEnd
    return some .tableNameStart
  | .tableEnd => do
    emit .tableEnd
    return some .topEnd
  | .arrayTableEnd => do
    let c ← next
    if c != 93 then
      faultHere ("expected end of table array name delimiter ']', but got " ++ quoted c ++ " instead")
    emit .arrayTableEnd
    return some .topEnd
  | .tableNameStart => do
    skipWhile isBlank
    let c ← peek
    if c == 93 || c == endChar then
      faultHere "unexpected end of table name (table names cannot be empty)"
    if c == 46 then faultHere "unexpected table separator (table names cannot be empty)"
    if c == 34 || c == 39 then
      ignore
      push .tableNameEnd
      return some .quotedName
    push .tableNameEnd
    return some .bareName
  | .tableNameEnd => do
    skipWhile isBlank
    let c ← next
    if isBlank c then return some .tableNameEnd
    if c == 46 then ignore; return some .tableNameStart
    if c == 93 then return ← pop
    faultHere ("expected '.' or ']' to end table name, but got " ++ quoted c ++ " instead")
  | .bareName => do
    let c ← next
    if isBareChar c then return some .bareName
    backup
    emit .text
    pop
  | .quotedName => do
    let c ← next
    if isBlank c then ignore; return some .value
    if c == 34 then ignore; return some .basic
    if c == 39 then ignore; return some .literal
    if c == endChar then faultHere "unexpected EOF; expected value"
    faultHere ("expected value but found " ++ quoted c ++ " instead")
  | .keyStart => do
    skipWhile isBlank
    let c ← peek
    if c == 61 || c == endChar then faultHere "unexpected '=': key name appears blank"
    if c == 46 then faultHere "unexpected '.': keys cannot start with a '.'"
    if c == 34 || c == 39 then ignore
    emit .keyStart
    return some .keyNameStart
  | .keyNameStart => do
    skipWhile isBlank
    let c ← peek
    if c == 61 || c == endChar then faultHere "unexpected '='"
    if c == 46 then faultHere "unexpected '.'"
    if c == 34 || c == 39 then
      ignore
      push .keyEnd
      return some .quotedName
    push .keyEnd
    return some .bareName
  | .keyEnd => do
    skipWhile isBlank
    let c ← next
    if isBlank c then ignore; return some .keyEnd
    if c == endChar then faultHere "unexpected EOF; expected key separator '='"
    if c == 46 then ignore; return some .keyNameStart
    if c == 61 then
      emit .keyEnd
      ignore
      return some .value
    if c == 10 then faultBefore ("expected key separator '=', but got " ++ quoted c ++ " instead")
    else faultHere ("expected '.' or '=', but got " ++ quoted c ++ " instead")
  | .value => do
    let c ← next
    if isBlank c then ignore; return some .value
    if isDigit c then backup; return some .numberOrDateStart
    if c == 91 then ignore; emit .arrayStart; return some .arrayValue
    if c == 123 then ignore; emit .inlineStart; return some .inlineValue
    if c == 34 then
      if ← accept 34 then
        if ← accept 34 then ignore; return some .multiline
        backup
      ignore
      return some .basic
    if c == 39 then
      if ← accept 39 then
        if ← accept 39 then ignore; return some .multilineLiteral
        backup
      ignore
      return some .literal
    if c == 46 then faultHere "floats must start with a digit, not '.'"
    if c == 105 || c == 110 then
      let infinity ← do
        if ← accept 110 then accept 102 else pure false
      let special ← do
        if infinity then pure true
        else if ← accept 97 then accept 110
        else pure false
      if special then emit .float; return ← pop
    if c == 45 || c == 43 then return some .signedStart
    if Text.isLetter c then backup; return some .word
    if c == endChar then faultHere "unexpected EOF; expected value"
    let msg := "expected value but found " ++ quoted c ++ " instead"
    if c == 10 then faultBefore msg else faultHere msg
  | .arrayValue => do
    let c ← next
    if isBlank c || isBreak c then ignore; return some .arrayValue
    if c == 35 then push .arrayValue; return some .commentStart
    if c == 44 then faultHere "unexpected comma"
    if c == 93 then return some .arrayEnd
    backup
    push .arrayValueEnd
    return some .value
  | .arrayValueEnd => do
    let c ← next
    if isBlank c || isBreak c then ignore; return some .arrayValueEnd
    if c == 35 then push .arrayValueEnd; return some .commentStart
    if c == 44 then ignore; return some .arrayValue
    if c == 93 then return some .arrayEnd
    faultHere ("expected a comma (',') or array terminator (']'), but got " ++ quotedOrEnd c)
  | .arrayEnd => do
    ignore
    emit .arrayEnd
    pop
  | .inlineValue => do
    let c ← next
    if isBlank c then ignore; return some .inlineValue
    if isBreak c then faultBefore "newlines not allowed within inline tables"
    if c == 35 then push .inlineValue; return some .commentStart
    if c == 44 then faultHere "unexpected comma"
    if c == 125 then return some .inlineEnd
    backup
    push .inlineValueEnd
    return some .keyStart
  | .inlineValueEnd => do
    let c ← next
    if isBlank c then ignore; return some .inlineValueEnd
    if isBreak c then faultBefore "newlines not allowed within inline tables"
    if c == 35 then push .inlineValueEnd; return some .commentStart
    if c == 44 then
      ignore
      skipWhile isBlank
      if (← peek) == 125 then faultHere "trailing comma not allowed in inline tables"
      return some .inlineValue
    if c == 125 then return some .inlineEnd
    faultHere ("expected a comma or an inline table terminator '\x7d', but got " ++
      quotedOrEnd c ++ " instead")
  | .inlineEnd => do
    ignore
    emit .inlineEnd
    pop
  | .commentStart => do
    ignore
    emit .commentStart
    return some .comment
  | .comment => do
    let c ← next
    if isBreak c || c == endChar then
      backup
      emit .text
      pop
    else return some .comment
  | .basic => do
    let c ← next
    if c == endChar then faultHere "unexpected EOF; expected '\"'"
    if isBreak c then faultBefore "strings cannot contain newlines"
    if c == 92 then push .basic; return some .escape
    if c == 34 then
      backup
      if (← get).escaped then
        modify fun t => { t with escaped := false }
        emit .escaped
      else emit .basic
      let _ ← next
      ignore
      return ← pop
    return some .basic
  | .multiline => do
    let c ← next
    if c == endChar then faultHere "unexpected EOF; expected '\"\"\"'"
    if c == 92 then return some .multilineEscape
    if c == 34 then closingStep 34 .multiline .multiline
    else return some .multiline
  | .literal => do
    let c ← next
    if c == endChar then faultHere "unexpected EOF; expected \"'\""
    if isBreak c then faultBefore "strings cannot contain newlines"
    if c == 39 then
      backup
      emit .literal
      let _ ← next
      ignore
      return ← pop
    return some .literal
  | .multilineLiteral => do
    let c ← next
    if c == endChar then faultHere "unexpected EOF; expected \"'''\""
    if c == 39 then closingStep 39 .multilineLiteral .multilineLiteral
    else return some .multilineLiteral
  | .multilineEscape => do
    if isBreak (← next) then return some .multiline
    backup
    push .multiline
    escapeStep
  | .escape => escapeStep
  | .shortUnicode => unicodeStep 4 "u" "four"
  | .longUnicode => unicodeStep 8 "U" "eight"
  | .numberOrDateStart => do
    let c ← next
    if c == 48 then return some .zeroStart
    if !isDigit c then faultHere ("expected a digit but got " ++ quoted c)
    return some .numberOrDate
  | .numberOrDate => do
    let c ← next
    if isDigit c then return some .numberOrDate
    if c == 45 || c == 58 then return some .datetime
    if c == 95 then return some .decimal
    if c == 46 || c == 101 || c == 69 then return some .float
    backup
    emit .integer
    pop
  | .datetime => do
    let c ← next
    if isDigit c || c == 45 || c == 58 || c == 84 || c == 116 || c == 32 || c == 46 ||
        c == 90 || c == 122 || c == 43 then return some .datetime
    backup
    emitTrimmed .datetime
    pop
  | .hexDigits => do
    let c ← next
    if isHex c || c == 95 then return some .hexDigits
    backup
    emit .integer
    pop
  | .octalDigits => do
    let c ← next
    if isOctal c || c == 95 then return some .octalDigits
    backup
    emit .integer
    pop
  | .binaryDigits => do
    let c ← next
    if isBinary c || c == 95 then return some .binaryDigits
    backup
    emit .integer
    pop
  | .decimal => do
    let c ← next
    if isDigit c then return some .decimal
    if c == 46 || c == 101 || c == 69 then return some .float
    if c == 95 then return some .decimal
    backup
    emit .integer
    pop
  | .signedStart => do
    let c ← next
    if c == 105 || c == 110 then
      let (second, third) := if c == 105 then (110, 102) else (97, 110)
      let whole ← do
        if ← accept second then accept third else pure false
      if !whole then faultHere ("invalid float: '" ++ (← get).current ++ "'")
      emit .float
      return ← pop
    if c == 48 then
      let d ← peek
      if d == 98 || d == 111 || d == 120 then
        faultHere ("cannot use sign with non-decimal numbers: '" ++ (← get).current ++
          charText d ++ "'")
    if c == 46 then faultHere "floats must start with a digit, not '.'"
    if isDigit c then return some .decimal
    faultHere ("expected a digit but got " ++ quoted c)
  | .zeroStart => do
    let c ← next
    if isDigit c then return some .numberOrDate
    if c == 95 then return some .decimal
    if c == 46 || c == 101 || c == 69 then return some .float
    if c == 98 then
      let d ← peek
      if !isBinary d then
        faultHere ("not a binary number: '" ++ (← get).current ++ charText d ++ "'")
      return some .binaryDigits
    if c == 111 then
      let d ← peek
      if !isOctal d then
        faultHere ("not an octal number: '" ++ (← get).current ++ charText d ++ "'")
      return some .octalDigits
    if c == 120 then
      let d ← peek
      if !isHex d then
        faultHere ("not a hexadecimal number: '" ++ (← get).current ++ charText d ++ "'")
      return some .hexDigits
    backup
    emit .integer
    pop
  | .float => do
    let c ← next
    if isDigit c || c == 95 || c == 46 || c == 45 || c == 43 || c == 101 || c == 69 then
      return some .float
    backup
    emit .float
    pop
  | .word => wordStep

/-- Runs the tokenizer from a mode for at most `fuel` steps. -/
def runModes : Nat → Mode → Tokenize Unit
  | 0, _ => pure ()
  | fuel + 1, m => do
    match ← step m with
    | none => pure ()
    | some m' => runModes fuel m'

/-- The tokens of a document, and the fault that ended the reading early, if one did. Every
step either reads a character or leads within a few steps to one that does, so the fuel never
runs out. -/
def tokens (input : Array UInt8) : Array Token × Option Fault :=
  let (r, t) := (runModes (16 * (input.size + 4)) .top).run.run { input }
  match r with
  | .ok () => (t.tokens, none)
  | .error f => (t.tokens, some f)

end WordSift.Toml
