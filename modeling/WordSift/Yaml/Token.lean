/-!
# YAML tokens, positions and faults

A YAML stream is read in three steps: its characters are split into tokens, the tokens are
fitted into events (the start and end of documents and collections, scalars and aliases), and
the events are built into nodes. This file holds what the steps share: positions in the text,
the tokens, and the faults each step may report.

A fault names the line of its context when that is not the first line, else the line of the
problem itself when that is not the first line, and no line otherwise. Lines are counted from 1
for a fault found while splitting tokens and from 0 for one found while fitting them together,
so the two kinds may name different lines for the same place.
-/

namespace WordSift.Yaml

/-- A position in the text: the character index, and the line and column, all from 0. -/
structure Mark where
  index : Nat := 0
  line : Nat := 0
  column : Nat := 0
deriving Repr, Inhabited, DecidableEq

/-- How a scalar was written. -/
inductive ScalarStyle where
  | plain
  | singleQuoted
  | doubleQuoted
  | literal
  | folded
deriving Repr, Inhabited, DecidableEq

/-- The kinds of tokens, with what they carry. -/
inductive TokenKind where
  | streamStart
  | streamEnd
  | versionDirective (major minor : Nat)
  | tagDirective (handle pfx : String)
  | documentStart
  | documentEnd
  | blockSequenceStart
  | blockMappingStart
  | blockEnd
  | flowSequenceStart
  | flowSequenceEnd
  | flowMappingStart
  | flowMappingEnd
  | blockEntry
  | flowEntry
  | key
  | value
  | alias (name : String)
  | anchor (name : String)
  | tag (handle suffix : String)
  | scalar (text : String) (style : ScalarStyle)
deriving Repr, Inhabited, DecidableEq

/-- A token with the positions where it starts and ends. -/
structure Token where
  kind : TokenKind
  start : Mark
  stop : Mark
deriving Repr, Inhabited

/-- The step that found a fault. -/
inductive Stage where
  /-- Decoding the bytes into characters. -/
  | reader
  /-- Splitting the text into tokens. -/
  | scanner
  /-- Fitting tokens together, or building nodes. -/
  | parser
deriving Repr, DecidableEq

/-- A fault: the step that found it, the position of its context and of the problem, and what
is wrong. A fault without a context has the start of the text as its context. -/
structure Fault where
  stage : Stage
  context : Mark := {}
  problem : Mark := {}
  message : String
deriving Repr

/-- The line a fault names, if any. -/
def Fault.line? (f : Fault) : Option Nat :=
  let shift := if f.stage == .scanner then 1 else 0
  if f.context.line != 0 then some (f.context.line + shift)
  else if f.problem.line != 0 then some (f.problem.line + shift)
  else none

/-- The text of a fault. -/
def Fault.render (f : Fault) : String :=
  "yaml: " ++ (match f.line? with
    | some n => "line " ++ toString n ++ ": "
    | none => "") ++ f.message

end WordSift.Yaml
