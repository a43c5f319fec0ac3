import WordSift.Bytes

/-!
# Settings

The settings of a run: how many matching words are compared and how patterns match, where
the word list is read and the result written, and the limits of the request server. `check`
lists every value out of range, in a fixed order, and `Problem.report` writes the list as one
message: a single problem as its own text, several as numbered blocks.
-/

namespace WordSift

/-- Settings of matching. -/
structure MatchSettings where
  /-- How many matching words are compared, 1 to 3. -/
  compare : Int := 3
  /-- Patterns fold ASCII case. -/
  fold : Bool := true
  /-- Walks stop once enough words matched. -/
  prune : Bool := false
deriving DecidableEq, Repr

/-- Where the word list is read and the result written. -/
structure IoSettings where
  input : Bytes := Bytes.ofString "input.txt"
  output : Bytes := Bytes.ofString "output.txt"
deriving DecidableEq, Repr

/-- Limits of the request server. -/
structure ServerSettings where
  /-- The most words a request may carry. -/
  maxWords : Int := 10000
  /-- The longest pattern, in bytes. -/
  maxPatternLen : Int := 256
  /-- The longest word, in bytes. -/
  maxWordLen : Int := 64
deriving DecidableEq, Repr

/-- All settings of a run. -/
structure Settings where
  matching : MatchSettings := {}
  io : IoSettings := {}
  server : ServerSettings := {}
deriving DecidableEq, Repr

/-- A value out of range. -/
inductive Settings.Problem where
  | compareOutOfRange (n : Int)
  | inputEmpty
  | outputEmpty
  | maxWordsNotPositive (n : Int)
  | maxPatternLenNotPositive (n : Int)
  | maxWordLenNotPositive (n : Int)
deriving DecidableEq, Repr

namespace Settings

/-- The settings used when nothing else is given. -/
def defaults : Settings := {}

/-- The text of one problem. -/
def Problem.message : Problem → String
  | .compareOutOfRange n =>
    "invalid config: match.max_compare_words must be between 1 and 3, got " ++ toString n
  | .inputEmpty => "invalid config: io.input is empty"
  | .outputEmpty => "invalid config: io.output is empty"
  | .maxWordsNotPositive n => "invalid config: server.max_words must be positive, got " ++ toString n
  | .maxPatternLenNotPositive n =>
    "invalid config: server.max_pattern_len must be positive, got " ++ toString n
  | .maxWordLenNotPositive n =>
    "invalid config: server.max_word_len must be positive, got " ++ toString n

/-- Every value out of range, in a fixed order. -/
def check (s : Settings) : List Problem :=
  (if s.matching.compare < 1 ∨ 3 < s.matching.compare then [.compareOutOfRange s.matching.compare]
    else []) ++
  (if s.io.input.isEmpty then [.inputEmpty] else []) ++
  (if s.io.output.isEmpty then [.outputEmpty] else []) ++
  (if s.server.maxWords < 1 then [.maxWordsNotPositive s.server.maxWords] else []) ++
  (if s.server.maxPatternLen < 1 then [.maxPatternLenNotPositive s.server.maxPatternLen]
    else []) ++
  (if s.server.maxWordLen < 1 then [.maxWordLenNotPositive s.server.maxWordLen] else [])

/-- One message for a list of problems: a single problem is its own text; several are
numbered blocks `  --- i of n errors` each followed by the indented text. -/
def Problem.report : List Problem → String
  | [p] => p.message
  | ps =>
    let n := ps.length
    let blocks := (List.range n).zip ps |>.map fun (i, p) =>
      "  --- " ++ toString (i + 1) ++ " of " ++ toString n ++ " errors\n  " ++ p.message
    "\n".intercalate blocks

end Settings

end WordSift
