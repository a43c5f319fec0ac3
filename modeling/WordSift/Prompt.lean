import WordSift.Selector
import WordSift.WordList.Index
import WordSift.Text.Feed
import WordSift.Numeral
import WordSift.Log

/-!
# The interactive prompt

The prompt greets with the number of words loaded, then before each read of a line prints
`> `. A line, trimmed of blanks, that is empty does nothing; `quit` and `exit` end the session;
`:stats` prints the statistics of the word list, when there is one. Any other line is a
pattern, taken as it is: one longer than the limit is refused, one that does not compile
gives its error, one that matches nothing is warned about, and otherwise the matched words are
listed, numbered, with their longest common subsequence or the notice that there is none.

The session ends at the end of the input, after the last line (ended by a line feed or not);
a read failure ends it at once with the failure.
-/

namespace WordSift

/-- A prompt session: the words, their statistics when known, the longest pattern allowed and
how many patterns were asked. -/
structure Prompt where
  selector : Selector
  index : Option Index
  maxPatternLen : Int
  asked : Nat := 0

/-- What a line asks for. -/
inductive Command where
  | nothing
  | quit
  | stats
  | pattern (text : Bytes)
deriving DecidableEq, Repr

/-- What a line asks for: commands are recognised after trimming blanks, patterns are taken as
they are. -/
def Command.ofLine (line : Bytes) : Command :=
  let t := Text.trimBlank line
  if t.isEmpty then .nothing
  else if t == Bytes.ofString "quit" || t == Bytes.ofString "exit" then .quit
  else if t == Bytes.ofString ":stats" then .stats
  else .pattern line

namespace Prompt

/-- The text printed before the first read. -/
def greeting (p : Prompt) : Bytes :=
  logLine none (Bytes.ofString "WordMatch CLI") ++
  logLine none (Bytes.ofString (Numeral.grouped p.selector.size ++
    " words loaded, type a pattern and press Enter ('quit' to exit, ':stats' for word stats):"))

/-- The text printed before each read. -/
def cue : Bytes := logLine none (Bytes.ofString "> ")

/-- A number right-aligned in two columns. -/
def twoColumns (n : Nat) : String :=
  let s := toString n
  if s.length < 2 then " " ++ s else s

/-- The text for a pattern longer than the limit. -/
def tooLong (expr : Bytes) : Bytes :=
  logLine (some .error) (Bytes.ofString "Pattern too long: " ++ Bytes.shorten expr 40)

/-- The text for the outcome of matching a pattern: its compile error, the warning that nothing
matched, or the matched words, numbered, with their longest common subsequence or the notice
that there is none. -/
def report (expr : Bytes) : Except Pattern.SyntaxError Outcome → Bytes
  | .error e => logLine (some .error) (Bytes.ofString e.message)
  | .ok o =>
    if o.status == .noMatch then
      logLine (some .warn) (Bytes.ofString "No matches for pattern: '" ++ expr ++ [39])
    else
      let head := logLine none (Bytes.ofString ("Found " ++ toString o.matched.length ++
        " matches for pattern '") ++ expr ++ Bytes.ofString "':")
      let rows := ((List.range o.matched.length).zip o.matched).flatMap fun (i, w) =>
        logLine none (Bytes.ofString (twoColumns (i + 1) ++ ". ") ++ w)
      let last := if o.status == .ok then Bytes.ofString "LCS: " ++ o.lcs else o.output
      head ++ rows ++ logLine none last

/-- The text for a pattern line, and the session after it: the line is counted, then refused when
it is too long, and otherwise matched as it is. -/
def ask (p : Prompt) (expr : Bytes) : Prompt × Bytes :=
  let p := { p with asked := p.asked + 1 }
  if (expr.length : Int) > p.maxPatternLen then (p, tooLong expr)
  else (p, report expr (p.selector.select expr))

/-- The statistics line. -/
def stats (p : Prompt) : Bytes :=
  match p.index with
  | none => logLine (some .warn) (Bytes.ofString "No word stats available")
  | some ix =>
    let st := ix.stats
    logLine none (Bytes.ofString "Word stats")
      [("total", Numeral.grouped st.total), ("unique", Numeral.grouped st.unique),
        ("duplicates", Numeral.grouped st.duplicates), ("rejected", Numeral.grouped st.rejected),
        ("patterns", toString p.asked)]

/-- Answers one line: the session after it, the text printed and whether the session ends. -/
def answer (p : Prompt) (line : Bytes) : Prompt × Bytes × Bool :=
  match Command.ofLine line with
  | .nothing => (p, [], false)
  | .quit => (p, [], true)
  | .stats => (p, p.stats, false)
  | .pattern e => let (p, out) := p.ask e; (p, out, false)

/-- Runs the session over the reads of a feed from the `k`-th on, for at most `fuel` reads:
the text printed and the failure that ended it. -/
def loop (f : Text.Feed) : Nat → Nat → Prompt → Bytes × Option Bytes
  | 0, _, _ => ([], none)
  | fuel + 1, k, p =>
    match f.read k with
    | .broken e => (cue, some e)
    | .done => (cue, none)
    | .line l =>
      let (p', out, stop) := p.answer l
      if stop || k ≥ f.lines.length then (cue ++ out, none)
      else let (rest, e) := loop f fuel (k + 1) p'; (cue ++ out ++ rest, e)

/-- Runs a whole session on a feed: everything printed, and the read failure that ended it. -/
def run (p : Prompt) (f : Text.Feed) : Bytes × Option Bytes :=
  let (out, e) := loop f (f.lines.length + 1) 0 p
  (p.greeting ++ out, e)

end Prompt

end WordSift
