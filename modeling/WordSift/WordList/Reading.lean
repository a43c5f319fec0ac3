import WordSift.WordList.Basic
import WordSift.Text.Feed
import WordSift.Text.Quoted
import WordSift.Numeral

/-!
# Reading a word list

A word list is read from a feed as a header line with the number `n` of words, then `n` word
lines, then the pattern line; a missing pattern line gives the empty pattern. The header is
read as a decimal numeral after the blank characters at both its ends are dropped; it must not
be negative. A read failure anywhere is reported at once, before any other fault.
-/

namespace WordSift

/-- Why a word list cannot be read. -/
inductive ReadError where
  /-- The reader failed with this message. -/
  | unavailable (cause : Bytes)
  /-- There is no header line. -/
  | emptyInput
  /-- The header line is no count. -/
  | badCount (header : Bytes)
  /-- The input ends after `found` of the `expected` word lines. -/
  | short (expected found : Nat)
deriving DecidableEq, Repr

/-- The message of a reading fault. -/
def ReadError.message : ReadError → Bytes
  | .unavailable c => Bytes.ofString "input unavailable: " ++ c
  | .emptyInput => Bytes.ofString "first line must be a non-negative word count: empty input"
  | .badCount h =>
    Bytes.ofString ("first line must be a non-negative word count: got " ++ Text.quote h)
  | .short e f => Bytes.ofString
    ("input ends before all words were read: expected " ++ toString e ++ " words, found " ++
      toString f)

namespace WordList

/-- The count a header line announces. -/
def headerCount? (header : Bytes) : Option Nat :=
  match Numeral.decimal? (Text.trimBlank header) with
  | some n => if 0 ≤ n then some n.toNat else none
  | none => none

/-- Reads `n` word lines from the reads `rs`, of which `found` lines were read before; the
reads after the list all find `after`. Gives the lines and the reads left. -/
def gather (expected : Nat) (after : Text.Read) :
    (n found : Nat) → List Text.Read → Except ReadError (List Bytes × List Text.Read)
  | 0, _, rs => .ok ([], rs)
  | n + 1, found, rs =>
    match rs.headD after with
    | .line l => do
      let (ls, rest) ← gather expected after n (found + 1) rs.tail
      return (l :: ls, rest)
    | .done => .error (.short expected found)
    | .broken e => .error (.unavailable e)

/-- Reads a word list from a feed. -/
def read (f : Text.Feed) : Except ReadError WordList := do
  let (header, rs) ← match f.reads with
    | [] => .error .emptyInput
    | r :: rs => match r with
      | .line h => pure (h, rs)
      | .done => .error .emptyInput
      | .broken e => .error (.unavailable e)
  let some n := headerCount? header | .error (.badCount header)
  let (lines, rest) ← gather n f.after n 0 rs
  let pattern ← match rest.headD f.after with
    | .line p => pure p
    | .done => pure []
    | .broken e => .error (.unavailable e)
  return ofLines lines pattern

end WordList

end WordSift
