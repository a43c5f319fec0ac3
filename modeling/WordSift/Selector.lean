import WordSift.Pattern.Basic
import WordSift.Trie.Walk
import WordSift.Lcs

/-!
# Selecting words and reducing them to a common subsequence

A selector owns a trie of words and three settings: how many matching words it keeps and
compares (1 to 3; any other request means 3), whether the walk is pruned, and whether patterns
fold ASCII case. Selecting with a pattern text compiles it, collects the first matching words in
increasing order, and reduces them to a longest common subsequence. With pruning the walk only
enters the subtree under the pattern's literal prefix and stops once enough words are kept.

The outcome's status is `noMatch` when no word matched, `noCommon` when the kept words share no
byte, and `ok` otherwise; its output text is the subsequence or a notice.
-/

namespace WordSift

/-- How a selection ended. -/
inductive Status where
  | ok
  | noMatch
  | noCommon
deriving DecidableEq, Repr

namespace Status

/-- The number of a status. -/
def code : Status → Int
  | .ok => 0
  | .noMatch => 1
  | .noCommon => 2

/-- The name of a status. -/
def name : Status → String
  | .ok => "ok"
  | .noMatch => "no_match"
  | .noCommon => "no_common"

/-- The status with a number, if any. -/
def ofCode? (n : Int) : Option Status :=
  [Status.ok, .noMatch, .noCommon].find? (·.code == n)

/-- The name of a status number; a number that is no status is written `Status(n)`. -/
def describe (n : Int) : String :=
  match ofCode? n with
  | some s => s.name
  | none => "Status(" ++ toString n ++ ")"

end Status

/-- The notice written when no word matched. -/
def noMatchNotice : String := "no matching words for the given pattern"

/-- The notice written when the kept words share no byte. -/
def noCommonNotice : String := "no common subsequence exists among the top matches"

/-- The result of selecting with one pattern. -/
structure Outcome where
  /-- The pattern text as given. -/
  pattern : Bytes
  /-- The kept words, in increasing order. -/
  matched : List Bytes
  /-- A longest common subsequence of the kept words, empty when none matched. -/
  lcs : Bytes
  status : Status
  /-- The subsequence, or the notice of the status. -/
  output : Bytes
  /-- How much of the trie the walk touched. -/
  tally : Trie.Tally
deriving Repr

/-- A trie of words with the settings of selection. -/
structure Selector where
  trie : Trie
  /-- How many matching words are kept and compared, 1 to 3. -/
  compare : Nat
  prune : Bool
  fold : Bool

namespace Selector

/-- An empty selector. A request outside 1 to 3 words to compare means 3. -/
def new (compare : Int := 3) (prune : Bool := false) (fold : Bool := true) : Selector :=
  ⟨Trie.empty, Lcs.clampLimit compare, prune, fold⟩

/-- Stores the words one by one; gives how many were refused. -/
def load (s : Selector) (ws : List Bytes) : Selector × Nat :=
  ws.foldl (fun (acc : Selector × Nat) w =>
    match acc.1.trie.insert w with
    | .ok t => ({ acc.1 with trie := t }, acc.2)
    | .error _ => (acc.1, acc.2 + 1)) (s, 0)

/-- The number of distinct stored words. -/
def size (s : Selector) : Nat := s.trie.wordCount

/-- The outcome for the kept words. -/
def conclude (expr : Bytes) (ms : List Bytes) (compare : Nat) (tally : Trie.Tally) : Outcome :=
  match ms with
  | [] => ⟨expr, [], [], .noMatch, Bytes.ofString noMatchNotice, tally⟩
  | _ =>
    let l := Lcs.ofFirst ms compare
    if l.isEmpty then ⟨expr, ms, l, .noCommon, Bytes.ofString noCommonNotice, tally⟩
    else ⟨expr, ms, l, .ok, l, tally⟩

/-- Selects with a pattern text. -/
def select (s : Selector) (expr : Bytes) : Except Pattern.SyntaxError Outcome := do
  let p ← Pattern.compile expr s.fold
  let pre := if s.prune then p.literalPrefix else []
  let (ms, tally) := s.trie.collect p.admits s.compare s.prune pre
  return conclude expr ms s.compare tally

end Selector

end WordSift
