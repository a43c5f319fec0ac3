import WordSift.WordList.Index
import WordSift.Text.Normalize

/-!
# Word lists

A word list holds the word lines exactly as they were read, their normal forms split into the
words that can be stored (made of `a` to `z` only, not empty) and the refused ones, the pattern
line, and an index of the stored words.
-/

namespace WordSift

/-- Word lines with their normal forms, a pattern and an index. -/
structure WordList where
  /-- The word lines as read. -/
  raw : List Bytes := []
  /-- The normal forms that can be stored, in order. -/
  words : List Bytes := []
  /-- The normal forms that cannot, in order. -/
  rejected : List Bytes := []
  /-- The pattern line, verbatim. -/
  pattern : Bytes := []
  index : Index := {}
deriving Repr

namespace WordList

/-- Adds one word line. -/
def add (l : WordList) (line : Bytes) : WordList :=
  let w := Text.normalizeWord line
  if Bytes.isWord w then
    { l with raw := l.raw ++ [line], words := l.words ++ [w], index := l.index.add w }
  else
    { l with raw := l.raw ++ [line], rejected := l.rejected ++ [w], index := l.index.reject }

/-- The word list of some word lines and a pattern. -/
def ofLines (lines : List Bytes) (pattern : Bytes) : WordList :=
  lines.foldl add { pattern := pattern }

end WordList

end WordSift
