import WordSift.Text.Utf8
import WordSift.Text.Blank
import WordSift.Text.Lowercase

/-!
# Normal form of a word

A word is brought to normal form by reading it as UTF-8 (a stray byte counts as U+FFFD),
dropping every blank character, inside the word as well as around it, and lowering every
character by the simple lowercase mapping. `trimBlank` drops the blank characters at both ends
only and keeps the bytes in between as they were. `lowerText` lowers every character and keeps
the blanks.
-/

namespace WordSift.Text

/-- The normal form of a word. -/
def normalizeWord (s : Bytes) : Bytes :=
  encodeAll (((repair s).filter fun c => !isBlank c).map toLower)

/-- Every character lowered by the simple lowercase mapping; a stray byte becomes U+FFFD. -/
def lowerText (s : Bytes) : Bytes := encodeAll ((repair s).map toLower)

/-- The bytes a piece was read from. -/
def Piece.bytes : Piece → Bytes
  | .scalar c => encode c
  | .stray b => [b]

/-- The piece is a blank character. -/
def Piece.isBlank : Piece → Bool
  | .scalar c => Text.isBlank c
  | .stray _ => false

/-- Drops the blank characters at both ends. -/
def trimBlank (s : Bytes) : Bytes :=
  (((decode s).dropWhile Piece.isBlank).reverse.dropWhile Piece.isBlank).reverse.flatMap Piece.bytes

end WordSift.Text
