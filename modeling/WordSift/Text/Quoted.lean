import WordSift.Text.Utf8
import WordSift.Text.Printable

/-!
# Quoted literals

A byte string written between double quotes so that every byte can be read back (or a single
character between single quotes). The quote and the backslash are escaped with a backslash; printable characters stand as themselves; the seven
controls that have a letter escape use it (`\a \b \f \n \r \t \v`); the other ASCII controls,
DEL and every stray byte are written `\xNN`; the remaining characters are written `\uNNNN`, or
`\UNNNNNNNN` above U+FFFF. Hexadecimal digits are lowercase.
-/

namespace WordSift.Text

open WordSift.Bytes (hexPadded)

/-- The escape of one scalar value inside a literal quoted by `q`. -/
def escapeScalar (q : Nat) (c : Nat) : String :=
  if c = q then "\\" ++ String.singleton (Char.ofNat q)
  else if c = 92 then "\\\\"
  else if isPrintable c then String.singleton (Char.ofNat c)
  else match c with
    | 7 => "\\a"
    | 8 => "\\b"
    | 12 => "\\f"
    | 10 => "\\n"
    | 13 => "\\r"
    | 9 => "\\t"
    | 11 => "\\v"
    | _ =>
      if c < 0x20 ∨ c = 0x7F then "\\x" ++ hexPadded 2 c
      else if c < 0x10000 then "\\u" ++ hexPadded 4 c
      else "\\U" ++ hexPadded 8 c

/-- The escape of one piece: a stray byte is written in hexadecimal. -/
def Piece.escape (q : Nat) : Piece → String
  | .scalar c => escapeScalar q c
  | .stray b => "\\x" ++ hexPadded 2 b.toNat

/-- The double-quoted literal of a byte string. -/
def quote (s : Bytes) : String :=
  "\"" ++ String.join ((decode s).map (Piece.escape 34)) ++ "\""

/-- The single-quoted literal of one character. -/
def quoteChar (c : Char) : String :=
  "'" ++ escapeScalar 39 c.toNat ++ "'"

end WordSift.Text
