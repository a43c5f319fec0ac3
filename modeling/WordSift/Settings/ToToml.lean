import WordSift.Settings.Basic

/-!
# Settings as a TOML document

Each section is written as a table header followed by its keys, indented by two spaces, and
the sections are separated by a blank line. Strings are written between double quotes with the
quote, the backslash and the control characters escaped: `\b \t \n \f \r` by their letters and
the others as `\uNNNN`; all other bytes are written as they are.
-/

namespace WordSift.Settings

/-- The escape of one byte inside a double-quoted TOML string. -/
def tomlEscape (b : UInt8) : Bytes :=
  match b.toNat with
  | 34 => Bytes.ofString "\\\""
  | 92 => Bytes.ofString "\\\\"
  | 8 => Bytes.ofString "\\b"
  | 9 => Bytes.ofString "\\t"
  | 10 => Bytes.ofString "\\n"
  | 12 => Bytes.ofString "\\f"
  | 13 => Bytes.ofString "\\r"
  | n => if n < 0x20 ∨ n = 0x7F then Bytes.ofString ("\\u" ++ Bytes.hexPadded 4 n) else [b]

/-- A double-quoted TOML string. -/
def tomlString (s : Bytes) : Bytes := [34] ++ s.flatMap tomlEscape ++ [34]

/-- The settings as a TOML document. -/
def toToml (s : Settings) : Bytes :=
  let line := fun (k : String) (v : Bytes) => Bytes.ofString ("  " ++ k ++ " = ") ++ v ++ [10]
  let num := fun (n : Int) => Bytes.ofString (toString n)
  let flag := fun (b : Bool) => Bytes.ofString (if b then "true" else "false")
  Bytes.ofString "[match]\n" ++
    line "max_compare_words" (num s.matching.compare) ++
    line "case_insensitive" (flag s.matching.fold) ++
    line "prune_traversal" (flag s.matching.prune) ++
  Bytes.ofString "\n[io]\n" ++
    line "input" (tomlString s.io.input) ++
    line "output" (tomlString s.io.output) ++
  Bytes.ofString "\n[server]\n" ++
    line "max_words" (num s.server.maxWords) ++
    line "max_pattern_len" (num s.server.maxPatternLen) ++
    line "max_word_len" (num s.server.maxWordLen)

end WordSift.Settings
