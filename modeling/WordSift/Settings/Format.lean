import WordSift.Files.Path
import WordSift.Text.Normalize

/-!
# Settings file formats

A settings file is written in YAML when the extension of its path, lowered, is `.yaml` or
`.yml`, and in TOML otherwise.
-/

namespace WordSift.Settings

/-- The two formats of a settings file. -/
inductive Format where
  | toml
  | yaml
deriving DecidableEq, Repr

/-- The path names a YAML file. -/
def isYaml (path : Bytes) : Bool :=
  let e := Text.lowerText (Path.ext path)
  e == Bytes.ofString ".yaml" || e == Bytes.ofString ".yml"

/-- The format of a settings file, by the extension of its path. -/
def Format.ofPath (path : Bytes) : Format := if isYaml path then .yaml else .toml

end WordSift.Settings
