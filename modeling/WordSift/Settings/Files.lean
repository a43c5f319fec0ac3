import WordSift.Settings.FromYaml
import WordSift.Settings.ToYaml
import WordSift.Settings.ToToml
import WordSift.Settings.Format
import WordSift.Files.System

/-!
# Settings files

Settings are kept in a file whose format its extension tells. A YAML file is laid over the
defaults, and any fault is an error. A TOML file is laid over the defaults strictly; when a value
has the wrong kind the well-kinded values alone are kept, and a file that cannot be read or
parsed gives the defaults. `loadPreferred` takes a given file when it exists and loads, and else
the file in the settings directory, which it creates with the defaults when missing. The
settings directory is the first writable of `~/.config/wordmatch` and
`~/Library/Application Support/wordmatch`, and else the program's directory.
-/

namespace WordSift.Settings

open Files FileSystem

/-- Settings with every number zero, every flag off and every path empty. -/
def zero : Settings :=
  { matching := { compare := 0, fold := false, prune := false }
    io := { input := [], output := [] }
    server := { maxWords := 0, maxPatternLen := 0, maxWordLen := 0 } }

/-- Settings from a TOML text: laid over the defaults strictly, else the well-kinded values,
else the defaults. -/
def ofToml (text : Bytes) : Settings :=
  match Toml.parse text with
  | .ok d =>
    match strict defaults d with
    | .ok s => s
    | .error _ => lenient defaults d.root
  | .error _ => defaults

/-- Settings from a text of a format. -/
def ofText : Format → Bytes → Except Bytes Settings
  | .yaml, text => ofYaml defaults text
  | .toml, text => .ok (ofToml text)

/-- The text of settings in a format. -/
def render : Format → Settings → Bytes
  | .yaml, s => toYaml s
  | .toml, s => toToml s

variable {m : Type → Type} [Monad m] [FileSystem m]

/-- Loads settings from a file; only a YAML file can fail. -/
def load (path : Bytes) : m (Except Bytes Settings) := do
  let fmt := Format.ofPath path
  match ← readFile path with
  | .ok text => return ofText fmt text
  | .error e =>
    match fmt with
    | .yaml => return .error e.message
    | .toml => return .ok defaults

/-- Saves settings to a file in the format its path tells. -/
def save (s : Settings) (path : Bytes) : m (Except Failure Unit) :=
  writeFile path (render (Format.ofPath path) s)

/-- Loads settings from a file, creating it with the defaults when missing; any failure gives
the defaults. -/
def init (path : Bytes) : m Settings := do
  match ← makeDirs (Path.dir path) with
  | .error _ => return defaults
  | .ok () =>
    if !(← fileExists path) then
      let _ ← save defaults path
      return defaults
    else
      match ← load path with
      | .ok s => return s
      | .error _ => return defaults

/-- The directory that holds the settings file. -/
def directory : m (Except String Bytes) := do
  match ← home with
  | none => programDir
  | some h =>
    let primary := Path.join [h, Bytes.ofString ".config", Bytes.ofString "wordmatch"]
    if (← checkDir primary).writable then return .ok primary
    else
      let second := Path.join [h, Bytes.ofString "Library",
        Bytes.ofString "Application Support", Bytes.ofString "wordmatch"]
      if (← checkDir second).writable then return .ok second
      else programDir

/-- The path of the settings file in the settings directory. -/
def defaultPath : m (Except String Bytes) := do
  return (← directory).map fun d => Path.join [d, Bytes.ofString "config.toml"]

/-- The settings to run with, and the file they came from (empty for the built-in defaults):
the given file when it exists and loads, else the settings directory's file. -/
def loadPreferred (custom : Bytes) : m (Settings × Bytes) := do
  let given ← if custom.isEmpty then pure none else do
    if ← fileExists custom then
      match ← load custom with
      | .ok s => pure (some s)
      | .error _ => pure none
    else pure none
  match given with
  | some s => return (s, custom)
  | none =>
    match ← defaultPath with
    | .error _ => return (defaults, [])
    | .ok p => return (← init p, p)

/-- Lays a TOML file strictly over the zero settings. -/
def loadTomlStrict (path : Bytes) : m (Except Bytes Settings) := do
  match ← readFile path with
  | .error e => return .error e.message
  | .ok text =>
    match Toml.parse text with
    | .error e => return .error (Bytes.ofString e)
    | .ok d => return (strict zero d).mapError Bytes.ofString

/-- The tables of a TOML file. -/
def tomlTables (path : Bytes) : m (Except Bytes Toml.Table) := do
  match ← readFile path with
  | .error e => return .error e.message
  | .ok text => return ((Toml.parse text).map (·.root)).mapError Bytes.ofString

end WordSift.Settings
