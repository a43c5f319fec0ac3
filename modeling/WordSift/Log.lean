import WordSift.Text.Normalize
import WordSift.Text.Quoted

/-!
# Log lines

A log line is its level's four-letter label (none for a plain print), the message with every
tab widened to four spaces, and `key=value` fields, joined by single spaces and ended by a line
feed; an empty message is left out. A logger has a prefix and the least level it writes.
Level names are read without regard to case.
-/

namespace WordSift

/-- How severe a log entry is, from the least. -/
inductive Level where
  | debug
  | info
  | warn
  | error
  | fatal
deriving DecidableEq, Repr

/-- The name of a level. -/
def Level.name : Level → String
  | .debug => "debug"
  | .info => "info"
  | .warn => "warn"
  | .error => "error"
  | .fatal => "fatal"

/-- The label a line of a level starts with. -/
def Level.label : Level → String
  | .debug => "DEBU"
  | .info => "INFO"
  | .warn => "WARN"
  | .error => "ERRO"
  | .fatal => "FATA"

/-- All levels, from the least. -/
def Level.all : List Level := [.debug, .info, .warn, .error, .fatal]

/-- Reads a level name in any case. -/
def Level.parse (s : Bytes) : Except String Level :=
  let lowered := Text.lossy (Text.lowerText s)
  match Level.all.find? (·.name == lowered) with
  | some l => .ok l
  | none => .error ("invalid level: " ++ Text.quote s)

/-- A logger: its prefix and the least level it writes. -/
structure Logger where
  pfx : Bytes
  level : Level
deriving DecidableEq, Repr

/-- A logger at the level runs start with, warnings and above. -/
def Logger.standard (pfx : Bytes) : Logger := ⟨pfx, .warn⟩

/-- A logger that writes nothing below fatal and has no prefix. -/
def Logger.discard : Logger := ⟨[], .fatal⟩

/-- The byte `\t` widened to four spaces. -/
def widenTabs (s : Bytes) : Bytes := s.flatMap fun b => if b == 9 then [32, 32, 32, 32] else [b]

/-- A log line: the level's label, the message and the fields. -/
def logLine (level : Option Level) (msg : Bytes) (fields : List (String × String) := []) : Bytes :=
  let parts : List Bytes :=
    (level.map fun l => Bytes.ofString l.label).toList ++
    (if msg.isEmpty then [] else [widenTabs msg]) ++
    fields.map fun (k, v) => Bytes.ofString (k ++ "=" ++ v)
  [32].intercalate parts ++ [10]

end WordSift
