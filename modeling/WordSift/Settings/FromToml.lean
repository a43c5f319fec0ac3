import WordSift.Settings.Basic
import WordSift.Toml.Document
import WordSift.Text.Normalize

/-!
# Settings from a TOML document

There are two ways to take settings from a document. `strict` lays every key of the tables
`match`, `io` and `server` over given settings, matching key names exactly or else up to case,
ignoring unknown keys, and fails at the first value of the wrong kind. Up to case means up to
simple case folding, under which only the Kelvin sign and the long s join the ASCII letters.
`lenient` starts from the given settings and keeps only the values of the right kind (integer,
boolean or string) of those three tables, under their exact names.
-/

namespace WordSift.Settings

open Toml

/-- A field of the settings, and what it takes. -/
inductive Field where
  | compare | fold | prune | input | output | maxWords | maxPatternLen | maxWordLen
deriving DecidableEq, Repr

/-- The sections of the settings. -/
inductive Section where
  | matching | io | server
deriving DecidableEq, Repr

/-- The name of a section in a document. -/
def Section.name : Section → String
  | .matching => "match"
  | .io => "io"
  | .server => "server"

/-- The name of a section's type in messages. -/
def Section.typeName : Section → String
  | .matching => "config.MatchConfig"
  | .io => "config.IOConfig"
  | .server => "config.ServerConfig"

/-- The fields of a section, with their names in a document. -/
def Section.fields : Section → List (String × Field)
  | .matching => [("max_compare_words", .compare), ("case_insensitive", .fold),
      ("prune_traversal", .prune)]
  | .io => [("input", .input), ("output", .output)]
  | .server => [("max_words", .maxWords), ("max_pattern_len", .maxPatternLen),
      ("max_word_len", .maxWordLen)]

/-- All sections, in order. -/
def Section.all : List Section := [.matching, .io, .server]

/-- The kind of value a field takes. -/
inductive Kind where
  | integer | boolean | string
deriving DecidableEq, Repr

/-- The kind of a field. -/
def Field.kind : Field → Kind
  | .compare | .maxWords | .maxPatternLen | .maxWordLen => .integer
  | .fold | .prune => .boolean
  | .input | .output => .string

/-- The name of a kind in messages. -/
def Kind.name : Kind → String
  | .integer => "integer"
  | .boolean => "boolean"
  | .string => "string"

/-- Sets an integer field. -/
def setInt (s : Settings) (f : Field) (n : Int) : Settings :=
  match f with
  | .compare => { s with matching := { s.matching with compare := n } }
  | .maxWords => { s with server := { s.server with maxWords := n } }
  | .maxPatternLen => { s with server := { s.server with maxPatternLen := n } }
  | .maxWordLen => { s with server := { s.server with maxWordLen := n } }
  | _ => s

/-- Sets a boolean field. -/
def setBool (s : Settings) (f : Field) (b : Bool) : Settings :=
  match f with
  | .fold => { s with matching := { s.matching with fold := b } }
  | .prune => { s with matching := { s.matching with prune := b } }
  | _ => s

/-- Sets a string field. -/
def setText (s : Settings) (f : Field) (t : Bytes) : Settings :=
  match f with
  | .input => { s with io := { s.io with input := t } }
  | .output => { s with io := { s.io with output := t } }
  | _ => s

/-- A character of a key stands for an ASCII character of a name up to simple case folding:
it is that character in either case, or the Kelvin sign for `k`, or the long s for `s`. No other
character folds to an ASCII letter. -/
def foldsToAscii (a c : Char) : Bool :=
  let lower := fun (x : Char) => if 'A' ≤ x && x ≤ 'Z' then Char.ofNat (x.toNat + 32) else x
  c == a || (c.toNat < 128 && lower c == lower a) ||
    (lower a == 'k' && c.toNat == 0x212A) || (lower a == 's' && c.toNat == 0x17F)

/-- A key names an ASCII name up to simple case folding, character by character. -/
def sameUpToCase (name key : String) : Bool :=
  name.length == key.length && (name.toList.zip key.toList).all fun (a, c) => foldsToAscii a c

/-- The entry a document key names among `(name, x)` pairs: the exact name, else the first one
equal up to case. -/
def matchName {α : Type} (names : List (String × α)) (key : String) : Option α :=
  match names.find? (·.1 == key) with
  | some (_, x) => some x
  | none => (names.find? (sameUpToCase ·.1 key)).map (·.2)

/-- The message of a value of the wrong kind at a key path: with the line of its value when it
was defined with one. -/
def mismatch (d : Document) (path : List String) (msg : String) : String :=
  match d.line? path with
  | some l => "toml: line " ++ toString l ++ " (last key " ++ Text.quote (Bytes.ofString (pathText path)) ++
      "): " ++ msg
  | none => "toml: (last key " ++ Text.quote (Bytes.ofString (pathText path)) ++ "): " ++ msg

/-- Lays one value over a field, strictly. -/
def strictField (d : Document) (path : List String) (s : Settings) (f : Field) (v : Value) :
    Except String Settings :=
  let bad := fun (_ : Unit) => Except.error (mismatch d path
    ("incompatible types: TOML value has type " ++ v.typeName ++ "; destination has type " ++
      f.kind.name))
  match f.kind, v with
  | .integer, .int n => .ok (setInt s f n)
  | .boolean, .bool b => .ok (setBool s f b)
  | .string, .str t => .ok (setText s f (Bytes.ofString t))
  | _, _ => bad ()

/-- Lays the keys of one table over a section, strictly. -/
def strictSection (d : Document) (sec : Section) (name : String) (s : Settings) (v : Value) :
    Except String Settings :=
  match v with
  | .table t =>
    t.foldlM (fun s (k, x) =>
      match matchName sec.fields k with
      | some f => strictField d [name, k] s f x
      | none => .ok s) s
  | _ => .error (mismatch d [name]
      ("type mismatch for " ++ sec.typeName ++ ": expected table but found " ++ v.typeName))

/-- Lays a document over settings, strictly. -/
def strict (base : Settings) (d : Document) : Except String Settings :=
  d.root.foldlM (fun s (k, v) =>
    match matchName (Section.all.map fun sec => (sec.name, sec)) k with
    | some sec => strictSection d sec k s v
    | none => .ok s) base

/-- Keeps the values of the right kind of one section. -/
def lenientSection (sec : Section) (t : Table) (s : Settings) : Settings :=
  sec.fields.foldl (fun s (name, f) =>
    match f.kind, lookup t name with
    | .integer, some (.int n) => setInt s f n
    | .boolean, some (.bool b) => setBool s f b
    | .string, some (.str x) => setText s f (Bytes.ofString x)
    | _, _ => s) s

/-- Keeps the values of the right kind of the three tables. -/
def lenient (base : Settings) (root : Table) : Settings :=
  Section.all.foldl (fun s sec =>
    match lookup root sec.name with
    | some (.table t) => lenientSection sec t s
    | _ => s) base

end WordSift.Settings
