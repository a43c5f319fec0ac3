import WordSift.Numeral.Binary64
import WordSift.Toml.Stamp

/-!
# TOML values

The values of a TOML document: strings, 64-bit integers, double-precision numbers, booleans,
date-times, arrays, tables, and arrays of tables (each table of one made by a `[[name]]`
header). A table keeps its keys in the order they were first defined.

`Value.typeName` is the name under which messages report a value's type: the name of the type
that holds it once read (`int64`, `float64`, `map[string]any` and so on).
-/

namespace WordSift.Toml

/-- A value of a TOML document. -/
inductive Value where
  | str (s : String)
  | int (n : Int)
  | float (x : Double)
  | bool (b : Bool)
  | datetime (t : Stamp)
  | array (items : List Value)
  | table (entries : List (String × Value))
  /-- An array of tables, each made by a `[[name]]` header. -/
  | tables (items : List (List (String × Value)))
deriving Repr, Inhabited

/-- A table: keys with their values, in the order they were defined. -/
abbrev Table := List (String × Value)

/-- The name of the type of a value, as messages give it. -/
def Value.typeName : Value → String
  | .str _ => "string"
  | .int _ => "int64"
  | .float _ => "float64"
  | .bool _ => "bool"
  | .datetime _ => "time.Time"
  | .array _ => "[]any"
  | .table _ => "map[string]any"
  | .tables _ => "[]map[string]any"

/-- The value of a key of a table. -/
def lookup (t : Table) (k : String) : Option Value := (t.find? (·.1 == k)).map (·.2)

/-- Sets a key of a table: its value is replaced where it stands, or it is added at the end. -/
def Table.put (t : Table) (k : String) (v : Value) : Table :=
  if t.any (·.1 == k) then t.map fun e => if e.1 == k then (k, v) else e else t ++ [(k, v)]

end WordSift.Toml
