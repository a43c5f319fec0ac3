import WordSift.Toml.Token.Stream
import WordSift.Toml.Scalar

/-!
# TOML documents

A document is built from its tokens statement by statement: a table header `[a.b]` makes the
table at that path the one that later keys go to, an array-of-tables header `[[a.b]]` adds a
table to the array at that path, and a pair `a.b = value` defines a key under the current
table. The tables on the way to a path are created as needed and marked implicit; an implicit
table may be defined later by a header of its own, any other key only once. A path runs through
an array of tables by its last table.

Each defined key records its shape and the line of its value, which later messages give. A
fault is reported as `toml: line N (last key "k"): message`, where `k` is the key being
defined under the current table, or `toml: line N: message` when there is none.
-/

namespace WordSift.Toml

/-- The shape of a defined key, as far as later definitions care. -/
inductive Shape where
  | scalar
  | array
  | table
  | tables
deriving DecidableEq, Repr

/-- What is known of a defined key: its shape and the line of its value. -/
structure KeyInfo where
  shape : Shape
  line : Nat
deriving Repr

/-- A character of a key as written between double quotes. -/
def keyCharText (c : Char) : String :=
  match c.toNat with
  | 34 => "\\\""
  | 92 => "\\\\"
  | 8 => "\\b"
  | 9 => "\\t"
  | 10 => "\\n"
  | 12 => "\\f"
  | 13 => "\\r"
  | n => if n < 0x20 || n == 0x7F then "\\u" ++ Bytes.hexPadded 4 n else String.singleton c

/-- A key name as messages write it: as it is when bare, else between double quotes. -/
def nameText (k : String) : String :=
  if k.isEmpty then "\"\""
  else if k.toList.all (fun c => isBareChar c.toNat) then k
  else "\"" ++ String.join (k.toList.map keyCharText) ++ "\""

/-- A key path as messages write it. -/
def pathText (ks : List String) : String := ".".intercalate (ks.map nameText)

/-- A fault of a document: its line, the key being defined, and the message. -/
structure Problem where
  line : Nat
  lastKey : String
  message : String
deriving Repr

/-- The text of a fault. -/
def Problem.render (p : Problem) : String :=
  "toml: line " ++ toString p.line ++
    (if p.lastKey.isEmpty then "" else " (last key " ++ Text.quote (Bytes.ofString p.lastKey) ++ ")") ++
    ": " ++ p.message

/-- Why a walk down a path stopped. -/
inductive Stop where
  /-- A value that is not a table stands at this path. -/
  | blocked (path : List String)
  /-- Nothing stands at this path. -/
  | missing (path : List String)
  /-- The change at the end of the path failed. -/
  | refused (message : String)

/-- Applies `f` to the table at the end of a path below `t`, going through the last table of an
array of tables. With `create`, missing tables are created; their paths are returned. `seen` is
the path walked so far. -/
def Table.update {α : Type} (create : Bool) (f : Table → Except Stop (Table × α))
    (seen : List String) : List String → Table → Except Stop (Table × α × List (List String))
  | [], t => do
    let (t', a) ← f t
    return (t', a, [])
  | k :: ks, t =>
    let here := seen ++ [k]
    match lookup t k with
    | none =>
      if create then do
        let (sub, a, made) ← Table.update create f here ks []
        return (t.put k (.table sub), a, here :: made)
      else throw (.missing here)
    | some (.table sub) => do
      let (sub', a, made) ← Table.update create f here ks sub
      return (t.put k (.table sub'), a, made)
    | some (.tables items) =>
      match items.getLast? with
      | some last => do
        let (last', a, made) ← Table.update create f here ks last
        return (t.put k (.tables (items.dropLast ++ [last'])), a, made)
      | none => throw (.blocked here)
    | some _ => throw (.blocked here)

/-- Sets `k` under the path `ks` below a table, creating tables on the way; none when a value
that is not a table stands on the way. -/
def Table.putPath (k : String) (v : Value) : List String → Table → Option Table
  | [], t => some (t.put k v)
  | c :: cs, t =>
    match lookup t c with
    | none => (Table.putPath k v cs []).map fun sub => t.put c (.table sub)
    | some (.table sub) => (Table.putPath k v cs sub).map fun sub' => t.put c (.table sub')
    | some _ => none

/-- The state of building a document: the tokens and the fault that ended them, the next token,
the current table's path and the key being defined, the line of the last key read, the root
table, what is known of each defined key, and the paths of the implicit tables. -/
structure Builder where
  tokens : Array Token
  stop : Option Fault
  index : Nat := 0
  context : List String := []
  key : String := ""
  line : Nat := 0
  root : Table := []
  info : List (String × KeyInfo) := []
  implicit : List String := []

/-- A step of building a document; a fault stops it. -/
abbrev Build := StateT Builder (Except Problem)

/-- The key being defined, with the current table's path. -/
def Builder.current (b : Builder) : String :=
  if b.key.isEmpty then pathText b.context
  else if b.context.isEmpty then b.key
  else pathText b.context ++ "." ++ b.key

/-- A fault at the line of the last key read. -/
def fail {α : Type} (msg : String) : Build α := do
  let b ← get
  throw ⟨b.line, b.current, msg⟩

/-- A fault at the line of a token. -/
def failAt {α : Type} (t : Token) (msg : String) : Build α := do
  throw ⟨t.line, (← get).current, msg⟩

/-- Takes the next token; past the last one, the fault that ended them. -/
def nextToken : Build Token := do
  let b ← get
  match b.tokens[b.index]? with
  | some t =>
    set { b with index := b.index + 1 }
    return t
  | none =>
    match b.stop with
    | some f => throw ⟨f.line, b.current, f.message⟩
    | none => fail "unexpected end of input"

/-- Takes the next token as the one whose line later faults give. -/
def nextKeyToken : Build Token := do
  let t ← nextToken
  modify fun b => { b with line := t.line }
  return t

/-- Takes the next token, which must be of a kind. -/
def expect (k : Kind) : Build Token := do
  let t ← nextToken
  if t.kind != k then fail "unexpected token"
  return t

/-- Marks a path as an implicit table. -/
def addImplicit (ks : List String) : Build Unit :=
  modify fun b => { b with implicit := b.implicit ++ [pathText ks] }

/-- Records the shape and line of a key under the current table (of the table itself for an
empty key). -/
def setShape (k : String) (shape : Shape) (line : Nat) : Build Unit := do
  let b ← get
  let full := b.context ++ (if k.isEmpty then [] else [k])
  let name := pathText (if full.isEmpty then [""] else full)
  set { b with info := (name, ⟨shape, line⟩) :: b.info.filter (·.1 != name) }

/-- Defines a key under the current table. A key defined before may be set again only when it
holds an array (its value is replaced) or an implicit table (which becomes explicit). -/
def setValue (k : String) (v : Value) : Build Unit := do
  let b ← get
  let name := pathText (b.context ++ [k])
  let isArray := (b.info.lookup name).any (·.shape == .array)
  let isImplicit := b.implicit.contains name
  let change := fun (h : Table) =>
    match lookup h k with
    | some _ =>
      if isArray then .ok (h.put k v, true)
      else if isImplicit then .ok (h, true)
      else .error (Stop.refused ("Key '" ++ name ++ "' has already been defined."))
    | none => .ok (h.put k v, false)
  match Table.update false change [] b.context b.root with
  | .ok (root, known, _) =>
    set { b with root, implicit := if known then b.implicit.filter (· != name) else b.implicit }
  | .error (.blocked p) => fail ("Key '" ++ pathText p ++ "' has already been defined.")
  | .error (.missing p) => fail ("BUG: Context for key '" ++ pathText p ++ "' has not been established.")
  | .error (.refused m) => fail m

/-- Makes the table at a path the current one: the tables on the way are created (implicit) as
needed, and the last one is defined, or with `array` a new table is added to the array of tables
there. -/
def addContext (ks : List String) (array : Bool) : Build Unit := do
  let parents := ks.dropLast
  let last := ks.getLastD ""
  let b ← get
  match Table.update true (fun h => .ok (h, ())) [] parents b.root with
  | .error (.blocked p) => fail ("Key '" ++ pathText p ++ "' was already created as a hash.")
  | .error _ => fail "BUG: unreachable"
  | .ok (root, (), made) =>
    set { b with root, implicit := b.implicit ++ made.map pathText, context := parents }
    if array then
      let b ← get
      let change := fun (h : Table) =>
        match lookup h last with
        | none => .ok (h.put last (.tables [[]]), ())
        | some (.tables items) => .ok (h.put last (.tables (items ++ [[]])), ())
        | some _ => .error (Stop.refused ("Key '" ++ pathText ks ++
            "' was already created and cannot be used as an array."))
      match Table.update false change [] parents b.root with
      | .ok (root, (), _) => set { b with root }
      | .error (.refused m) => fail m
      | .error _ => fail "BUG: unreachable"
    else setValue last (.table [])
    modify fun b => { b with context := parents ++ [last] }

/-- Marks a path as implicit and makes it the current table. -/
def addImplicitContext (ks : List String) : Build Unit := do
  addImplicit ks
  addContext ks false

/-- Makes each part of a dotted key's parents, in turn, the current table. -/
def enterParents : List String → Build Unit
  | [] => pure ()
  | p :: ps => do
    addImplicitContext ((← get).context ++ [p])
    enterParents ps

/-- The string a key token stands for. -/
def keyName (t : Token) : Build String :=
  match t.kind with
  | .text => pure t.text
  | .basic | .escaped | .multiline | .literal | .multilineLiteral =>
    match stringOf t with
    | .ok s => pure s
    | .error m => failAt t m
  | _ => fail "BUG: unexpected key token"

/-- Reads the names of a key or header path up to the token of kind `close`, the first name
given; `fuel` bounds their number. -/
def readPath (close : Kind) : Nat → Token → List String → Build (List String)
  | 0, _, acc => pure acc.reverse
  | fuel + 1, t, acc => do
    if t.kind == close || t.kind == .eof then
      if t.kind != close then fail "BUG: unexpected end of a key"
      return acc.reverse
    let name ← keyName t
    readPath close fuel (← nextToken) (name :: acc)

mutual

/-- Reads a value from its first token: its value and shape. -/
def readValue : Nat → Token → Bool → Build (Value × Shape)
  | 0, _, _ => fail "BUG: nesting too deep"
  | fuel + 1, t, inArray =>
    match t.kind with
    | .basic | .escaped | .multiline | .literal | .multilineLiteral =>
      match stringOf t with
      | .ok s => pure (.str s, .scalar)
      | .error m => failAt t m
    | .integer =>
      match integerOf t.text with
      | .ok n => pure (.int n, .scalar)
      | .error m => failAt t m
    | .float =>
      match floatOf t.text with
      | .ok x => pure (.float x, .scalar)
      | .error m => failAt t m
    | .bool => pure (.bool (t.text == "true"), .scalar)
    | .datetime =>
      match datetimeOf t.text with
      | .ok d => pure (.datetime d, .scalar)
      | .error m => failAt t m
    | .arrayStart => do
      setShape (← get).key .array t.line
      let items ← readItems fuel []
      return (.array items, .array)
    | .inlineStart => readInline fuel inArray
    | _ => fail "BUG: unexpected value token"

/-- Reads the items of an array after its opening bracket. -/
def readItems : Nat → List Value → Build (List Value)
  | 0, _ => fail "BUG: array too long"
  | fuel + 1, acc => do
    let t ← nextToken
    if t.kind == .arrayEnd then return acc.reverse
    if t.kind == .commentStart then
      let _ ← expect .text
      return ← readItems fuel acc
    let (v, _) ← readValue fuel t true
    readItems fuel (v :: acc)

/-- Reads an inline table after its opening brace; inside an array it is a new table of the
array of tables at its key. -/
def readInline : Nat → Bool → Build (Value × Shape)
  | 0, _ => fail "BUG: nesting too deep"
  | fuel + 1, inArray => do
    let outer ← get
    let here := outer.context ++ [outer.key]
    modify fun b => { b with context := here, key := "" }
    addImplicit here
    addContext here inArray
    let t ← readPairs fuel here []
    modify fun b => { b with context := outer.context, key := outer.key }
    return (.table t, .table)

/-- Reads the pairs of an inline table whose path is `here`, the table so far in `acc`. -/
def readPairs : Nat → List String → Table → Build Table
  | 0, _, _ => fail "BUG: inline table too long"
  | fuel + 1, here, acc => do
    let t ← nextToken
    if t.kind == .inlineEnd then return acc
    if t.kind == .commentStart then
      let _ ← expect .text
      return ← readPairs fuel here acc
    let first ← nextKeyToken
    let ks ← readPath .keyEnd fuel first []
    let k := ks.getLastD ""
    let parents := ks.dropLast
    modify fun b => { b with key := k }
    enterParents parents
    let (v, shape) ← readValue fuel (← nextToken) false
    setValue k v
    setShape k shape t.line
    let acc ← match Table.putPath k v parents acc with
      | some a => pure a
      | none => fail (Text.quote (Bytes.ofString (pathText (← get).context)) ++ " is not a table")
    modify fun b => { b with context := here }
    readPairs fuel here acc

end

/-- Reads one statement from its first token. -/
def statement (fuel : Nat) (t : Token) : Build Unit := do
  match t.kind with
  | .commentStart =>
    let _ ← expect .text
  | .tableStart =>
    let ks ← readPath .tableEnd fuel (← nextKeyToken) []
    addContext ks false
    setShape "" .table t.line
  | .arrayTableStart =>
    let ks ← readPath .arrayTableEnd fuel (← nextKeyToken) []
    addContext ks true
    setShape "" .tables t.line
  | .keyStart =>
    let outer := (← get).context
    let ks ← readPath .keyEnd fuel (← nextKeyToken) []
    let k := ks.getLastD ""
    modify fun b => { b with key := k }
    enterParents ks.dropLast
    let v ← nextToken
    let (value, shape) ← readValue fuel v false
    setValue k value
    setShape k shape v.line
    modify fun b => { b with context := outer, key := "" }
  | _ => fail "BUG: unexpected token at the top level"

/-- Reads statements until the end-of-input token. -/
def statements (size : Nat) : Nat → Build Unit
  | 0 => pure ()
  | fuel + 1 => do
    let t ← nextToken
    if t.kind == .eof then return
    statement size t
    statements size fuel

/-- A document that was read: its root table and what is known of each defined key. -/
structure Document where
  root : Table
  info : List (String × KeyInfo)

/-- The line of the value of a key path, if it was defined with one. -/
def Document.line? (d : Document) (path : List String) : Option Nat :=
  match d.info.lookup (pathText path) with
  | some i => if i.line > 0 then some i.line else none
  | none => none

/-- Drops a byte-order mark: UTF-8, or either UTF-16 one. -/
def dropMark (s : Bytes) : Bytes :=
  match s with
  | 0xFF :: 0xFE :: r | 0xFE :: 0xFF :: r => r
  | 0xEF :: 0xBB :: 0xBF :: r => r
  | _ => s

/-- Reads a TOML document, or gives the message of its first fault. -/
def parse (s : Bytes) : Except String Document :=
  let s := dropMark s
  if (s.take 6).contains 0 then
    .error "toml: line 1: files cannot contain NULL bytes; probably using UTF-16; TOML files must be UTF-8"
  else
    let (ts, stop) := tokens s.toArray
    let fuel := ts.size + 2
    match (statements fuel fuel).run { tokens := ts, stop } with
    | .ok ((), b) => .ok ⟨b.root, b.info⟩
    | .error p => .error p.render

end WordSift.Toml
