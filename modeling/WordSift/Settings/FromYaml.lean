import WordSift.Settings.FromToml
import WordSift.Yaml.Node
import WordSift.Text.Quoted
import WordSift.Text.Base64

/-!
# Settings from a YAML document

The root of a document is laid over given settings: a mapping whose keys `match`, `io` and
`server` name the sections, each a mapping whose keys name fields exactly. Unknown keys are
ignored, a null changes nothing, and aliases stand for the node they refer to.

A key `<<` merges another mapping (or an alias of one, or a sequence of them) into the mapping
that holds it. The merge is read after all other keys of that mapping, and a merged mapping
never overrides a key that is already set: neither a key of the mapping itself (even one whose
value is null) nor a key of an earlier merged mapping. The value of a key that is passed over is
not read at all, so it cannot be at fault.

* An integer field takes an integer of 64 bits, or a float, cut toward zero.
* A boolean field takes a boolean, or a string that is one of the old words `yes`, `no`, `on`,
  `off`, `y` and `n` in their usual spellings.
* A string field takes the text of any scalar; a `!!binary` scalar gives the bytes its base64
  text stands for.

Every value that does not fit, every repeated key of a mapping (which is then not laid over)
and every field set twice is noted, and the notes together are the error. Some faults stop
the reading at once instead: a scalar whose explicit tag does not fit its text, bad base64, a
merge of something that is not a mapping, an alias inside the node it refers to, and a
document whose reading goes through aliases far more than through its own nodes.

Every node read counts, and so does every node read while an alias is followed. Past a
thousand reads and a hundred through aliases, more than 99 in 100 reads through aliases is
too many (the allowed share falls to 1 in 10 for documents of millions of reads).
-/
namespace WordSift.Settings

open Yaml

/-- What a node is laid over. -/
inductive Slot where
  | root
  | section (s : Section)
  | field (f : Field)
  /-- The name of a mapping key. -/
  | name
  /-- Any value: how the keys of a mapping are read to learn which of them a merge keeps. -/
  | any
deriving DecidableEq, Repr

/-- The name of a slot's type in messages. -/
def Slot.typeName : Slot → String
  | .root => "config.Config"
  | .section s => s.typeName
  | .field f =>
    match f.kind with
    | .integer => "int"
    | .boolean => "bool"
    | .string => "string"
  | .name => "string"
  | .any => "interface {}"

/-- The state of laying a document over settings: the settings, the notes so far, the last key
name read, the last text read as any value (none when it was not a string), the aliases being
followed, the reads so far and those made through aliases, and while a merge is read, the keys
it must not override. -/
structure Laying where
  settings : Settings
  notes : Array Bytes := #[]
  name : Bytes := []
  text? : Option Bytes := none
  following : List Nat := []
  reads : Nat := 0
  aliasedReads : Nat := 0
  kept : Option (List Bytes) := none

/-- A step of laying a document over settings; a fault stops it. -/
abbrev Lay := StateT Laying (Except String)

/-- Too many of the reads went through aliases. -/
def tooAliased (aliased reads : Nat) : Bool :=
  decide (aliased > 100) && decide (reads > 1000) &&
    (if reads ≤ 400000 then decide (100 * aliased > 99 * reads)
     else if reads ≥ 4000000 then decide (10 * aliased > reads)
     else decide (360000000 * aliased + 89 * reads * reads > 392000000 * reads))

/-- Counts one read, and stops when too many went through aliases. -/
def countRead : Lay Unit := do
  let s ← get
  let reads := s.reads + 1
  let aliasedReads := if s.following.isEmpty then s.aliasedReads else s.aliasedReads + 1
  set { s with reads, aliasedReads }
  if tooAliased aliasedReads reads then throw "yaml: document contains excessive aliasing"

/-- How a mismatched scalar's text is shown: in backquotes, cut to seven bytes and an ellipsis
when longer than ten. -/
def shownText (text : String) : Bytes :=
  let b := Bytes.ofString text
  if b.length > 10 then Bytes.ofString " `" ++ b.take 7 ++ Bytes.ofString "...`"
  else Bytes.ofString (" `" ++ text ++ "`")

/-- Notes a line. -/
def note (msg : Bytes) : Lay Unit := modify fun s => { s with notes := s.notes.push msg }

/-- Notes that a node does not fit a slot: its tag, its text unless it is a collection's tag,
and the slot's type. -/
def misfit (n : Node) (slot : Slot) : Lay Unit :=
  note (Bytes.ofString ("line " ++ toString n.line ++ ": cannot unmarshal " ++ n.tag) ++
    (if n.tag == "!!seq" || n.tag == "!!map" then [] else shownText n.value) ++
    Bytes.ofString (" into " ++ slot.typeName))

/-- The notes for every later key of a mapping that repeats an earlier one (same kind, same
text), each against every earlier one. -/
def repeatedKeys (d : Document) (n : Node) : List String :=
  let keys := ((List.range (n.children.size / 2)).map fun k => d.node (n.children.getD (2 * k) 0))
  (List.range keys.length).flatMap fun i =>
    let ki := keys.getD i default
    ((keys.drop (i + 1)).filter fun kj => kj.kind == ki.kind && kj.value == ki.value).map fun kj =>
      "line " ++ toString kj.line ++ ": mapping key " ++ Text.quote (Bytes.ofString kj.value) ++
        " already defined at line " ++ toString ki.line

/-- A merge key: a scalar `<<` tagged (by default or explicitly) as a merge. -/
def isMergeKey (n : Node) : Bool :=
  n.kind == .scalar && n.value == "<<" && (n.tag == "" || n.tag == "!" || n.tag == "!!merge")

/-- The fault of a merge of something that is not a mapping. -/
def mergeFault : String := "yaml: map merge requires map or sequence of maps as the value"

/-- Lays a scalar over a slot: whether it set something. -/
def layScalar (n : Node) (slot : Slot) : Lay Bool := do
  let (tag, meaning) ← if n.tag == "!!str" then pure ("!!str", Scalar.str n.value)
    else match resolve n.tag n.value with
      | .ok r => pure r
      | .error m => throw ("yaml: " ++ m)
  -- the bytes of a text, decoded when binary
  let bytes ← if tag == "!!binary" then
      match Text.Base64.decode? n.value with
      | some b => pure b
      | none => throw "yaml: !!binary value contains invalid base64 data"
    else pure (Bytes.ofString n.value)
  if slot == .any then
    let text? := match meaning with
      | .str _ => some bytes
      | _ => none
    modify fun s => { s with text? }
    return true
  if meaning == .null then return false
  match slot with
  | .name =>
    modify fun s => { s with name := bytes }
    return true
  | .field f =>
    match f.kind, meaning with
    | .string, _ =>
      modify fun s => { s with settings := setText s.settings f bytes }
      return true
    | .integer, .int v =>
      if v < (Nat.pow 2 63 : Int) then
        modify fun s => { s with settings := setInt s.settings f v }
        return true
    | .integer, .float x =>
      if let some v := x.toInt64? then
        modify fun s => { s with settings := setInt s.settings f v }
        return true
    | .boolean, .bool b =>
      modify fun s => { s with settings := setBool s.settings f b }
      return true
    | .boolean, .str _ =>
      if let some b := oldBool? (Text.lossy bytes) then
        modify fun s => { s with settings := setBool s.settings f b }
        return true
    | _, _ => pure ()
    misfit n slot
    return false
  | _ =>
    misfit n slot
    return false

/-- The field a key names in a section, or the section it names at the root. -/
def slotNamed (slot : Slot) (name : Bytes) : Option Slot :=
  match slot with
  | .root => (Section.all.find? fun s => Bytes.ofString s.name == name).map Slot.section
  | .section s => (s.fields.find? fun (k, _) => Bytes.ofString k == name).map fun (_, f) => .field f
  | _ => none

mutual

/-- Lays a node over a slot, following aliases: whether it set something. `fuel` bounds the
depth. -/
def layNode (d : Document) : Nat → Nat → Slot → Lay Bool
  | 0, _, _ => pure false
  | fuel + 1, i, slot => do
    countRead
    let n := d.node i
    match n.kind with
    | .alias =>
      if (← get).following.contains i then
        throw ("yaml: anchor '" ++ n.value ++ "' value contains itself")
      modify fun s => { s with following := i :: s.following }
      let r ← layNode d fuel n.target slot
      modify fun s => { s with following := s.following.erase i }
      return r
    | .scalar => layScalar n slot
    | .sequence =>
      if slot == .any then
        for item in n.children.toList do
          let _ ← layNode d fuel item .any
        modify fun s => { s with text? := none }
        return true
      misfit n slot
      return false
    | .mapping =>
      let repeated := repeatedKeys d n
      if !repeated.isEmpty then
        for r in repeated do note (Bytes.ofString r)
        return false
      match slot with
      | .root | .section _ => layEntries d fuel n slot
      | .any =>
        let r ← layEntries d fuel n .any
        modify fun s => { s with text? := none }
        return r
      | _ =>
        misfit n slot
        return false

/-- Lays the entries of a mapping over a section or the root (or reads them as any values),
in order, and then its merge. While the mapping is itself being merged, a key already set is
passed over and every other key is marked as set. -/
def layEntries (d : Document) : Nat → Node → Slot → Lay Bool
  | 0, _, _ => pure false
  | fuel + 1, n, slot => do
    let mut kept := (← get).kept
    modify fun s => { s with kept := none }
    let mut merge : Option Nat := none
    let mut done : List Slot := []
    for k in [0:n.children.size / 2] do
      let keyIndex := n.children.getD (2 * k) 0
      let valueIndex := n.children.getD (2 * k + 1) 0
      let key := d.node keyIndex
      if isMergeKey key then
        merge := some valueIndex
        continue
      let keySlot := if slot == .any then Slot.any else .name
      if !(← layNode d fuel keyIndex keySlot) then continue
      let s ← get
      let name? := if slot == .any then s.text? else some s.name
      if let (some set, some name) := (kept, name?) then
        if set.contains name then continue
        kept := some (name :: set)
      if slot == .any then
        let _ ← layNode d fuel valueIndex .any
      else
        match name?.bind (slotNamed slot) with
        | none => pure ()
        | some target =>
          if done.contains target then
            note (Bytes.ofString ("line " ++ toString key.line ++ ": field ") ++ s.name ++
              Bytes.ofString (" already set in type " ++ slot.typeName))
          else
            done := target :: done
            let _ ← layNode d fuel valueIndex target
    modify fun s => { s with kept }
    if let some m := merge then layMerge d fuel n m slot
    return true

/-- Merges a mapping, an alias of one, or a sequence of them (in order) into a slot. Unless a
merge is already under way, the keys the parent mapping sets are collected first; merged
mappings pass over them. -/
def layMerge (d : Document) : Nat → Node → Nat → Slot → Lay Unit
  | 0, _, _, _ => pure ()
  | fuel + 1, parent, i, slot => do
    let saved := (← get).kept
    if saved.isNone then
      modify fun s => { s with kept := some [] }
      for k in [0:parent.children.size / 2] do
        if ← layNode d fuel (parent.children.getD (2 * k) 0) .any then
          if let some name := (← get).text? then
            modify fun s => { s with kept := s.kept.map (name :: ·) }
    let n := d.node i
    match n.kind with
    | .mapping =>
      let _ ← layNode d fuel i slot
    | .alias =>
      if (d.node n.target).kind != .mapping then throw mergeFault
      let _ ← layNode d fuel i slot
    | .sequence =>
      for item in n.children.toList do
        let m := d.node item
        if m.kind == .alias then
          if (d.node m.target).kind != .mapping then throw mergeFault
        else if m.kind != .mapping then throw mergeFault
        let _ ← layNode d fuel item slot
    | .scalar => throw mergeFault
    modify fun s => { s with kept := saved }

end

/-- Reads a YAML text over settings: the settings, or the reading fault or the notes. -/
def ofYaml (base : Settings) (text : Bytes) : Except Bytes Settings :=
  match Document.ofBytes text with
  | .error e => .error (Bytes.ofString e)
  | .ok none => .ok base
  | .ok (some d) =>
    let fuel := 4 * (d.nodes.size + 2) * (d.nodes.size + 2)
    -- the document itself is the first read
    match (do countRead; layNode d fuel d.root .root).run { settings := base } with
    | .error e => .error (Bytes.ofString e)
    | .ok (_, r) =>
      if r.notes.isEmpty then .ok r.settings
      else .error (Bytes.ofString "yaml: unmarshal errors:\n  " ++
        List.intercalate (Bytes.ofString "\n  ") r.notes.toList)

end WordSift.Settings
