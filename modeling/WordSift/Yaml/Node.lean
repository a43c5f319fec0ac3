import WordSift.Yaml.Event
import WordSift.Yaml.Encoding
import WordSift.Yaml.Schema

/-!
# YAML documents as nodes

The events of the first document of a stream are built into nodes: scalars, sequences,
mappings and aliases, each with its tag and the line where it starts. A node with an anchor can
be referred to by an alias that comes after its start; an alias that refers to a collection
from inside it makes the document cyclic, so nodes are kept in an array and refer to their
children and targets by index.

A node's tag is its explicit tag in short form; else `!!str` for a quoted or block scalar,
`!!seq` and `!!map` for collections, `!!merge` for a plain `<<`, and for any other plain
scalar the tag its text suggests (see `Schema`).

Only the first document is built, but the events after it are read as far as its end needs
them, so a fault just after the first document is still found. An empty stream has no
document.
-/

namespace WordSift.Yaml

/-- The kinds of nodes. -/
inductive NodeKind where
  | scalar
  | sequence
  | mapping
  | alias
deriving Repr, Inhabited, DecidableEq

/-- A node: its kind, tag (short form), text (a scalar's value, an alias's anchor name), the
line where it starts (from 1), its children (a mapping's keys and values alternate), and for an
alias the node it refers to. -/
structure Node where
  kind : NodeKind
  tag : String := ""
  value : String := ""
  line : Nat := 0
  children : Array Nat := #[]
  target : Nat := 0
deriving Repr, Inhabited

/-- A document: its nodes and the index of its root. -/
structure Document where
  nodes : Array Node
  root : Nat
deriving Repr, Inhabited

/-- The state of building a document: the events read so far, the nodes, the anchors (latest
first), the collections still open (innermost first), and the root once it is known. -/
structure Builder where
  parser : Parser
  nodes : Array Node := #[]
  anchors : List (String × Nat) := []
  building : List Nat := []
  root : Option Nat := none
  inDocument : Bool := false

namespace Builder

/-- Adds a node, as a child of the innermost open collection or as the root, and registers its
anchor. Returns its index. -/
def add (b : Builder) (n : Node) (anchor : Option String) : Builder × Nat :=
  let i := b.nodes.size
  let nodes := b.nodes.push n
  let nodes := match b.building with
    | parent :: _ => nodes.modify parent fun p => { p with children := p.children.push i }
    | [] => nodes
  let anchors := match anchor with
    | some a => (a, i) :: b.anchors
    | none => b.anchors
  let root := if b.building.isEmpty then some i else b.root
  ({ b with nodes, anchors, root }, i)

/-- The tag of a new node: its explicit tag in short form, else `fallback`, else (for a
scalar) the tag its text suggests. -/
def tagOf (explicit fallback : String) (value : String) (scalar : Bool) : String :=
  if explicit != "" && explicit != "!" then shortTag explicit
  else if fallback != "" then fallback
  else if scalar then
    match resolve "" value with
    | .ok (t, _) => t
    | .error _ => ""
  else ""

/-- Takes one event: `none` when the document is complete, or the stream ended without one. -/
def take (b : Builder) (e : Event) : Except String (Option Builder) :=
  let line := e.start.line + 1
  match e.kind with
  | .streamStart => .ok (some b)
  | .streamEnd => .ok none
  | .documentStart => .ok (some { b with inDocument := true })
  | .documentEnd => .ok none
  | .scalar anchor tag value style =>
    let fallback := if style != .plain then "!!str" else if value == "<<" then "!!merge" else ""
    let n : Node := { kind := .scalar, tag := tagOf tag fallback value true, value, line }
    .ok (some (b.add n anchor).1)
  | .sequenceStart anchor tag _ =>
    let (b, i) := b.add { kind := .sequence, tag := tagOf tag "!!seq" "" false, line } anchor
    .ok (some { b with building := i :: b.building })
  | .mappingStart anchor tag _ =>
    let (b, i) := b.add { kind := .mapping, tag := tagOf tag "!!map" "" false, line } anchor
    .ok (some { b with building := i :: b.building })
  | .sequenceEnd | .mappingEnd => .ok (some { b with building := b.building.tail })
  | .alias name =>
    match b.anchors.lookup name with
    | none => .error ("yaml: unknown anchor '" ++ name ++ "' referenced")
    | some target =>
      .ok (some (b.add { kind := .alias, value := name, line, target } none).1)

end Builder

/-- Builds the first document of a text from its events, reading one event at a time; a
decoding fault met while looking ahead stops it once the event that met it is complete. `fuel`
bounds the number of events. -/
def buildDocument : Nat → Builder → Except String Builder
  | 0, b => .ok b
  | fuel + 1, b =>
    match nextEvent.run b.parser with
    | .error f => .error f.render
    | .ok (e, p) =>
      match p.tokens.pendingFault with
      | some why => .error ({ stage := .reader, message := why } : Fault).render
      | none =>
        match { b with parser := p }.take e with
        | .error m => .error m
        | .ok none => .ok { b with parser := p }
        | .ok (some b') => buildDocument fuel b'

/-- The first document of a stream, if it has one, or the fault that stops reading it. -/
def Document.ofBytes (input : Bytes) : Except String (Option Document) := do
  let chars := decodeStream input
  let b ← buildDocument (4 * chars.chars.size + 16) { parser := Parser.ofChars chars }
  return b.root.map fun r => { nodes := b.nodes, root := r }

/-- The node at an index. -/
def Document.node (d : Document) (i : Nat) : Node := d.nodes.getD i default

end WordSift.Yaml
