import WordSift.Bytes

/-!
# Word tries

A trie stores words over the letters `a` to `z`. Each node says whether a stored word ends
there and holds its children by letter, in increasing letter order. The empty word is stored
at the root. A word holding any other byte is refused as a whole and leaves the trie as it was.

Beside the root the trie keeps two counters, the number of stored words and the number of
nodes (the root included). Insertion updates them on its way: one node for every child it has
to create, and one word when it marks an end that was not marked yet.
`find?` follows a byte string from the root; it fails on a byte outside `a` to `z` and on a
missing child.
-/

namespace WordSift

/-- A node of a word trie: whether a word ends here, and the children by letter. -/
inductive Trie.Node where
  | node (stop : Bool) (kids : List (UInt8 × Trie.Node))
deriving Repr, Inhabited

/-- A word trie: the root, with the counts of stored words and of nodes kept beside it. -/
structure Trie where
  root : Trie.Node
  /-- The number of distinct stored words. -/
  wordCount : Nat
  /-- The number of nodes, the root included. -/
  nodeCount : Nat
deriving Repr, Inhabited

/-- Why a word is refused. -/
inductive Trie.InsertError where
  /-- The word holds a byte outside `a` to `z`. -/
  | badKey
deriving DecidableEq, Repr

/-- The message of a refused word. -/
def Trie.InsertError.message : Trie.InsertError → String
  | .badKey => "word has characters out of range a-z"

namespace Trie.Node

/-- A node with no word and no children. -/
def empty : Node := .node false []

/-- Whether a word ends at this node. -/
def stop : Node → Bool
  | .node s _ => s

/-- The children of this node. -/
def kids : Node → List (UInt8 × Node)
  | .node _ k => k

/-- The child at letter `c`. -/
def kid? (n : Node) (c : UInt8) : Option Node := (n.kids.find? (·.1 == c)).map (·.2)

/-- Puts `t` as the child at letter `c`: in place of the child there, or among the others in
increasing letter order. -/
def setKid (c : UInt8) (t : Node) : List (UInt8 × Node) → List (UInt8 × Node)
  | [] => [(c, t)]
  | (d, u) :: rest =>
    if c < d then (c, t) :: (d, u) :: rest
    else if c = d then (c, t) :: rest
    else (d, u) :: setKid c t rest

/-- Marks the end of the path `w` below this node, creating the children it lacks. Gives the
new node, the number of nodes created, and whether the end mark is new. -/
def plant : Node → Bytes → Node × Nat × Bool
  | .node s ks, [] => (.node true ks, 0, !s)
  | n@(.node s ks), c :: cs =>
    let (kid, fresh) := match n.kid? c with
      | some t => (t, 0)
      | none => (empty, 1)
    let (kid', more, marked) := kid.plant cs
    (.node s (setKid c kid' ks), fresh + more, marked)

/-- The node reached by following `w` from this node. -/
def find? : Node → Bytes → Option Node
  | t, [] => some t
  | t, c :: cs => if Bytes.isLetter c then (t.kid? c).bind (find? · cs) else none

end Trie.Node

namespace Trie

/-- The trie that stores nothing: a root alone. -/
def empty : Trie := ⟨.empty, 0, 1⟩

/-- Stores a word made of the letters `a` to `z`, counting the nodes it creates and the word
when it is new; refuses any other word before touching the trie. -/
def insert (t : Trie) (w : Bytes) : Except InsertError Trie :=
  if w.all Bytes.isLetter then
    let (root, fresh, marked) := t.root.plant w
    .ok ⟨root, if marked then t.wordCount + 1 else t.wordCount, t.nodeCount + fresh⟩
  else .error .badKey

/-- The node reached by following `w` from the root. -/
def find? (t : Trie) (w : Bytes) : Option Node := t.root.find? w

/-- The word was stored. -/
def contains (t : Trie) (w : Bytes) : Bool :=
  match t.find? w with
  | some n => n.stop
  | none => false

/-- Some stored word starts with `w`; the empty string is a prefix of every trie. -/
def hasPrefix (t : Trie) (w : Bytes) : Bool := (t.find? w).isSome

theorem insert_eq_error_iff {t : Trie} {w : Bytes} :
    t.insert w = .error .badKey ↔ ∃ b ∈ w, Bytes.isLetter b = false := by
  unfold insert
  split <;> simp_all

end Trie

end WordSift
