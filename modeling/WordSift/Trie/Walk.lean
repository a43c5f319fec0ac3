import WordSift.Trie.Basic

/-!
# Walking a trie in word order

A walk visits the nodes of a trie depth first, a node before its children and the children in
increasing letter order, so the stored words come in increasing byte order. Entering a node
counts it as visited; at a node where a word ends the word is tested: a judge, which may keep a
state of its own, says whether to keep it, skip it, or halt the whole walk. A kept word is
collected while fewer words than the cap (`0` for none) have been collected.

Before each child the walk returns when it has been halted, or, when pruning, when the cap is
reached. A halted walk enters no further node, and the node that halted it enters none of its
children. Without pruning the walk still visits every node once the cap is reached; only
collecting stops.

`collect` walks the subtree under a prefix with a fixed acceptance test; `walk` hands every
word to a callback until it says stop.
-/

namespace WordSift.Trie

/-- What a judge says about a stored word. -/
inductive Verdict where
  /-- Collect the word, if the cap allows. -/
  | keep
  /-- Do not collect the word. -/
  | skip
  /-- Do not collect the word, and enter no further node. -/
  | halt
deriving DecidableEq, Repr

/-- How much of the trie a walk touched. -/
structure Tally where
  /-- Nodes entered. -/
  visited : Nat
  /-- Nodes entered where a word ends. -/
  tested : Nat
  /-- Words collected. -/
  accepted : Nat
deriving DecidableEq, Repr

/-- The state of a walk. -/
structure Sweep (σ : Type) where
  /-- The collected words, in order. -/
  found : Array Bytes
  visited : Nat
  tested : Nat
  halted : Bool
  /-- The judge's own state. -/
  mind : σ

/-- The state a walk starts from. -/
def Sweep.start {σ : Type} (mind : σ) : Sweep σ := ⟨#[], 0, 0, false, mind⟩

/-- The cap (`0` for none) is reached. -/
def Sweep.full {σ : Type} (cap : Nat) (s : Sweep σ) : Bool := decide (0 < cap) && decide (cap ≤ s.found.size)

/-- Tests the word `w` at an end-of-word node. -/
def Sweep.test {σ : Type} (judge : σ → Bytes → σ × Verdict) (cap : Nat) (w : Bytes)
    (s : Sweep σ) : Sweep σ :=
  let (mind, v) := judge s.mind w
  let s := { s with tested := s.tested + 1, mind := mind }
  match v with
  | .keep => if s.full cap then s else { s with found := s.found.push w }
  | .skip => s
  | .halt => { s with halted := true }

/-- What a walk reports. -/
def Sweep.tally {σ : Type} (s : Sweep σ) : Tally := ⟨s.visited, s.tested, s.found.size⟩

mutual
/-- Enters a node whose path from the root is `path`. -/
def visit {σ : Type} (judge : σ → Bytes → σ × Verdict) (cap : Nat) (prune : Bool) :
    Node → Bytes → Sweep σ → Sweep σ
  | .node stop ks, path, s =>
    if s.halted then s
    else
      let s := { s with visited := s.visited + 1 }
      let s := if stop then s.test judge cap path else s
      visitKids judge cap prune ks path s

/-- Enters the children of a node in order, checking before each one whether to go on. -/
def visitKids {σ : Type} (judge : σ → Bytes → σ × Verdict) (cap : Nat) (prune : Bool) :
    List (UInt8 × Node) → Bytes → Sweep σ → Sweep σ
  | [], _, s => s
  | (c, t) :: rest, path, s =>
    if s.halted || (prune && s.full cap) then s
    else visitKids judge cap prune rest path (visit judge cap prune t (path ++ [c]) s)
end

/-- The words under `pre` that `accept` takes, in increasing order, at most `cap` of them
(`0` for no cap), with the tally of the walk. -/
def collect (t : Trie) (accept : Bytes → Bool) (cap : Nat) (prune : Bool := false)
    (pre : Bytes := []) : List Bytes × Tally :=
  match t.find? pre with
  | none => ([], ⟨0, 0, 0⟩)
  | some n =>
    let s := visit (fun (_ : Unit) w => ((), if accept w then .keep else .skip)) cap prune n pre
      (Sweep.start ())
    (s.found.toList, s.tally)

/-- All stored words, in increasing order. -/
def words (t : Trie) : List Bytes := (t.collect (fun _ => true) 0).1

/-- Hands the stored words in increasing order to `f`, which keeps a state and answers whether
to go on; the walk stops right after the first `false`. Gives the final state and the tally. -/
def walk {σ : Type} (t : Trie) (f : σ → Bytes → σ × Bool) (init : σ) : σ × Tally :=
  let s := visit (fun m w => let (m', go) := f m w; (m', if go then .skip else .halt)) 0 false
    t.root [] (Sweep.start init)
  (s.mind, s.tally)

end WordSift.Trie
