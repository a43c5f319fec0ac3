import WordSift.Bytes

/-!
# Occurrence counts of words

An index counts how often each word was added and how many words were refused. It keeps the
distinct words with their counts in the order they were first added, as a map from words to
counts, and beside it counters of the additions and of the words that were new when added: an
addition looks the word up, then raises its count or stores it anew. Its statistics are read from
the counters: the number of additions, the number of new words, their difference (the
duplicates) and the number of refusals. `duplicates` lists the words added more than once, in
increasing byte order.
-/

namespace WordSift

/-- Occurrence counts of words. -/
structure Index where
  /-- The distinct words with their counts, in the order they were first added. -/
  entries : List (Bytes × Nat) := []
  /-- The number of additions. -/
  total : Nat := 0
  /-- The number of additions of a word that had no count yet. -/
  unique : Nat := 0
  /-- The number of refused words. -/
  refused : Nat := 0
deriving DecidableEq, Repr

/-- The statistics of an index. -/
structure Index.Stats where
  total : Nat
  unique : Nat
  duplicates : Nat
  rejected : Nat
deriving DecidableEq, Repr

namespace Index

/-- The count stored for a word, when it has one. -/
def get? (ix : Index) (w : Bytes) : Option Nat := (ix.entries.find? (·.1 == w)).map (·.2)

/-- Stores the count `n` for `w`: the entry of `w` is given `n`, or a new one is added last. -/
def setCount (w : Bytes) (n : Nat) : List (Bytes × Nat) → List (Bytes × Nat)
  | [] => [(w, n)]
  | (v, m) :: rest => if v = w then (v, n) :: rest else (v, m) :: setCount w n rest

/-- Adds the entry `(w, n)` last, unless `w` has an entry. -/
def insertCount (w : Bytes) (n : Nat) (es : List (Bytes × Nat)) : List (Bytes × Nat) :=
  if es.any (·.1 == w) then es else es ++ [(w, n)]

/-- Records one occurrence of a word: a word with a count has it raised by one; any other is
stored with count one and counted as a new word. -/
def add (ix : Index) (w : Bytes) : Index :=
  let ix := { ix with total := ix.total + 1 }
  match ix.get? w with
  | some n => { ix with entries := setCount w (n + 1) ix.entries }
  | none => { ix with entries := insertCount w 1 ix.entries, unique := ix.unique + 1 }

/-- Records a refused word. -/
def reject (ix : Index) : Index := { ix with refused := ix.refused + 1 }

/-- How many times a word was added. -/
def count (ix : Index) (w : Bytes) : Nat :=
  match ix.entries.find? (·.1 == w) with
  | some (_, n) => n
  | none => 0

/-- The number of distinct added words that start with `q`. -/
def withPrefix (ix : Index) (q : Bytes) : Nat := ix.entries.countP fun e => q.isPrefixOf e.1

/-- Byte order on words. -/
def byteLe (a b : Bytes) : Bool := decide (a ≤ b)

/-- The words added more than once, with their counts, in increasing byte order. -/
def duplicates (ix : Index) : List (Bytes × Nat) :=
  (ix.entries.filter fun e => 1 < e.2).mergeSort fun a b => byteLe a.1 b.1

/-- The statistics of an index, read from its counters. -/
def stats (ix : Index) : Stats :=
  ⟨ix.total, ix.unique, ix.total - ix.unique, ix.refused⟩

end Index

end WordSift
