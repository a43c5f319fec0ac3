import WordSift.Proofs.Trie.Pruning

/-!
# A walk its callback stops

`walk` hands the stored words, in increasing order, to a callback that keeps a state of its own
and answers whether to go on. At the first `false` the walk halts: the node where that word ends
enters none of its children, and every node above it enters no further child, so nothing is
entered after that word's node and the callback is called no more (`handOver` says which calls
are made).

As a fold over the nodes in walk order, each step enters its node unless the walk is halted. The
walk thus ends with the callback's state after the words it was handed, having entered the nodes
up to and including the one it stopped at (`untilStop`, `foldl_step_askGo`). Walk order is
increasing byte order, so these are the nodes whose paths are at most that word
(`untilStop_eq_filter`), and all of them when the callback never stops. For a trie that stores a
set `S` the count is then the position of the word's node in walk order, and the number of
strings of `prefixes S` up to the word (`walk_of_insertAll`).
-/

namespace WordSift.Trie

open scoped List
open Sweep

section HandOver

variable {σ : Type} (f : σ → Bytes → σ × Bool)

/-- Hands the words of a list in order to a callback that keeps a state and answers whether to
go on: each call gets the state the one before left, and no call follows the first `false`.
Gives the final state and the word the callback stopped at, `none` when it went on to the end. -/
def handOver : σ → List Bytes → σ × Option Bytes
  | m, [] => (m, none)
  | m, w :: l => if (f m w).2 then handOver (f m w).1 l else ((f m w).1, some w)

/-- The callback stops only at a word it was handed. -/
theorem mem_of_handOver {m : σ} {l : List Bytes} {w : Bytes} (h : (handOver f m l).2 = some w) :
    w ∈ l := by
  induction l generalizing m with
  | nil => simp [handOver] at h
  | cons v l ih =>
    rw [handOver] at h
    split at h
    · exact List.mem_cons_of_mem v (ih h)
    · obtain rfl : v = w := by simpa using h
      exact List.mem_cons_self

/-- The judge of `walk`: skip the word when the callback goes on, halt the walk otherwise. -/
def askGo (m : σ) (w : Bytes) : σ × Verdict := ((f m w).1, if (f m w).2 then .skip else .halt)

/-- The entries a walk enters when its callback starts in state `m`: those up to and including
the one whose word it stops at, or all of them. -/
def untilStop : σ → List (Bytes × Bool) → List (Bytes × Bool)
  | _, [] => []
  | m, e :: es =>
    e :: if e.2 then (if (f m e.1).2 then untilStop (f m e.1).1 es else []) else untilStop m es

/-- A walk is a fold of `step` under `askGo` over the nodes in walk order. -/
theorem walk_eq (t : Trie) (init : σ) :
    t.walk f init =
      (((t.root.entries []).foldl (step (askGo f) 0 false) (start init)).mind,
        ((t.root.entries []).foldl (step (askGo f) 0 false) (start init)).tally) := by
  rw [walk, ← visit_start]
  rfl

/-- Entering a node under `askGo`: it is counted; where a word ends the word is tested and
handed to the callback, whose new state is kept, and the walk halts on `false`. -/
theorem enter_askGo (s : Sweep σ) (e : Bytes × Bool) :
    s.enter (askGo f) 0 e =
      if e.2 then
        { s with visited := s.visited + 1, tested := s.tested + 1, mind := (f s.mind e.1).1,
                 halted := s.halted || !(f s.mind e.1).2 }
      else { s with visited := s.visited + 1 } := by
  obtain ⟨p, b⟩ := e
  cases b
  · rfl
  · cases hgo : (f s.mind p).2 <;> simp [enter, test, askGo, hgo]

/-- A walk that is not halted ends with the callback's state after the words it was handed, and
enters the entries up to the one it stopped at. -/
theorem foldl_step_askGo (es : List (Bytes × Bool)) (s : Sweep σ) (hh : s.halted = false) :
    (es.foldl (step (askGo f) 0 false) s).mind =
        (handOver f s.mind ((es.filter (·.2)).map (·.1))).1 ∧
      (es.foldl (step (askGo f) 0 false) s).visited = s.visited + (untilStop f s.mind es).length := by
  induction es generalizing s with
  | nil => simp [handOver, untilStop]
  | cons e es ih =>
    have hstep : step (askGo f) 0 false s e = s.enter (askGo f) 0 e := by
      simp [step, blocked, hh]
    obtain ⟨p, b⟩ := e
    rw [List.foldl_cons, hstep, enter_askGo]
    cases b with
    | false =>
      -- no word ends here: the node is counted and the walk goes on
      obtain ⟨hm, hv⟩ := ih { s with visited := s.visited + 1 } hh
      simp only [Bool.false_eq_true, if_false]
      refine ⟨by simpa using hm, ?_⟩
      rw [hv, untilStop]
      simp only [Bool.false_eq_true, if_false, List.length_cons]
      omega
    | true =>
      simp only [if_true]
      cases hgo : (f s.mind p).2 with
      | false =>
        -- the callback stops: the walk is halted and enters nothing more
        rw [foldl_step_of_blocked]
        · simp [handOver, untilStop, hgo]
        · simp [blocked]
      | true =>
        -- the callback goes on, from the state this word left
        obtain ⟨hm, hv⟩ := ih
          { s with visited := s.visited + 1, tested := s.tested + 1, mind := (f s.mind p).1 }
          hh
        simp only [Bool.not_true, Bool.or_false]
        refine ⟨by simpa [handOver, hgo] using hm, ?_⟩
        rw [hv, untilStop]
        simp only [if_true, hgo, List.length_cons]
        omega

/-- When the callback never stops, the walk enters every entry. -/
theorem untilStop_of_handOver_none {m : σ} {es : List (Bytes × Bool)}
    (h : (handOver f m ((es.filter (·.2)).map (·.1))).2 = none) : untilStop f m es = es := by
  induction es generalizing m with
  | nil => rfl
  | cons e es ih =>
    obtain ⟨p, b⟩ := e
    cases b with
    | false =>
      rw [untilStop, if_neg (by simp), ih (by simpa using h)]
    | true =>
      -- the callback went on at this word, or it would have stopped here
      have hgo : (f m p).2 = true := by
        by_contra hgo
        simp [handOver, hgo] at h
      rw [untilStop, if_pos rfl, if_pos hgo, ih (by simpa [handOver, hgo] using h)]

/-- Along entries in strictly increasing path order, the entries up to the one whose word the
callback stops at are those whose path is at most that word. -/
theorem untilStop_eq_filter {m : σ} {es : List (Bytes × Bool)}
    (hs : (es.map (·.1)).Pairwise (· < ·)) {w : Bytes}
    (h : (handOver f m ((es.filter (·.2)).map (·.1))).2 = some w) :
    untilStop f m es = es.filter fun e => decide (e.1 ≤ w) := by
  induction es generalizing m with
  | nil => simp [handOver] at h
  | cons e es ih =>
    rw [List.map_cons, List.pairwise_cons] at hs
    -- every later path is past this entry's, so the word stopped at is at least this path
    have hlt : ∀ x ∈ es.map (·.1), e.1 < x := hs.1
    have hle : ∀ {m' : σ}, (handOver f m' ((es.filter (·.2)).map (·.1))).2 = some w → e.1 ≤ w :=
      fun h' => List.le_of_lt (hlt w ((List.filter_sublist.map _).subset (mem_of_handOver f h')))
    obtain ⟨p, b⟩ := e
    rw [untilStop, List.filter_cons]
    cases b with
    | false =>
      have h' : (handOver f m ((es.filter (·.2)).map (·.1))).2 = some w := by simpa using h
      rw [if_neg (by simp), ih hs.2 h', if_pos (by simpa using hle h')]
    | true =>
      rw [if_pos rfl]
      by_cases hgo : (f m p).2 = true
      · have h' : (handOver f (f m p).1 ((es.filter (·.2)).map (·.1))).2 = some w := by
          simpa [handOver, hgo] using h
        rw [if_pos hgo, ih hs.2 h', if_pos (by simpa using hle h')]
      · -- the callback stops at this word: nothing after it is entered
        obtain rfl : p = w := by simpa [handOver, hgo] using h
        have hrest : es.filter (fun x => decide (x.1 ≤ p)) = [] :=
          List.filter_eq_nil_iff.2 fun x hx => by
            simpa [List.not_le] using hlt x.1 (List.mem_map_of_mem hx)
        rw [if_neg hgo, if_pos (by simp), hrest]

end HandOver

/-- In a strictly increasing list, the elements up to one of its members number its position
counted from one. -/
theorem length_filter_le_eq_idxOf {l : List Bytes} (hl : l.Pairwise (· < ·)) {w : Bytes}
    (hw : w ∈ l) : (l.filter fun x => decide (x ≤ w)).length = l.idxOf w + 1 := by
  induction l with
  | nil => simp at hw
  | cons x l ih =>
    rw [List.pairwise_cons] at hl
    by_cases hxw : x = w
    · -- every later element is past `w`
      subst hxw
      have hrest : l.filter (fun y => decide (y ≤ x)) = [] :=
        List.filter_eq_nil_iff.2 fun y hy => by simpa [List.not_le] using hl.1 y hy
      rw [List.filter_cons, if_pos (by simp), hrest, List.idxOf_cons_self]
      rfl
    · have hwl : w ∈ l := (List.mem_cons.1 hw).resolve_left (Ne.symm hxw)
      rw [List.filter_cons, if_pos (by simpa using List.le_of_lt (hl.1 w hwl)), List.length_cons,
        ih hl.2 hwl, List.idxOf_cons_ne l hxw]

/-- After any sequence of insertions into an empty trie, with `S = letterWords ws` the stored
set and `l` its words in increasing order: a walk makes exactly the calls `handOver` makes along
`l`, from the least word on, and ends with the callback's state after them. When the callback
stops at a word, the walk has counted the nodes up to and including that word's node in walk
order, its position counted from the root as one, which is the number of strings of
`prefixes S` up to the word; when it never stops, every node of the trie. -/
theorem walk_of_insertAll (ws : List Bytes) {σ : Type} (f : σ → Bytes → σ × Bool) (init : σ) :
    ∃ l : List Bytes, l.Pairwise (· < ·) ∧ (∀ x, x ∈ l ↔ x ∈ letterWords ws) ∧
      ((Trie.empty.insertAll ws).walk f init).1 = (handOver f init l).1 ∧
      match (handOver f init l).2 with
      | some w =>
        ((Trie.empty.insertAll ws).walk f init).2.visited =
            ((Trie.empty.insertAll ws).root.paths []).idxOf w + 1 ∧
          ((Trie.empty.insertAll ws).walk f init).2.visited =
            ((prefixes (letterWords ws)).filter (· ≤ w)).card
      | none =>
        ((Trie.empty.insertAll ws).walk f init).2.visited = (Trie.empty.insertAll ws).nodeCount := by
  have hst := stores_insertAll ws
  set t := Trie.empty.insertAll ws
  have hwalk := foldl_step_askGo f (t.root.entries []) (start init) rfl
  have hsorted : ((t.root.entries []).map (·.1)).Pairwise (· < ·) :=
    Node.pairwise_paths hst.ordered []
  refine ⟨t.root.ends [], Node.pairwise_ends hst.ordered [], hst.mem_ends, ?_, ?_⟩
  · rw [walk_eq, hwalk.1]
    rfl
  · have hvisited : (t.walk f init).2.visited = (untilStop f init (t.root.entries [])).length := by
      rw [walk_eq, tally, hwalk.2]
      simp [start]
    split
    · -- stopped at `w`: the nodes whose paths are at most `w`
      rename_i w hw
      have hcount : (t.walk f init).2.visited = ((t.root.paths []).filter (· ≤ w)).length := by
        rw [hvisited, untilStop_eq_filter f hsorted hw, Node.paths, List.filter_map,
          List.length_map]
        rfl
      have hmem : w ∈ t.root.paths [] :=
        List.Sublist.subset (Node.ends_sublist_paths _ _) (mem_of_handOver f hw)
      refine ⟨hcount.trans (length_filter_le_eq_idxOf (Node.pairwise_paths hst.ordered []) hmem),
        hcount.trans ?_⟩
      rw [length_filter_eq_card (Node.pairwise_paths hst.ordered []).nodup hst.mem_paths]
      simp only [decide_eq_true_eq]
    · -- never stopped: every node
      rename_i hw
      rw [hvisited, untilStop_of_handOver_none f hw, ← hst.length_paths, Node.paths,
        List.length_map]

end WordSift.Trie
