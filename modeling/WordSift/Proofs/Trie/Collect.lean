import WordSift.Trie.Walk
import WordSift.Proofs.Trie.Entries

/-!
# What a walk collects

A walk is a fold over the nodes in walk order (`visit_eq`, `visit_start`): each node is entered
(`Sweep.enter`: counted, and its word tested) unless the walk is blocked by then, halted or,
when pruning, with the cap reached (`Sweep.step`). The check happens before each child, but a
blocked walk stays blocked, so checking before every node says the same.

`collect` never halts. Its kept words are then the first `cap` of the accepted words under the
prefix, in walk order, whether it prunes or not (`collect_of_find?_fst`): once the cap is
reached an entered node keeps nothing more, so skipping it changes no kept word. Without
pruning every node under the prefix is counted and every word tested; with it, at most those.
-/

namespace WordSift.Trie

open scoped List

/-- The first `cap` elements of a list, or all of them when `cap` is `0`. -/
def upTo {α : Type} (cap : Nat) (l : List α) : List α := if cap = 0 then l else l.take cap

theorem upTo_of_length_le {α : Type} {cap : Nat} {l : List α} (h : cap = 0 ∨ l.length ≤ cap) :
    upTo cap l = l := by
  unfold upTo
  split
  · rfl
  · exact List.take_of_length_le (by omega)

theorem length_upTo_le {α : Type} {cap : Nat} (hc : cap ≠ 0) (l : List α) :
    (upTo cap l).length ≤ cap := by
  rw [upTo, if_neg hc]
  exact List.length_take_le _ _

/-- Once `cap` elements are there, later ones are cut off. -/
theorem upTo_append_of_length_eq {α : Type} {cap : Nat} {l : List α} (r : List α)
    (hc : cap ≠ 0) (h : l.length = cap) : upTo cap (l ++ r) = l := by
  rw [upTo, if_neg hc, List.take_append_of_le_length (by omega), List.take_of_length_le (by omega)]

namespace Sweep

variable {σ : Type} (judge : σ → Bytes → σ × Verdict) (cap : Nat) (prune : Bool)

/-- Entering a node with path and end mark `e`: it is counted, and the word ending there is
tested. -/
def enter (s : Sweep σ) (e : Bytes × Bool) : Sweep σ :=
  let s := { s with visited := s.visited + 1 }
  if e.2 then s.test judge cap e.1 else s

/-- What the walk checks before each child: it has been halted, or it prunes and the cap is
reached. -/
def blocked (s : Sweep σ) : Bool := s.halted || (prune && s.full cap)

/-- One node in walk order: entered unless the walk is blocked. -/
def step (s : Sweep σ) (e : Bytes × Bool) : Sweep σ :=
  if s.blocked cap prune then s else s.enter judge cap e

theorem foldl_step_of_blocked {s : Sweep σ} (h : s.blocked cap prune = true)
    (es : List (Bytes × Bool)) : es.foldl (step judge cap prune) s = s := by
  induction es with
  | nil => rfl
  | cons e es ih => rw [List.foldl_cons, step, if_pos h, ih]

theorem visited_test (w : Bytes) (s : Sweep σ) : (s.test judge cap w).visited = s.visited := by
  unfold test
  dsimp only
  split <;> (try split) <;> rfl

theorem tested_test (w : Bytes) (s : Sweep σ) : (s.test judge cap w).tested = s.tested + 1 := by
  unfold test
  dsimp only
  split <;> (try split) <;> rfl

theorem visited_enter (s : Sweep σ) (e : Bytes × Bool) :
    (s.enter judge cap e).visited = s.visited + 1 := by
  unfold enter
  split
  · exact visited_test judge cap _ _
  · rfl

theorem tested_enter (s : Sweep σ) (e : Bytes × Bool) :
    (s.enter judge cap e).tested = s.tested + if e.2 then 1 else 0 := by
  unfold enter
  split
  · rw [tested_test]
  · rfl

theorem full_start (m : σ) : (start m).full cap = false := by
  simp only [full, start, List.size_toArray, List.length_nil, Bool.and_eq_false_iff,
    decide_eq_false_iff_not]
  omega

end Sweep

open Sweep

section Fold

variable {σ : Type} (judge : σ → Bytes → σ × Verdict) (cap : Nat) (prune : Bool)

mutual
/-- Visiting a node enters it and then folds `step` over the nodes below it. -/
theorem visit_eq : ∀ (n : Node) (path : Bytes) (s : Sweep σ),
    visit judge cap prune n path s =
      if s.halted then s
      else (Node.kidsEntries n.kids path).foldl (step judge cap prune)
        (s.enter judge cap (path, n.stop))
  | .node stop ks, path, s => by
    rw [visit]
    split
    · rfl
    · rw [visitKids_eq]
      rfl
termination_by n => sizeOf n

/-- Visiting the children folds `step` over the nodes below them. -/
theorem visitKids_eq : ∀ (ks : List (UInt8 × Node)) (path : Bytes) (s : Sweep σ),
    visitKids judge cap prune ks path s =
      (Node.kidsEntries ks path).foldl (step judge cap prune) s
  | [], _, _ => rfl
  | (c, t) :: rest, path, s => by
    have hblocked : (s.halted || (prune && s.full cap)) = s.blocked cap prune := rfl
    rw [visitKids, hblocked, Node.kidsEntries, List.foldl_append]
    by_cases hb : s.blocked cap prune = true
    · rw [if_pos hb, foldl_step_of_blocked judge cap prune hb,
        foldl_step_of_blocked judge cap prune hb]
    · -- not blocked: the child is entered, then the rest of the fold carries on from it
      have hh : s.halted = false := by simp_all [blocked]
      obtain ⟨stop, ks⟩ := t
      rw [if_neg hb, visit_eq, if_neg (by simp [hh]), visitKids_eq, Node.entries,
        List.foldl_cons, step, if_neg hb]
      rfl
termination_by ks => sizeOf ks
end

/-- A walk from the start is a fold of `step` over the entries of the node. -/
theorem visit_start (n : Node) (path : Bytes) (m : σ) :
    visit judge cap prune n path (start m) =
      (n.entries path).foldl (step judge cap prune) (start m) := by
  obtain ⟨stop, ks⟩ := n
  rw [visit_eq, Node.entries, List.foldl_cons, step, blocked, full_start]
  simp [start]
  rfl

theorem length_filter_snd_cons (e : Bytes × Bool) (es : List (Bytes × Bool)) :
    ((e :: es).filter (·.2)).length = (es.filter (·.2)).length + if e.2 then 1 else 0 := by
  obtain ⟨p, b⟩ := e
  cases b <;> simp

/-- A walk counts at most the nodes and tests at most the words it is given. -/
theorem tally_foldl_le (es : List (Bytes × Bool)) (s : Sweep σ) :
    (es.foldl (step judge cap prune) s).visited ≤ s.visited + es.length ∧
      (es.foldl (step judge cap prune) s).tested ≤ s.tested + (es.filter (·.2)).length := by
  induction es generalizing s with
  | nil => simp
  | cons e es ih =>
    obtain ⟨hv, ht⟩ := ih (step judge cap prune s e)
    -- one step counts at most its own node and tests at most its own word
    have hv1 : (step judge cap prune s e).visited ≤ s.visited + 1 := by
      unfold step
      split
      · omega
      · rw [visited_enter]
    have ht1 : (step judge cap prune s e).tested ≤ s.tested + if e.2 then 1 else 0 := by
      unfold step
      split
      · omega
      · rw [tested_enter]
    rw [List.foldl_cons, List.length_cons, length_filter_snd_cons]
    exact ⟨by omega, by omega⟩

end Fold

/-! ### The walk `collect` makes -/

/-- The judge of `collect`: keep what `accept` takes, skip the rest. -/
def keepIf (accept : Bytes → Bool) (_ : Unit) (w : Bytes) : Unit × Verdict :=
  ((), if accept w then .keep else .skip)

/-- The words among entries that `accept` takes, in order. -/
def accepted (accept : Bytes → Bool) (es : List (Bytes × Bool)) : List Bytes :=
  ((es.filter (·.2)).map (·.1)).filter accept

theorem collect_eq_of_find? {t : Trie} {pre : Bytes} {n : Node} (hn : t.find? pre = some n)
    (accept : Bytes → Bool) (cap : Nat) (prune : Bool) :
    t.collect accept cap prune pre =
      (((n.entries pre).foldl (step (keepIf accept) cap prune) (start ())).found.toList,
        ((n.entries pre).foldl (step (keepIf accept) cap prune) (start ())).tally) := by
  rw [collect, hn]
  exact congrArg (fun s => (s.found.toList, s.tally)) (visit_start _ _ _ n pre ())

theorem collect_of_find?_none {t : Trie} {pre : Bytes} (hn : t.find? pre = none)
    (accept : Bytes → Bool) (cap : Nat) (prune : Bool) :
    t.collect accept cap prune pre = ([], ⟨0, 0, 0⟩) := by
  rw [collect, hn]

section Keep

variable (accept : Bytes → Bool) (cap : Nat) (prune : Bool)

/-- Entering a node under `keepIf`: counted, tested if a word ends there, and the word kept
when accepted and the cap is not reached. -/
theorem enter_keepIf (e : Bytes × Bool) (s : Sweep Unit) :
    s.enter (keepIf accept) cap e =
      { s with
        visited := s.visited + 1
        tested := if e.2 then s.tested + 1 else s.tested
        found := if e.2 && accept e.1 && !s.full cap then s.found.push e.1 else s.found } := by
  obtain ⟨p, b⟩ := e
  cases b
  · simp [enter]
  · cases ha : accept p <;> cases hf : s.full cap <;> simp_all [enter, test, keepIf, full]

theorem halted_step_keepIf (e : Bytes × Bool) (s : Sweep Unit) :
    (step (keepIf accept) cap prune s e).halted = s.halted := by
  unfold step
  split
  · rfl
  · rw [enter_keepIf]

/-- One step under `keepIf` on a walk that was never halted: the word is kept when a word
ends there, it is accepted and the cap is not reached. A blocked step keeps nothing, and it is
blocked only when the cap is reached. -/
theorem found_step_keepIf {s : Sweep Unit} (hh : s.halted = false) (e : Bytes × Bool) :
    (step (keepIf accept) cap prune s e).found =
      if e.2 && accept e.1 && !s.full cap then s.found.push e.1 else s.found := by
  unfold step
  split
  · rename_i hb
    have hf : s.full cap = true := by simp_all [blocked]
    simp [hf]
  · rw [enter_keepIf]

/-- The kept words are the first `cap` of those kept before and the accepted words of the
entries, with or without pruning. -/
theorem found_foldl_keepIf (es : List (Bytes × Bool)) (s : Sweep Unit)
    (hh : s.halted = false) (hs : cap = 0 ∨ s.found.size ≤ cap) :
    (es.foldl (step (keepIf accept) cap prune) s).found.toList =
      upTo cap (s.found.toList ++ accepted accept es) := by
  induction es generalizing s with
  | nil =>
    simp only [List.foldl_nil, accepted, List.filter_nil, List.map_nil, List.append_nil]
    exact (upTo_of_length_le (by rw [Array.length_toList]; exact hs)).symm
  | cons e es ih =>
    obtain ⟨p, b⟩ := e
    rw [List.foldl_cons]
    have hh' := (halted_step_keepIf accept cap prune (p, b) s).trans hh
    have hstep := found_step_keepIf accept cap prune hh (p, b)
    by_cases hf : s.full cap = true
    · -- the cap is reached: nothing more is kept, on either side
      have hcap : cap ≠ 0 ∧ s.found.size = cap := by
        simp only [full, Bool.and_eq_true, decide_eq_true_eq] at hf
        omega
      have hs' : (step (keepIf accept) cap prune s (p, b)).found = s.found := by
        simp [hstep, hf]
      have hlen : s.found.toList.length = cap := by rw [Array.length_toList]; exact hcap.2
      rw [ih _ hh' (by rw [hs']; omega), hs', upTo_append_of_length_eq _ hcap.1 hlen,
        upTo_append_of_length_eq _ hcap.1 hlen]
    · have hf' : s.full cap = false := by simpa using hf
      have hroom : cap = 0 ∨ s.found.size + 1 ≤ cap := by
        simp only [full, Bool.and_eq_false_iff, decide_eq_false_iff_not] at hf'
        omega
      rw [hf', Bool.not_false, Bool.and_true] at hstep
      have hs' : cap = 0 ∨ (step (keepIf accept) cap prune s (p, b)).found.size ≤ cap := by
        rw [hstep]
        split
        · rw [Array.size_push]
          omega
        · exact hs
      rw [ih _ hh' hs', hstep]
      by_cases hk : (b && accept p) = true
      · -- the word is kept
        obtain ⟨rfl, hp⟩ : b = true ∧ accept p = true := by simpa using hk
        simp [accepted, hp]
      · rw [if_neg hk]
        cases b <;> simp_all [accepted]

/-- Without pruning a walk that never halts counts every node and tests every word it is given. -/
theorem tally_foldl_keepIf_unpruned (es : List (Bytes × Bool)) (s : Sweep Unit)
    (hh : s.halted = false) :
    (es.foldl (step (keepIf accept) cap false) s).visited = s.visited + es.length ∧
      (es.foldl (step (keepIf accept) cap false) s).tested =
        s.tested + (es.filter (·.2)).length := by
  induction es generalizing s with
  | nil => simp
  | cons e es ih =>
    have hstep : step (keepIf accept) cap false s e = s.enter (keepIf accept) cap e := by
      simp [step, blocked, hh]
    have hh' : (s.enter (keepIf accept) cap e).halted = false := by
      rw [← hstep, halted_step_keepIf]
      exact hh
    obtain ⟨hv, ht⟩ := ih _ hh'
    rw [List.foldl_cons, hstep, hv, ht, visited_enter, tested_enter, List.length_cons,
      length_filter_snd_cons]
    exact ⟨by omega, by omega⟩

end Keep

/-! ### Collecting under a prefix -/

section Collect

variable {t : Trie} {pre : Bytes} {n : Node} (hn : t.find? pre = some n)
  (accept : Bytes → Bool) (cap : Nat) (prune : Bool)
include hn

/-- The kept words are the first `cap` accepted words under the prefix, in walk order. -/
theorem collect_of_find?_fst :
    (t.collect accept cap prune pre).1 = upTo cap ((n.ends pre).filter accept) := by
  rw [collect_eq_of_find? hn, found_foldl_keepIf _ _ _ _ _ rfl (by simp [start])]
  rfl

theorem collect_visited_le :
    (t.collect accept cap prune pre).2.visited ≤ (n.paths pre).length := by
  rw [collect_eq_of_find? hn]
  simpa [tally, start, Node.paths] using (tally_foldl_le (keepIf accept) cap prune _ (start ())).1

theorem collect_tested_le :
    (t.collect accept cap prune pre).2.tested ≤ (n.ends pre).length := by
  rw [collect_eq_of_find? hn]
  simpa [tally, start, Node.ends] using (tally_foldl_le (keepIf accept) cap prune _ (start ())).2

theorem collect_unpruned_visited :
    (t.collect accept cap false pre).2.visited = (n.paths pre).length := by
  rw [collect_eq_of_find? hn]
  simpa [tally, start, Node.paths] using
    (tally_foldl_keepIf_unpruned accept cap _ (start ()) rfl).1

theorem collect_unpruned_tested :
    (t.collect accept cap false pre).2.tested = (n.ends pre).length := by
  rw [collect_eq_of_find? hn]
  simpa [tally, start, Node.ends] using
    (tally_foldl_keepIf_unpruned accept cap _ (start ()) rfl).2

end Collect

/-- A walk reports as accepted the words it keeps. -/
theorem collect_accepted (t : Trie) (accept : Bytes → Bool) (cap : Nat) (prune : Bool)
    (pre : Bytes) :
    (t.collect accept cap prune pre).2.accepted = (t.collect accept cap prune pre).1.length := by
  cases hn : t.find? pre with
  | none =>
    rw [collect_of_find?_none hn]
    rfl
  | some n =>
    rw [collect_eq_of_find? hn]
    simp [tally]

section Whole

variable {t : Trie} (h : t.root.Ordered) (accept : Bytes → Bool) (cap : Nat) (prune : Bool)
  (pre : Bytes)
include h

/-- A walk under any prefix counts at most the nodes of the whole trie. -/
theorem collect_visited_le_paths :
    (t.collect accept cap prune pre).2.visited ≤ (t.root.paths []).length := by
  cases hn : t.find? pre with
  | none =>
    rw [collect_of_find?_none hn]
    exact Nat.zero_le _
  | some n =>
    calc (t.collect accept cap prune pre).2.visited
        ≤ (n.paths pre).length := collect_visited_le hn accept cap prune
      _ = ((t.root.paths []).filter (pre <+: ·)).length := by rw [Node.paths_find? h hn]
      _ ≤ (t.root.paths []).length := List.length_filter_le _ _

/-- A walk under any prefix tests at most the words of the whole trie. -/
theorem collect_tested_le_ends :
    (t.collect accept cap prune pre).2.tested ≤ (t.root.ends []).length := by
  cases hn : t.find? pre with
  | none =>
    rw [collect_of_find?_none hn]
    exact Nat.zero_le _
  | some n =>
    calc (t.collect accept cap prune pre).2.tested
        ≤ (n.ends pre).length := collect_tested_le hn accept cap prune
      _ = ((t.root.ends []).filter (pre <+: ·)).length := by rw [Node.ends_find? h hn]
      _ ≤ (t.root.ends []).length := List.length_filter_le _ _

end Whole

/-! ### The words of a trie that stores a set -/

theorem find?_nil (t : Trie) : t.find? [] = some t.root :=
  rfl

/-- A trie lists its words in walk order. -/
theorem words_eq_ends (t : Trie) : t.words = t.root.ends [] := by
  rw [words, collect_of_find?_fst (find?_nil t), upTo, if_pos rfl, List.filter_true]

namespace Stores

variable {t : Trie} {S : Finset Bytes}

theorem mem_ends (h : t.Stores S) (x : Bytes) : x ∈ t.root.ends [] ↔ x ∈ S := by
  rw [Node.mem_ends h.ordered, ← h.holds_iff]
  simp

theorem mem_paths (h : t.Stores S) (x : Bytes) : x ∈ t.root.paths [] ↔ x ∈ prefixes S := by
  rw [Node.mem_paths h.ordered, ← h.found_iff]
  simp

/-- A trie holds as many words as its word counter says. -/
theorem length_ends (h : t.Stores S) : (t.root.ends []).length = t.wordCount := by
  rw [h.wordCount_eq, ← List.toFinset_card_of_nodup (Node.pairwise_ends h.ordered []).nodup]
  congr 1
  ext x
  rw [List.mem_toFinset, h.mem_ends]

/-- A trie has as many nodes as its node counter says. -/
theorem length_paths (h : t.Stores S) : (t.root.paths []).length = t.nodeCount := by
  rw [h.nodeCount_eq, ← List.toFinset_card_of_nodup (Node.pairwise_paths h.ordered []).nodup]
  congr 1
  ext x
  rw [List.mem_toFinset, h.mem_paths]

end Stores

/-- After any sequence of insertions into an empty trie, with `letterWords ws` the inserted
words made of letters only: an insertion is refused exactly when its word holds another byte,
and a refused one changes nothing; `contains` is membership of the set; `hasPrefix` holds of the
empty word and of the prefixes of its words; the counters are the sizes of the set and of that
set of prefixes; and `words` lists the set in strictly increasing order. -/
theorem answers_of_insertAll (ws : List Bytes) :
    (∀ w, (Trie.empty.insertAll ws).insert w = .error .badKey ↔
      ∃ b ∈ w, Bytes.isLetter b = false) ∧
    (∀ w, (∃ b ∈ w, Bytes.isLetter b = false) →
      Trie.empty.insertAll (ws ++ [w]) = Trie.empty.insertAll ws) ∧
    (∀ x, (Trie.empty.insertAll ws).contains x = true ↔ x ∈ letterWords ws) ∧
    (∀ x, (Trie.empty.insertAll ws).hasPrefix x = true ↔
      x = [] ∨ ∃ s ∈ letterWords ws, x <+: s) ∧
    (Trie.empty.insertAll ws).wordCount = (letterWords ws).card ∧
    (Trie.empty.insertAll ws).nodeCount =
      ({[]} ∪ (letterWords ws).biUnion fun s => s.inits.toFinset).card ∧
    (Trie.empty.insertAll ws).words.Pairwise (· < ·) ∧
    ∀ x, x ∈ (Trie.empty.insertAll ws).words ↔ x ∈ letterWords ws := by
  have h := stores_insertAll ws
  refine ⟨fun w => insert_eq_error_iff, fun w hw => ?_, h.contains_iff, h.hasPrefix_iff,
    h.wordCount_eq, ?_, ?_, ?_⟩
  · -- a refused word is passed over by the fold
    simp only [insertAll, List.foldl_append, List.foldl_cons, List.foldl_nil,
      insert_eq_error_iff.2 hw]
  · rw [h.nodeCount_eq, prefixes, Finset.insert_eq]
  · rw [words_eq_ends]
    exact Node.pairwise_ends h.ordered []
  · intro x
    rw [words_eq_ends, h.mem_ends]

end WordSift.Trie
