import WordSift.Proofs.Trie.Collect

/-!
# How far a pruned walk goes

A walk that prunes returns before each child once its cap is reached. Under a fixed acceptance
test it therefore enters the nodes in walk order up to and including the one where the
`cap`-th accepted word ends, and no further (`untilKept`, `tally_foldl_keepIf_pruned`). Walk
order is increasing byte order, so these are the nodes whose paths are at most that word
(`untilKept_eq_filter`). When the cap is never reached, or there is none, the pruned walk enters
every node, as the full one does.

For a trie that stores a set `S`, a walk under a prefix `q` then reads off `S` alone
(`collect_of_insertAll`): it keeps the first `cap` accepted words of `S` that start with `q`, in
increasing order, with or without pruning; the full walk counts the prefixes of words of `S`
that extend `q` and tests the words of `S` that do; the pruned one counts those up to the last
word it keeps.
-/

namespace WordSift.Trie

open scoped List
open Sweep

/-! ### The entries a pruned walk enters -/

/-- The entries up to and including the one whose word is the `m`-th accepted, or all of them
when fewer are accepted. -/
def untilKept (accept : Bytes → Bool) : Nat → List (Bytes × Bool) → List (Bytes × Bool)
  | 0, _ => []
  | _, [] => []
  | m + 1, e :: es =>
    e :: if e.2 && accept e.1 then untilKept accept m es else untilKept accept (m + 1) es

section Accepted

variable (accept : Bytes → Bool)

theorem accepted_cons (e : Bytes × Bool) (es : List (Bytes × Bool)) :
    accepted accept (e :: es) =
      if e.2 && accept e.1 then e.1 :: accepted accept es else accepted accept es := by
  obtain ⟨p, b⟩ := e
  cases b <;> by_cases ha : accept p = true <;> simp [accepted, ha]

theorem mem_of_mem_accepted {es : List (Bytes × Bool)} {x : Bytes}
    (hx : x ∈ accepted accept es) : x ∈ es.map (·.1) := by
  simp only [accepted, List.mem_filter, List.mem_map] at hx
  obtain ⟨⟨e, he, rfl⟩, -⟩ := hx
  exact List.mem_map_of_mem he.1

@[simp] theorem untilKept_nil (m : Nat) : untilKept accept m [] = [] := by
  cases m <;> rfl

/-- With fewer accepted words than `m`, every entry is entered. -/
theorem untilKept_of_length_lt {m : Nat} {es : List (Bytes × Bool)}
    (h : (accepted accept es).length < m) : untilKept accept m es = es := by
  induction es generalizing m with
  | nil => exact untilKept_nil accept m
  | cons e es ih =>
    obtain ⟨k, rfl⟩ : ∃ k, m = k + 1 := Nat.exists_eq_succ_of_ne_zero (by omega)
    rw [accepted_cons] at h
    rw [untilKept]
    by_cases hk : (e.2 && accept e.1) = true
    · rw [if_pos hk, List.length_cons] at h
      rw [if_pos hk, ih (by omega)]
    · rw [if_neg hk] at h
      rw [if_neg hk, ih h]

/-- Along entries in strictly increasing order of paths, the entries up to the one holding the
`m + 1`-th accepted word are those whose path is at most that word. -/
theorem untilKept_eq_filter {es : List (Bytes × Bool)} (hs : (es.map (·.1)).Pairwise (· < ·))
    {m : Nat} {w : Bytes} (hw : (accepted accept es)[m]? = some w) :
    untilKept accept (m + 1) es = es.filter fun e => decide (e.1 ≤ w) := by
  induction es generalizing m with
  | nil => simp [accepted] at hw
  | cons e es ih =>
    rw [List.map_cons, List.pairwise_cons] at hs
    -- every later path is larger than this entry's, so the kept word is at least this path
    have hlt : ∀ x ∈ es.map (·.1), e.1 < x := hs.1
    have hle : ∀ x ∈ accepted accept es, e.1 ≤ x :=
      fun x hx => List.le_of_lt (hlt x (mem_of_mem_accepted accept hx))
    rw [accepted_cons] at hw
    rw [untilKept, List.filter_cons]
    by_cases hk : (e.2 && accept e.1) = true
    · rw [if_pos hk] at hw ⊢
      cases m with
      | zero =>
        -- this entry holds the word that fills the cap: nothing after it is entered
        obtain rfl : e.1 = w := by simpa using hw
        have hrest : es.filter (fun x => decide (x.1 ≤ e.1)) = [] :=
          List.filter_eq_nil_iff.2 fun x hx => by
            simpa [List.not_le] using hlt x.1 (List.mem_map_of_mem hx)
        simp [untilKept, hrest]
      | succ k =>
        rw [List.getElem?_cons_succ] at hw
        rw [ih hs.2 hw, if_pos (by simpa using hle w (List.mem_of_getElem? hw))]
    · rw [if_neg hk] at hw ⊢
      rw [ih hs.2 hw, if_pos (by simpa using hle w (List.mem_of_getElem? hw))]

end Accepted

/-! ### The tally of a pruned walk -/

theorem step_zero_prune {σ : Type} (judge : σ → Bytes → σ × Verdict) :
    step judge 0 true = step judge 0 false := by
  funext s e
  simp [step, blocked, full]

section Pruned

variable (accept : Bytes → Bool) {cap : Nat}

/-- A pruned walk under `keepIf` that was never halted and has not passed its cap enters
exactly the entries up to the one where its cap fills. -/
theorem tally_foldl_keepIf_pruned (hc : 0 < cap) (es : List (Bytes × Bool)) (s : Sweep Unit)
    (hh : s.halted = false) (hs : s.found.size ≤ cap) :
    (es.foldl (step (keepIf accept) cap true) s).visited =
        s.visited + (untilKept accept (cap - s.found.size) es).length ∧
      (es.foldl (step (keepIf accept) cap true) s).tested =
        s.tested + ((untilKept accept (cap - s.found.size) es).filter (·.2)).length := by
  induction es generalizing s with
  | nil => simp
  | cons e es ih =>
    by_cases hf : s.found.size = cap
    · -- the cap is reached: the walk is blocked and enters nothing more
      have hb : s.blocked cap true = true := by simp [blocked, full, hc, hf]
      rw [foldl_step_of_blocked _ _ _ hb, hf, Nat.sub_self]
      simp [untilKept]
    · -- room for one more word: the entry is entered
      have hfull : s.full cap = false := by simp [full]; omega
      have hstep : step (keepIf accept) cap true s e = s.enter (keepIf accept) cap e := by
        rw [step, if_neg (by simp [blocked, hh, hfull])]
      obtain ⟨k, hk⟩ : ∃ k, cap - s.found.size = k + 1 := ⟨cap - s.found.size - 1, by omega⟩
      have hh' : (s.enter (keepIf accept) cap e).halted = false := by rw [enter_keepIf]; exact hh
      have hroom : cap - (s.enter (keepIf accept) cap e).found.size =
          if e.2 && accept e.1 then k else k + 1 := by
        rw [enter_keepIf, hfull, Bool.not_false, Bool.and_true]
        split <;> simp <;> omega
      have hs' : (s.enter (keepIf accept) cap e).found.size ≤ cap := by
        rw [enter_keepIf]
        split <;> simp <;> omega
      obtain ⟨hv, ht⟩ := ih _ hh' hs'
      rw [List.foldl_cons, hstep, hv, ht, hroom, hk, untilKept, visited_enter, tested_enter]
      obtain ⟨p, b⟩ := e
      cases b
      · simp
        omega
      · cases accept p <;> simp <;> omega

end Pruned

/-! ### Collecting under a prefix, read off the whole trie -/

attribute [ext] Tally

/-- With a cap, the pruned walk from the node a prefix leads to counts the entries up to the one
where its cap fills. -/
theorem collect_pruned_tally_of_find? {t : Trie} {q : Bytes} {n : Node} (hq : t.find? q = some n)
    (accept : Bytes → Bool) {cap : Nat} (hc : 0 < cap) :
    (t.collect accept cap true q).2.visited = (untilKept accept cap (n.entries q)).length ∧
      (t.collect accept cap true q).2.tested =
        ((untilKept accept cap (n.entries q)).filter (·.2)).length := by
  obtain ⟨hv, ht⟩ := tally_foldl_keepIf_pruned accept hc (n.entries q) (start ()) rfl
    (by simp [start])
  rw [collect_eq_of_find? hq]
  simpa [start, tally] using And.intro hv ht

/-- The words of the trie that start with `q`, in walk order. -/
def endsUnder (t : Trie) (q : Bytes) : List Bytes := (t.root.ends []).filter (q <+: ·)

/-- The paths of the nodes of the trie that extend `q`, in walk order. -/
def pathsUnder (t : Trie) (q : Bytes) : List Bytes := (t.root.paths []).filter (q <+: ·)

section Collect

variable {t : Trie} (h : t.root.Ordered) (accept : Bytes → Bool) (cap : Nat) (q : Bytes)
include h

theorem endsUnder_of_find?_none (hq : t.find? q = none) : endsUnder t q = [] := by
  refine List.filter_eq_nil_iff.2 fun x hx hpre => ?_
  obtain ⟨y, rfl, hy⟩ := (Node.mem_ends h [] x).1 hx
  have hfound := Node.isSome_find?_of_prefix (Node.isSome_find?_of_holds hy) (by simpa using hpre)
  rw [show t.root.find? q = none from hq] at hfound
  cases hfound

theorem pathsUnder_of_find?_none (hq : t.find? q = none) : pathsUnder t q = [] := by
  refine List.filter_eq_nil_iff.2 fun x hx hpre => ?_
  obtain ⟨y, rfl, hy⟩ := (Node.mem_paths h [] x).1 hx
  have hfound := Node.isSome_find?_of_prefix hy (by simpa using hpre)
  rw [show t.root.find? q = none from hq] at hfound
  cases hfound

section Found

variable {n : Node} (hq : t.find? q = some n)
include hq

theorem endsUnder_of_find? : endsUnder t q = n.ends q :=
  (Node.ends_find? h hq).symm

theorem pathsUnder_of_find? : pathsUnder t q = n.paths q :=
  (Node.paths_find? h hq).symm

theorem accepted_entries_of_find? :
    accepted accept (n.entries q) = (endsUnder t q).filter accept := by
  rw [endsUnder_of_find? h q hq]
  rfl

end Found

/-- Under any prefix, with or without pruning, the kept words are the first `cap` accepted
words of the trie that start with the prefix. -/
theorem collect_fst_eq_upTo (prune : Bool) :
    (t.collect accept cap prune q).1 = upTo cap ((endsUnder t q).filter accept) := by
  cases hq : t.find? q with
  | none =>
    rw [collect_of_find?_none hq, endsUnder_of_find?_none h q hq]
    simp [upTo]
  | some n => rw [collect_of_find?_fst hq, endsUnder_of_find? h q hq]

/-- The full walk under `q` counts every node under `q` and tests every word there. -/
theorem collect_unpruned_tally :
    (t.collect accept cap false q).2.visited = (pathsUnder t q).length ∧
      (t.collect accept cap false q).2.tested = (endsUnder t q).length := by
  cases hq : t.find? q with
  | none =>
    rw [collect_of_find?_none hq, endsUnder_of_find?_none h q hq,
      pathsUnder_of_find?_none h q hq]
    exact ⟨rfl, rfl⟩
  | some n =>
    rw [collect_unpruned_visited hq, collect_unpruned_tested hq, pathsUnder_of_find? h q hq,
      endsUnder_of_find? h q hq]
    exact ⟨rfl, rfl⟩

/-- When fewer words are accepted than the cap, or there is no cap, pruning changes no count. -/
theorem collect_pruned_tally_of_short
    (hs : cap = 0 ∨ ((endsUnder t q).filter accept).length < cap) :
    (t.collect accept cap true q).2 = (t.collect accept cap false q).2 := by
  have ha : (t.collect accept cap true q).2.accepted = (t.collect accept cap false q).2.accepted := by
    rw [collect_accepted, collect_accepted, collect_fst_eq_upTo h, collect_fst_eq_upTo h]
  cases hq : t.find? q with
  | none => rw [collect_of_find?_none hq, collect_of_find?_none hq]
  | some n =>
    rcases hs with rfl | hs
    · rw [collect_eq_of_find? hq, collect_eq_of_find? hq, step_zero_prune]
    · -- the cap never fills, so the pruned walk enters every entry
      have hall : untilKept accept cap (n.entries q) = n.entries q :=
        untilKept_of_length_lt accept (by rwa [accepted_entries_of_find? h accept q hq])
      obtain ⟨hv, ht⟩ := collect_pruned_tally_of_find? hq accept (show 0 < cap by omega)
      rw [hall] at hv ht
      refine Tally.ext ?_ ?_ ha
      · rw [hv, collect_unpruned_visited hq, Node.paths, List.length_map]
      · rw [ht, collect_unpruned_tested hq, Node.ends, List.length_map]

/-- When the cap fills, the pruned walk under `q` counts the nodes under `q` whose paths are at
most the last kept word, and tests the words there up to it. -/
theorem collect_pruned_tally_of_full (hc : 0 < cap) {w : Bytes}
    (hw : ((endsUnder t q).filter accept)[cap - 1]? = some w) :
    (t.collect accept cap true q).2.visited = ((pathsUnder t q).filter (· ≤ w)).length ∧
      (t.collect accept cap true q).2.tested = ((endsUnder t q).filter (· ≤ w)).length := by
  cases hq : t.find? q with
  | none =>
    rw [endsUnder_of_find?_none h q hq] at hw
    simp at hw
  | some n =>
    have hsorted : ((n.entries q).map (·.1)).Pairwise (· < ·) :=
      Node.pairwise_paths (Node.ordered_of_find? h hq) q
    obtain ⟨hv, ht⟩ := collect_pruned_tally_of_find? hq accept hc
    obtain ⟨k, rfl⟩ : ∃ k, cap = k + 1 := ⟨cap - 1, by omega⟩
    have hupto : untilKept accept (k + 1) (n.entries q) =
        (n.entries q).filter fun e => decide (e.1 ≤ w) :=
      untilKept_eq_filter accept hsorted (by simpa [accepted_entries_of_find? h accept q hq] using hw)
    rw [hupto] at hv ht
    rw [hv, ht, pathsUnder_of_find? h q hq, endsUnder_of_find? h q hq, Node.paths, Node.ends,
      List.filter_map, List.filter_map, List.length_map, List.length_map, List.filter_filter,
      List.filter_filter]
    simp [Function.comp_def, Bool.and_comm]

end Collect

/-! ### Counting against the stored set -/

/-- A list without repeats that has the members of a finite set: its members passing a test
are as many as those of the set. -/
theorem length_filter_eq_card {L : List Bytes} {F : Finset Bytes} (hL : L.Nodup)
    (hmem : ∀ x, x ∈ L ↔ x ∈ F) (f : Bytes → Bool) :
    (L.filter f).length = (F.filter fun x => f x = true).card := by
  rw [← List.toFinset_card_of_nodup (hL.filter f), List.toFinset_filter]
  congr 1
  ext x
  simp [hmem]

namespace Stores

variable {t : Trie} {S : Finset Bytes} (h : t.Stores S) (q : Bytes)
include h

/-- The nodes under `q` passing a test are the prefixes of stored words, and the empty path,
that extend `q` and pass it. -/
theorem length_filter_pathsUnder (p : Bytes → Prop) [DecidablePred p] :
    ((pathsUnder t q).filter fun x => decide (p x)).length =
      ((prefixes S).filter fun x => q <+: x ∧ p x).card := by
  rw [pathsUnder, List.filter_filter,
    length_filter_eq_card (Node.pairwise_paths h.ordered []).nodup h.mem_paths]
  congr 1
  ext x
  simp [and_comm]

/-- The words under `q` passing a test are the stored words that start with `q` and pass it. -/
theorem length_filter_endsUnder (p : Bytes → Prop) [DecidablePred p] :
    ((endsUnder t q).filter fun x => decide (p x)).length =
      (S.filter fun x => q <+: x ∧ p x).card := by
  rw [endsUnder, List.filter_filter,
    length_filter_eq_card (Node.pairwise_ends h.ordered []).nodup h.mem_ends]
  congr 1
  ext x
  simp [and_comm]

theorem length_pathsUnder : (pathsUnder t q).length = ((prefixes S).filter (q <+: ·)).card := by
  simpa using length_filter_pathsUnder h q fun _ => True

theorem length_endsUnder : (endsUnder t q).length = (S.filter (q <+: ·)).card := by
  simpa using length_filter_endsUnder h q fun _ => True

theorem mem_endsUnder_filter (accept : Bytes → Bool) (x : Bytes) :
    x ∈ (endsUnder t q).filter accept ↔ x ∈ S ∧ q <+: x ∧ accept x = true := by
  simp only [endsUnder, List.mem_filter, h.mem_ends, decide_eq_true_eq]
  tauto

end Stores

/-- After any sequence of insertions into an empty trie, with `S = letterWords ws` the stored
set: a walk under a prefix `q` keeps, with or without pruning, the first `cap` (all when `cap`
is `0`) of the words of `S` that start with `q` and are accepted, in increasing order, and
reports as accepted as many as it keeps. The full walk counts the strings of `prefixes S` that
extend `q` and tests the words of `S` that start with `q`. When the cap fills, the pruned walk
counts and tests only those up to the last word it keeps; otherwise it counts as the full walk
does. -/
theorem collect_of_insertAll (ws : List Bytes) (accept : Bytes → Bool) (cap : Nat) (q : Bytes) :
    ∃ l : List Bytes, l.Pairwise (· < ·) ∧
      (∀ x, x ∈ l ↔ x ∈ letterWords ws ∧ q <+: x ∧ accept x = true) ∧
      (∀ prune, ((Trie.empty.insertAll ws).collect accept cap prune q).1 = upTo cap l ∧
        ((Trie.empty.insertAll ws).collect accept cap prune q).2.accepted =
          ((Trie.empty.insertAll ws).collect accept cap prune q).1.length) ∧
      ((Trie.empty.insertAll ws).collect accept cap false q).2.visited =
        ((prefixes (letterWords ws)).filter (q <+: ·)).card ∧
      ((Trie.empty.insertAll ws).collect accept cap false q).2.tested =
        ((letterWords ws).filter (q <+: ·)).card ∧
      (0 < cap → cap ≤ l.length → ∃ w, (upTo cap l).getLast? = some w ∧
        ((Trie.empty.insertAll ws).collect accept cap true q).2.visited =
          ((prefixes (letterWords ws)).filter fun x => q <+: x ∧ x ≤ w).card ∧
        ((Trie.empty.insertAll ws).collect accept cap true q).2.tested =
          ((letterWords ws).filter fun x => q <+: x ∧ x ≤ w).card) ∧
      (cap = 0 ∨ l.length < cap →
        ((Trie.empty.insertAll ws).collect accept cap true q).2 =
          ((Trie.empty.insertAll ws).collect accept cap false q).2) := by
  have hst := stores_insertAll ws
  have hord := hst.ordered
  refine ⟨(endsUnder _ q).filter accept, ?_, hst.mem_endsUnder_filter q accept,
    fun prune => ⟨collect_fst_eq_upTo hord accept cap q prune, collect_accepted _ _ _ _ _⟩,
    ?_, ?_, fun hc hl => ?_, collect_pruned_tally_of_short hord accept cap q⟩
  · exact (Node.pairwise_ends hord []).sublist (List.filter_sublist.trans List.filter_sublist)
  · rw [(collect_unpruned_tally hord accept cap q).1, hst.length_pathsUnder]
  · rw [(collect_unpruned_tally hord accept cap q).2, hst.length_endsUnder]
  · have hlt : cap - 1 < ((endsUnder (Trie.empty.insertAll ws) q).filter accept).length := by
      omega
    refine ⟨((endsUnder (Trie.empty.insertAll ws) q).filter accept)[cap - 1], ?_, ?_⟩
    · rw [upTo, if_neg (by omega), List.getLast?_take, if_neg (by omega),
        List.getElem?_eq_getElem hlt, Option.some_or]
    obtain ⟨hv, ht⟩ := collect_pruned_tally_of_full hord accept cap q hc
      (List.getElem?_eq_getElem hlt)
    exact ⟨hv.trans (hst.length_filter_pathsUnder q _), ht.trans (hst.length_filter_endsUnder q _)⟩

end WordSift.Trie
