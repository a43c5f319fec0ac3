import WordSift.Selector
import WordSift.Proofs.Lcs
import WordSift.Proofs.Pattern.Prefix
import WordSift.Proofs.Trie.Collect

/-!
# What a selection returns

A selector made by `new` and loaded with a list of words holds a trie storing the list's
letter words, and `load` reports how many entries it refused (`load_new`). Selecting with a
pattern text fails exactly when the text is refused; otherwise the kept words are the first
few stored words that match, in increasing order, and the outcome reduces them to a longest
common subsequence, with a status read off that subsequence (`conclude_spec`).

Pruning walks only the subtree under the pattern's literal prefix and stops at the cap. It keeps
the same words (`collect_pruned_fst`): every matching word starts with the literal prefix, and
the words under that prefix are the matching candidates in the same order. It counts no more
nodes and tests no more words than the full walk, which counts every node and tests every word.
-/

namespace WordSift

open Trie

theorem Bytes.lowerByte_of_isLetter {b : UInt8} (h : Bytes.isLetter b = true) :
    Bytes.lowerByte b = b := by
  simp only [Bytes.isLetter, Bool.and_eq_true, decide_eq_true_eq] at h
  have hc : Bytes.isCapital b = false := by
    simp only [Bytes.isCapital, Bool.and_eq_false_iff, decide_eq_false_iff_not]
    omega
  rw [Bytes.lowerByte, hc, if_neg Bool.false_ne_true]

/-- Lowering capitals keeps a word of letters. -/
theorem Bytes.lowerAscii_of_letters {w : Bytes} (h : ∀ b ∈ w, Bytes.isLetter b = true) :
    Bytes.lowerAscii w = w := by
  rw [Bytes.lowerAscii, List.map_congr_left fun b hb => Bytes.lowerByte_of_isLetter (h b hb),
    List.map_id']

namespace Pattern

/-- On a word of letters a pattern matches as its matched text does. -/
theorem admits_of_letters (p : Pattern) {w : Bytes} (hw : ∀ b ∈ w, Bytes.isLetter b = true) :
    p.admits w = accepts w p.expr := by
  rw [admits, Bytes.lowerAscii_of_letters hw, ite_self]

/-- A word of letters a pattern matches starts with its literal prefix. -/
theorem literalPrefix_prefix_of_admits (p : Pattern) {w : Bytes}
    (hw : ∀ b ∈ w, Bytes.isLetter b = true) (h : p.admits w = true) : p.literalPrefix <+: w := by
  rw [admits_of_letters p hw] at h
  exact prefixOf_prefix_of_accepts h

end Pattern

/-! ### Walking for the matching words -/

/-- Walking the whole trie keeps the first `cap` stored words that are accepted. -/
theorem collect_nil_fst (t : Trie) (accept : Bytes → Bool) (cap : Nat) (prune : Bool) :
    (t.collect accept cap prune []).1 = upTo cap ((t.root.ends []).filter accept) :=
  collect_of_find?_fst (find?_nil t) accept cap prune

section Walks

variable {t : Trie} (h : t.root.Ordered) (p : Pattern) (k : Nat)
include h

/-- Pruning to the subtree under the literal prefix keeps the same words. -/
theorem collect_pruned_fst :
    (t.collect p.admits k true p.literalPrefix).1 = (t.collect p.admits k false []).1 := by
  rw [collect_nil_fst]
  -- every matching stored word starts with the literal prefix
  have hpre : ∀ w ∈ t.root.ends [], p.admits w = true → p.literalPrefix <+: w :=
    fun w hw ha => p.literalPrefix_prefix_of_admits (Node.letters_of_mem_ends h hw) ha
  cases hn : t.find? p.literalPrefix with
  | none =>
    -- no stored word starts with a prefix the trie has no node for
    have hnone : (t.root.ends []).filter p.admits = [] := by
      rw [List.filter_eq_nil_iff]
      intro w hw ha
      obtain ⟨y, rfl, hy⟩ := (Node.mem_ends h [] w).1 hw
      have hfound := Node.isSome_find?_of_prefix (Node.isSome_find?_of_holds hy)
        (by simpa using hpre _ hw ha)
      rw [show t.root.find? p.literalPrefix = none from hn] at hfound
      cases hfound
    rw [collect_of_find?_none hn, hnone]
    exact (upTo_of_length_le (Or.inr (Nat.zero_le _))).symm
  | some m =>
    rw [collect_of_find?_fst hn, Node.ends_find? h hn, List.filter_filter]
    congr 1
    refine List.filter_congr fun w hw => ?_
    by_cases ha : p.admits w = true
    · simp [ha, hpre w hw ha]
    · simp [ha]

end Walks

namespace Selector

/-! ### Loading -/

/-- One step of `load`. -/
def loadStep (acc : Selector × Nat) (w : Bytes) : Selector × Nat :=
  match acc.1.trie.insert w with
  | .ok t => ({ acc.1 with trie := t }, acc.2)
  | .error _ => (acc.1, acc.2 + 1)

theorem load_eq_foldl (s : Selector) (ws : List Bytes) : s.load ws = ws.foldl loadStep (s, 0) :=
  rfl

/-- Loading inserts the words into the trie in order and counts the refused ones. -/
theorem foldl_loadStep (ws : List Bytes) (acc : Selector × Nat) :
    ws.foldl loadStep acc =
      ({ acc.1 with trie := acc.1.trie.insertAll ws },
        acc.2 + ws.countP fun w => !w.all Bytes.isLetter) := by
  induction ws generalizing acc with
  | nil => rfl
  | cons w ws ih =>
    have hcons : acc.1.trie.insertAll (w :: ws) =
        (match acc.1.trie.insert w with
          | .ok t => t
          | .error _ => acc.1.trie).insertAll ws := rfl
    rw [List.foldl_cons, ih, List.countP_cons, hcons]
    unfold loadStep
    cases hi : acc.1.trie.insert w with
    | error e =>
      -- a refused word leaves the trie and counts once
      have hw : w.all Bytes.isLetter = false := by
        cases e
        simpa using insert_eq_error_iff.1 hi
      refine Prod.ext rfl ?_
      simp only [hw, Bool.not_false, if_true]
      omega
    | ok t =>
      have hw : w.all Bytes.isLetter = true := List.all_eq_true.2 (letters_of_insert_eq_ok hi)
      refine Prod.ext rfl ?_
      simp only [hw, Bool.not_true, Bool.false_eq_true, if_false]
      omega

/-- A new selector loaded with `ws` holds the inserted words and counts the refused entries. -/
theorem load_new (n : Int) (prune fold : Bool) (ws : List Bytes) :
    (new n prune fold).load ws =
      (⟨Trie.empty.insertAll ws, Lcs.clampLimit n, prune, fold⟩,
        ws.countP fun w => !w.all Bytes.isLetter) := by
  rw [load_eq_foldl, foldl_loadStep]
  exact Prod.ext rfl (Nat.zero_add _)

/-! ### Selecting -/

section Select

variable (s : Selector) (expr : Bytes)

theorem select_of_compile_error {e : Pattern.SyntaxError}
    (h : Pattern.compile expr s.fold = .error e) : s.select expr = .error e := by
  rw [select, h]
  rfl

theorem select_of_compile_ok {p : Pattern} (h : Pattern.compile expr s.fold = .ok p) :
    s.select expr =
      .ok (conclude expr
        (s.trie.collect p.admits s.compare s.prune (if s.prune then p.literalPrefix else [])).1
        s.compare
        (s.trie.collect p.admits s.compare s.prune (if s.prune then p.literalPrefix else [])).2) := by
  rw [select, h]
  rfl

theorem select_eq_error_iff (e : Pattern.SyntaxError) :
    s.select expr = .error e ↔ Pattern.compile expr s.fold = .error e := by
  cases h : Pattern.compile expr s.fold with
  | error e' =>
    rw [select_of_compile_error s expr h]
    simp only [Except.error.injEq]
  | ok p =>
    rw [select_of_compile_ok s expr h]
    simp

end Select

/-! ### The outcome of the kept words -/

section Conclude

variable (expr : Bytes) (ms : List Bytes) (k : Nat) (tally : Trie.Tally)

theorem conclude_matched : (conclude expr ms k tally).matched = ms := by
  unfold conclude
  split
  · rfl
  · dsimp only
    split <;> rfl

theorem conclude_tally : (conclude expr ms k tally).tally = tally := by
  unfold conclude
  split
  · rfl
  · dsimp only
    split <;> rfl

/-- The outcome does not depend on the tally beyond reporting it. -/
theorem conclude_tally_eq (tally' : Trie.Tally) :
    conclude expr ms k tally' = { conclude expr ms k tally with tally := tally' } := by
  unfold conclude
  split
  · rfl
  · dsimp only
    split <;> rfl

theorem clampLimit_natCast_clampLimit (n : Int) : Lcs.clampLimit (Lcs.clampLimit n) = Lcs.clampLimit n := by
  have h := Lcs.clampLimit_le n
  unfold Lcs.clampLimit Lcs.maxWords at *
  split <;> split <;> omega

/-- With no more words than are compared: no word gives the empty subsequence and status
`noMatch`; otherwise the subsequence is a longest common one, the status is `noCommon` exactly
when the words share no byte, and the output is the subsequence or the notice of the status. -/
theorem conclude_spec (hk : Lcs.clampLimit k = k) (hlen : ms.length ≤ k) :
    ((conclude expr ms k tally).matched = [] → (conclude expr ms k tally).lcs = []) ∧
    ((conclude expr ms k tally).matched ≠ [] →
      Lcs.IsLongestCommon (conclude expr ms k tally).matched (conclude expr ms k tally).lcs) ∧
    ((conclude expr ms k tally).status = .noMatch ↔ (conclude expr ms k tally).matched = []) ∧
    ((conclude expr ms k tally).status = .noCommon ↔
      (conclude expr ms k tally).matched ≠ [] ∧
        ¬∃ c, ∀ w ∈ (conclude expr ms k tally).matched, c ∈ w) ∧
    ((conclude expr ms k tally).status = .ok ↔
      (conclude expr ms k tally).matched ≠ [] ∧
        ∃ c, ∀ w ∈ (conclude expr ms k tally).matched, c ∈ w) ∧
    (conclude expr ms k tally).output =
      match (conclude expr ms k tally).status with
      | .ok => (conclude expr ms k tally).lcs
      | .noMatch => Bytes.ofString noMatchNotice
      | .noCommon => Bytes.ofString noCommonNotice := by
  rw [conclude_matched]
  cases ms with
  | nil => simp [conclude]
  | cons w rest =>
    have hl : Lcs.IsLongestCommon (w :: rest) (Lcs.ofFirst (w :: rest) k) :=
      Lcs.ofFirst_isLongestCommon (List.cons_ne_nil w rest) (by rw [hk]; exact hlen)
    have hnil := hl.eq_nil_iff
    have hne : w :: rest ≠ [] := List.cons_ne_nil w rest
    unfold conclude
    dsimp only
    -- the subsequence is empty exactly when the words share no byte
    by_cases he : (Lcs.ofFirst (w :: rest) k).isEmpty = true
    · have hc : ¬∃ c, ∀ v ∈ w :: rest, c ∈ v := hnil.1 (List.isEmpty_iff.1 he)
      rw [if_pos he]
      refine ⟨fun h => absurd h hne, fun _ => hl, ?_, ?_, ?_, rfl⟩
      · exact iff_of_false (by simp) hne
      · exact iff_of_true rfl ⟨hne, hc⟩
      · exact iff_of_false (by simp) fun h => hc h.2
    · have hc : ∃ c, ∀ v ∈ w :: rest, c ∈ v := by
        by_contra hc
        exact he (List.isEmpty_iff.2 (hnil.2 hc))
      rw [if_neg he]
      refine ⟨fun h => absurd h hne, fun _ => hl, ?_, ?_, ?_, rfl⟩
      · exact iff_of_false (by simp) hne
      · exact iff_of_false (by simp) fun h => h.2 hc
      · exact iff_of_true rfl ⟨hne, hc⟩

end Conclude

/-! ### Selecting from loaded words -/

theorem clampLimit_eq (n : Int) : Lcs.clampLimit n = if 1 ≤ n ∧ n ≤ 3 then n.toNat else 3 :=
  rfl

theorem clampLimit_ne_zero (n : Int) : Lcs.clampLimit n ≠ 0 := by
  rw [clampLimit_eq]
  split <;> omega

/-- A selector made with `new` without pruning and loaded with `ws`: `load` counts the entries
holding a byte other than a letter, and `size` the distinct letter words. Selecting fails exactly
when the pattern text is refused. Otherwise it keeps the first `k` (the number asked for when it
is 1 to 3, else 3) of the letter words, taken in increasing order, that match the pattern's text
(lowered when folding); the subsequence is a longest common one of them (empty for none); the
status is `noMatch` for no word, `noCommon` for words sharing no byte and `ok` otherwise; and
the output is the subsequence or the notice of the status. -/
theorem select_unpruned_spec (ws : List Bytes) (n : Int) (fold : Bool) (expr : Bytes) :
    ((new n false fold).load ws).2 = ws.countP (fun w => !w.all Bytes.isLetter) ∧
    ((new n false fold).load ws).1.size = (letterWords ws).card ∧
    (∀ e, ((new n false fold).load ws).1.select expr = .error e ↔
      Pattern.compile expr fold = .error e) ∧
    ∀ o, ((new n false fold).load ws).1.select expr = .ok o →
      ∃ l : List Bytes, l.Pairwise (· < ·) ∧ (∀ w, w ∈ l ↔ w ∈ letterWords ws) ∧
        o.matched =
          (l.filter fun w => Pattern.accepts w (if fold then Bytes.lowerAscii expr else expr)).take
            (if 1 ≤ n ∧ n ≤ 3 then n.toNat else 3) ∧
        (o.matched = [] → o.lcs = []) ∧
        (o.matched ≠ [] → Lcs.IsLongestCommon o.matched o.lcs) ∧
        (o.status = .noMatch ↔ o.matched = []) ∧
        (o.status = .noCommon ↔ o.matched ≠ [] ∧ ¬∃ c, ∀ w ∈ o.matched, c ∈ w) ∧
        (o.status = .ok ↔ o.matched ≠ [] ∧ ∃ c, ∀ w ∈ o.matched, c ∈ w) ∧
        o.output =
          match o.status with
          | .ok => o.lcs
          | .noMatch => Bytes.ofString noMatchNotice
          | .noCommon => Bytes.ofString noCommonNotice := by
  have hst := stores_insertAll ws
  rw [load_new]
  refine ⟨rfl, hst.wordCount_eq, fun e => select_eq_error_iff _ expr e, fun o ho => ?_⟩
  cases hc : Pattern.compile expr fold with
  | error e =>
    rw [select_of_compile_error _ expr hc] at ho
    cases ho
  | ok p =>
    rw [select_of_compile_ok _ expr hc] at ho
    obtain rfl := Except.ok.inj ho
    simp only [Bool.false_eq_true, if_false]
    -- the kept words: the first `k` stored words the pattern's text matches
    have hkept : ((Trie.empty.insertAll ws).collect p.admits (Lcs.clampLimit n) false []).1 =
        (((Trie.empty.insertAll ws).root.ends []).filter fun w =>
          Pattern.accepts w (if fold then Bytes.lowerAscii expr else expr)).take
            (Lcs.clampLimit n) := by
      rw [collect_nil_fst, upTo, if_neg (clampLimit_ne_zero n)]
      congr 1
      refine List.filter_congr fun w hw => ?_
      rw [p.admits_of_letters (Node.letters_of_mem_ends hst.ordered hw), Pattern.compile_ok_eq hc]
    have hlen : ((Trie.empty.insertAll ws).collect p.admits (Lcs.clampLimit n) false []).1.length ≤
        Lcs.clampLimit n := by
      rw [collect_nil_fst]
      exact length_upTo_le (clampLimit_ne_zero n) _
    refine ⟨_, Node.pairwise_ends hst.ordered [], hst.mem_ends, ?_,
      conclude_spec expr _ _ _ (clampLimit_natCast_clampLimit n) hlen⟩
    rw [conclude_matched, ← clampLimit_eq]
    exact hkept

/-- On a pattern text `compile` accepts, a pruned selector and an unpruned one loaded with the
same words give the same kept words, subsequence, status and output, and accept as many words;
the pruned walk counts no more nodes and tests no more words than the unpruned one, which counts
every node of the trie and tests every stored word. -/
theorem select_pruned_agrees (ws : List Bytes) (n : Int) (fold : Bool) {expr : Bytes}
    {p : Pattern} (hp : Pattern.compile expr fold = .ok p) :
    ∃ o o', ((new n false fold).load ws).1.select expr = .ok o ∧
      ((new n true fold).load ws).1.select expr = .ok o' ∧
      o'.matched = o.matched ∧ o'.lcs = o.lcs ∧ o'.status = o.status ∧ o'.output = o.output ∧
      o'.tally.accepted = o.tally.accepted ∧
      o'.tally.visited ≤ o.tally.visited ∧ o'.tally.tested ≤ o.tally.tested ∧
      o.tally.visited = ((new n false fold).load ws).1.trie.nodeCount ∧
      o.tally.tested = ((new n false fold).load ws).1.size := by
  have hst := stores_insertAll ws
  rw [load_new, load_new]
  refine ⟨_, _, select_of_compile_ok _ expr hp, select_of_compile_ok _ expr hp, ?_⟩
  simp only [if_true, Bool.false_eq_true, if_false]
  have hfst := collect_pruned_fst hst.ordered p (Lcs.clampLimit n)
  rw [hfst, conclude_tally_eq expr _ _ ((Trie.empty.insertAll ws).collect p.admits
    (Lcs.clampLimit n) false []).2]
  refine ⟨rfl, rfl, rfl, rfl, ?_, ?_, ?_, ?_, ?_⟩
  · simp only [conclude_tally]
    rw [collect_accepted, collect_accepted, hfst]
  · simp only [conclude_tally]
    rw [collect_unpruned_visited (find?_nil _)]
    exact collect_visited_le_paths hst.ordered _ _ _ _
  · simp only [conclude_tally]
    rw [collect_unpruned_tested (find?_nil _)]
    exact collect_tested_le_ends hst.ordered _ _ _ _
  · rw [conclude_tally, collect_unpruned_visited (find?_nil _), hst.length_paths]
  · rw [conclude_tally, collect_unpruned_tested (find?_nil _), hst.length_ends]
    rfl

/-- Selecting with `a.` from the words `ab` and `ba`, with and without pruning. -/
theorem select_pruned_agrees_ab_ba :
    Pattern.compile [97, 46] true = .ok ⟨[97, 46], true, [97, 46]⟩ ∧
    ∃ o o', ((new 3 false true).load [[97, 98], [98, 97]]).1.select [97, 46] = .ok o ∧
      ((new 3 true true).load [[97, 98], [98, 97]]).1.select [97, 46] = .ok o' ∧
      o'.matched = o.matched ∧ o'.lcs = o.lcs ∧ o'.status = o.status ∧ o'.output = o.output ∧
      o'.tally.accepted = o.tally.accepted ∧
      o'.tally.visited ≤ o.tally.visited ∧ o'.tally.tested ≤ o.tally.tested ∧
      o.tally.visited = ((new 3 false true).load [[97, 98], [98, 97]]).1.trie.nodeCount ∧
      o.tally.tested = ((new 3 false true).load [[97, 98], [98, 97]]).1.size :=
  ⟨rfl, select_pruned_agrees [[97, 98], [98, 97]] 3 true
    (show Pattern.compile [97, 46] true = .ok ⟨[97, 46], true, [97, 46]⟩ from rfl)⟩

end Selector

end WordSift
