import WordSift.WordList.Index
import Mathlib

/-!
# What an index records

An index keeps a map from words to counts, as a list of entries in the order the words were first
added, and two counters beside it. An addition looks the word up: a word with an entry has its
count raised (`setCount`), any other gets an entry of its own (`insertCount`) and is counted as
new. So the entries never repeat a word, and after the additions `ws`, in any order and with any
repeats, the entries are exactly the distinct words of `ws` with their numbers of occurrences,
the counter of additions is the length of `ws` and the counter of new words is the number of
entries (`Index.Counts`, kept by `add` and by `reject`). The statistics, read from the counters,
are then read off `ws` alone (`Counts.stats_eq`), and so are the prefix counts and the list of
duplicates.
-/

namespace WordSift.Index

/-- The words of the entries, in the order they were first added. -/
def keys (ix : Index) : List Bytes := ix.entries.map (·.1)

/-! ### The entries as a map -/

section Entries

variable {es : List (Bytes × Nat)} {w v : Bytes} {n m : Nat}

theorem find?_eq_none_iff : es.find? (·.1 == w) = none ↔ w ∉ es.map (·.1) := by
  rw [List.find?_eq_none, List.mem_map]
  constructor
  · rintro h ⟨e, he, rfl⟩
    exact h e he (by simp)
  · intro h e he hew
    exact h ⟨e, he, by simpa using hew⟩

/-- Storing a count for an entered word keeps the words entered. -/
theorem map_fst_setCount (hw : w ∈ es.map (·.1)) :
    (setCount w n es).map (·.1) = es.map (·.1) := by
  induction es with
  | nil => simp at hw
  | cons e es ih =>
    obtain ⟨u, k⟩ := e
    by_cases hu : u = w
    · simp [setCount, hu]
    · have hw' : w ∈ es.map (·.1) := by simpa [Ne.symm hu] using hw
      simp [setCount, hu, ih hw']

/-- Storing a count for an entered word gives its one entry that count and keeps the others. -/
theorem mem_setCount (hnd : (es.map (·.1)).Nodup) (hw : w ∈ es.map (·.1)) :
    (v, m) ∈ setCount w n es ↔ (v = w ∧ m = n) ∨ (v ≠ w ∧ (v, m) ∈ es) := by
  induction es with
  | nil => simp at hw
  | cons e es ih =>
    obtain ⟨u, k⟩ := e
    rw [List.map_cons, List.nodup_cons] at hnd
    by_cases hu : u = w
    · -- the entry of `w` is the first, and no later entry has its word
      subst hu
      have hrest : ∀ k', (u, k') ∉ es := fun k' hk => hnd.1 (List.mem_map.2 ⟨_, hk, rfl⟩)
      constructor
      · simp only [setCount, if_true, List.mem_cons, Prod.mk.injEq]
        rintro (⟨rfl, rfl⟩ | hm)
        · exact Or.inl ⟨rfl, rfl⟩
        · exact Or.inr ⟨fun hv => hrest m (hv ▸ hm), Or.inr hm⟩
      · simp only [setCount, if_true, List.mem_cons, Prod.mk.injEq]
        rintro (⟨rfl, rfl⟩ | ⟨hv, ⟨rfl, rfl⟩ | hm⟩)
        · exact Or.inl ⟨rfl, rfl⟩
        · exact absurd rfl hv
        · exact Or.inr hm
    · have hw' : w ∈ es.map (·.1) := by simpa [Ne.symm hu] using hw
      simp only [setCount, if_neg hu, List.mem_cons, Prod.mk.injEq, ih hnd.2 hw']
      constructor
      · rintro (⟨rfl, rfl⟩ | h)
        · exact Or.inr ⟨hu, Or.inl ⟨rfl, rfl⟩⟩
        · rcases h with h | ⟨hv, hm⟩
          · exact Or.inl h
          · exact Or.inr ⟨hv, Or.inr hm⟩
      · rintro (h | ⟨hv, ⟨rfl, rfl⟩ | hm⟩)
        · exact Or.inr (Or.inl h)
        · exact Or.inl ⟨rfl, rfl⟩
        · exact Or.inr (Or.inr ⟨hv, hm⟩)

theorem insertCount_of_not_mem (hw : w ∉ es.map (·.1)) :
    insertCount w n es = es ++ [(w, n)] := by
  have hany : es.any (·.1 == w) = false := by
    simpa [List.any_eq_false] using fun v k hk hv => hw (List.mem_map.2 ⟨(v, k), hk, hv⟩)
  rw [insertCount, hany, if_neg Bool.false_ne_true]

end Entries

/-! ### Looking a word up -/

theorem get?_eq_none_iff {ix : Index} {w : Bytes} : ix.get? w = none ↔ w ∉ ix.keys := by
  rw [get?, Option.map_eq_none_iff, find?_eq_none_iff, keys]

theorem mem_of_get?_eq_some {ix : Index} {w : Bytes} {n : Nat} (h : ix.get? w = some n) :
    (w, n) ∈ ix.entries := by
  obtain ⟨e, he, rfl⟩ := Option.map_eq_some_iff.1 h
  have hw : e.1 = w := by simpa using List.find?_some he
  rw [← hw]
  exact List.mem_of_find?_eq_some he

/-- An addition of a word that has a count raises it. -/
theorem add_of_get?_eq_some {ix : Index} {w : Bytes} {n : Nat} (h : ix.get? w = some n) :
    ix.add w = { ix with entries := setCount w (n + 1) ix.entries, total := ix.total + 1 } := by
  -- the lookup reads the entries only, which the counter of additions does not touch
  have h' : ({ ix with total := ix.total + 1 } : Index).get? w = some n := h
  simp only [Index.add, h']

/-- An addition of a word without a count stores it and counts it as new. -/
theorem add_of_get?_eq_none {ix : Index} {w : Bytes} (h : ix.get? w = none) :
    ix.add w =
      { ix with entries := insertCount w 1 ix.entries, total := ix.total + 1,
                unique := ix.unique + 1 } := by
  have h' : ({ ix with total := ix.total + 1 } : Index).get? w = none := h
  simp only [Index.add, h']

@[simp] theorem refused_add (ix : Index) (w : Bytes) : (ix.add w).refused = ix.refused := by
  cases h : ix.get? w with
  | some n => rw [add_of_get?_eq_some h]
  | none => rw [add_of_get?_eq_none h]

@[simp] theorem refused_reject (ix : Index) : ix.reject.refused = ix.refused + 1 := rfl

/-! ### Prefix counts and duplicates -/

/-- Every entered word starts with the empty word, so the empty prefix counts all entries. -/
theorem withPrefix_nil (ix : Index) : ix.withPrefix [] = ix.entries.length := by
  simp [withPrefix, List.isPrefixOf]

/-- The duplicates, in any order, are the entries counted more than once. -/
theorem duplicates_perm (ix : Index) : ix.duplicates.Perm (ix.entries.filter fun e => 1 < e.2) :=
  List.mergeSort_perm _ _

/-- Counting the additions past the first of each entry: with every count positive, the counts
above one, less one each, and the number of entries add up to all the counts. -/
theorem sum_repeats_add_length (es : List (Bytes × Nat)) (hpos : ∀ e ∈ es, 0 < e.2) :
    ((es.filter fun e => 1 < e.2).map (·.2 - 1)).sum + es.length = (es.map (·.2)).sum := by
  induction es with
  | nil => rfl
  | cons e es ih =>
    have he := hpos e (List.mem_cons_self ..)
    have hrest := ih fun e' he' => hpos e' (List.mem_cons_of_mem _ he')
    by_cases h1 : 1 < e.2
    · simp only [List.filter_cons, h1, decide_true, if_true, List.map_cons, List.sum_cons,
        List.length_cons]
      omega
    · simp only [List.filter_cons, h1, decide_false, Bool.false_eq_true, if_false,
        List.map_cons, List.sum_cons, List.length_cons]
      omega

/-! ### Many additions -/

/-- The index records the additions `ws`: no word is entered twice, the entries are the distinct
words of `ws` each with its number of occurrences in `ws`, the counter of additions is the length
of `ws`, and the counter of new words is the number of entries. -/
structure Counts (ix : Index) (ws : List Bytes) : Prop where
  nodup : ix.keys.Nodup
  mem_entries : ∀ v n, (v, n) ∈ ix.entries ↔ v ∈ ws ∧ n = ws.count v
  total_eq : ix.total = ws.length
  unique_eq : ix.unique = ix.entries.length

namespace Counts

theorem empty : Counts {} [] where
  nodup := List.nodup_nil
  mem_entries v n := by simp
  total_eq := rfl
  unique_eq := rfl

variable {ix : Index} {ws : List Bytes}

theorem mem_keys (h : Counts ix ws) (v : Bytes) : v ∈ ix.keys ↔ v ∈ ws := by
  constructor
  · intro hv
    obtain ⟨⟨u, n⟩, he, rfl⟩ := List.mem_map.1 hv
    exact ((h.mem_entries u n).1 he).1
  · intro hv
    exact List.mem_map.2 ⟨(v, ws.count v), (h.mem_entries v _).2 ⟨hv, rfl⟩, rfl⟩

/-- An addition is recorded: a known word has its count raised, a new one is entered last and
counted as new, and either way the addition is counted. -/
theorem add (h : Counts ix ws) (w : Bytes) : Counts (ix.add w) (ws ++ [w]) := by
  cases hget : ix.get? w with
  | some n =>
    -- `w` was added before, `n` times
    have hmem := mem_of_get?_eq_some hget
    obtain ⟨hw, rfl⟩ := (h.mem_entries w n).1 hmem
    have hkey : w ∈ ix.keys := List.mem_map.2 ⟨_, hmem, rfl⟩
    rw [add_of_get?_eq_some hget]
    refine ⟨?_, fun v m => ?_, by simp [h.total_eq], ?_⟩
    · simpa [keys, map_fst_setCount hkey] using h.nodup
    · rw [mem_setCount h.nodup hkey, h.mem_entries, List.count_append, List.count_singleton]
      by_cases hv : v = w
      · subst hv
        simp [hw]
      · simp [hv, Ne.symm hv]
    · have hlen := congrArg List.length (map_fst_setCount (n := ws.count w + 1) hkey)
      simp only [List.length_map] at hlen
      simp [hlen, h.unique_eq]
  | none =>
    -- `w` is new
    have hkey : w ∉ ix.keys := get?_eq_none_iff.1 hget
    have hw : w ∉ ws := fun hw => hkey ((h.mem_keys w).2 hw)
    rw [add_of_get?_eq_none hget, insertCount_of_not_mem hkey]
    refine ⟨?_, fun v m => ?_, by simp [h.total_eq], by simp [h.unique_eq]⟩
    · simp only [keys, List.map_append, List.map_cons, List.map_nil]
      refine List.nodup_append.2 ⟨h.nodup, List.nodup_singleton w, ?_⟩
      rintro a ha b hb rfl
      rw [List.mem_singleton] at hb
      exact hkey (hb ▸ ha)
    · rw [List.mem_append, h.mem_entries, List.count_append, List.count_singleton]
      by_cases hv : v = w
      · subst hv
        simp [hw, List.count_eq_zero_of_not_mem hw]
      · simp [hv, Ne.symm hv]

/-- A refusal touches neither the entries nor the two counters. -/
theorem reject (h : Counts ix ws) : Counts ix.reject ws :=
  ⟨h.nodup, h.mem_entries, h.total_eq, h.unique_eq⟩

/-- The count of a word is its number of occurrences among the additions. -/
theorem count_eq (h : Counts ix ws) (v : Bytes) : ix.count v = ws.count v := by
  rw [count]
  split
  · rename_i u n hfind
    have hu : u = v := by simpa using List.find?_some hfind
    subst hu
    exact ((h.mem_entries u n).1 (List.mem_of_find?_eq_some hfind)).2
  · rename_i hfind
    have hv : v ∉ ws := fun hv => find?_eq_none_iff.1 hfind ((h.mem_keys v).2 hv)
    exact (List.count_eq_zero.2 hv).symm

/-- The words entered are the distinct words added, in some order. -/
theorem keys_perm (h : Counts ix ws) : ix.keys.Perm ws.dedup :=
  (List.perm_ext_iff_of_nodup h.nodup (List.nodup_dedup ws)).2 fun v => by
    rw [h.mem_keys, List.mem_dedup]

/-- The entries are as many as the distinct words added. -/
theorem length_entries (h : Counts ix ws) : ix.entries.length = ws.toFinset.card := by
  rw [List.card_toFinset, ← h.keys_perm.length_eq, keys, List.length_map]

/-- The statistics of an index that records `ws`: as many additions as `ws` has words, as many
distinct words as `ws`, the difference as duplicates, and the refusals counted apart. -/
theorem stats_eq (h : Counts ix ws) :
    ix.stats = ⟨ws.length, ws.toFinset.card, ws.length - ws.toFinset.card, ix.refused⟩ := by
  rw [stats, h.total_eq, h.unique_eq, h.length_entries]

/-- Every entered word was added at least once. -/
theorem pos_of_mem (h : Counts ix ws) {e : Bytes × Nat} (he : e ∈ ix.entries) : 0 < e.2 := by
  obtain ⟨hv, hn⟩ := (h.mem_entries e.1 e.2).1 he
  rw [hn]
  exact List.count_pos_iff.2 hv

/-- The counts of the entries add up to the number of additions. -/
theorem sum_counts (h : Counts ix ws) : (ix.entries.map (·.2)).sum = ws.length := by
  have hcounts : ix.entries.map (·.2) = ix.keys.map ws.count := by
    rw [keys, List.map_map]
    refine List.map_congr_left fun e he => ?_
    exact ((h.mem_entries e.1 e.2).1 he).2
  -- the library counts with the equality test of a decidable type, the same test on words
  have hdedup := List.sum_map_count_dedup_eq_length ws
  rw [lawful_beq_subsingleton instBEqOfDecidableEq List.instBEq] at hdedup
  rw [hcounts, (h.keys_perm.map _).sum_nat]
  exact hdedup

/-- The number of distinct added words that start with `q`. -/
theorem withPrefix_eq (h : Counts ix ws) (q : Bytes) :
    ix.withPrefix q = (ws.toFinset.filter (q <+: ·)).card := by
  have hkeys : ix.keys.toFinset = ws.toFinset := by
    ext v
    simp [h.mem_keys v]
  have hcount : ix.withPrefix q = ix.keys.countP (q.isPrefixOf ·) := by
    rw [withPrefix, keys, List.countP_map]
    rfl
  rw [hcount, List.countP_eq_length_filter, ← List.toFinset_card_of_nodup (h.nodup.filter _),
    List.toFinset_filter, hkeys]
  simp [List.isPrefixOf_iff_prefix]

/-- The duplicates are the words added more than once, each with its number of occurrences. -/
theorem mem_duplicates (h : Counts ix ws) (w : Bytes) (n : Nat) :
    (w, n) ∈ ix.duplicates ↔ 1 < ws.count w ∧ n = ws.count w := by
  rw [(duplicates_perm ix).mem_iff, List.mem_filter, h.mem_entries]
  constructor
  · rintro ⟨⟨-, rfl⟩, h1⟩
    exact ⟨by simpa using h1, rfl⟩
  · rintro ⟨h1, rfl⟩
    exact ⟨⟨List.count_pos_iff.1 (by omega), rfl⟩, by simpa using h1⟩

/-- No word is listed twice among the duplicates. -/
theorem duplicates_nodup (h : Counts ix ws) : (ix.duplicates.map (·.1)).Nodup := by
  rw [((duplicates_perm ix).map _).nodup_iff]
  exact (List.filter_sublist.map _).nodup h.nodup

/-- The occurrences of the duplicates past their first add up to the duplicates of the
statistics. -/
theorem sum_duplicates (h : Counts ix ws) :
    (ix.duplicates.map (·.2 - 1)).sum = ws.length - ws.toFinset.card := by
  have hsum := sum_repeats_add_length ix.entries fun e he => h.pos_of_mem he
  rw [h.sum_counts, h.length_entries] at hsum
  rw [((duplicates_perm ix).map _).sum_nat]
  omega

end Counts

/-! ### A sequence of calls -/

/-- A call on an index: an addition of a word, or a refusal. -/
inductive Call where
  | add (w : Bytes)
  | reject
deriving DecidableEq, Repr

/-- Makes a call on an index. -/
def Call.apply (ix : Index) : Call → Index
  | .add w => ix.add w
  | .reject => ix.reject

/-- The word a call adds, when it is an addition. -/
def Call.added? : Call → Option Bytes
  | .add w => some w
  | .reject => none

/-- The index after some calls, made in order on an empty one. -/
def ofCalls (calls : List Call) : Index := calls.foldl Call.apply {}

@[simp] theorem ofCalls_append_single (calls : List Call) (c : Call) :
    ofCalls (calls ++ [c]) = Call.apply (ofCalls calls) c := by
  simp [ofCalls, List.foldl_append]

/-- After any calls, the index records the words added, in order, and counts the refusals. -/
theorem counts_ofCalls (calls : List Call) :
    (ofCalls calls).Counts (calls.filterMap Call.added?) ∧
      (ofCalls calls).refused = calls.count .reject := by
  induction calls using List.reverseRecOn with
  | nil => exact ⟨Counts.empty, rfl⟩
  | append_singleton calls c ih =>
    obtain ⟨hcounts, hrefused⟩ := ih
    cases c with
    | add w =>
      refine ⟨by simpa [Call.apply, Call.added?] using hcounts.add w, ?_⟩
      simp [Call.apply, hrefused]
    | reject =>
      refine ⟨by simpa [Call.apply, Call.added?, List.filterMap_cons] using hcounts.reject, ?_⟩
      simp [Call.apply, hrefused]

/-- Whatever additions and refusals are made on an empty index, in any order, with any repeats and
with the empty word among them: each word's count is its number of additions; the statistics
give the number of additions, of distinct words added, their difference and the number of
refusals; the words starting with `q` are counted once each, so the empty prefix counts the
distinct words; and the duplicates are exactly the words counted more than once, each once with
its count, their counts past the first adding up to the duplicates of the statistics. -/
theorem ofCalls_records_calls (calls : List Call) :
    let ix := ofCalls calls
    let ws := calls.filterMap Call.added?
    (∀ w, ix.count w = ws.count w) ∧
    ix.stats =
      ⟨ws.length, ws.toFinset.card, ws.length - ws.toFinset.card, calls.count .reject⟩ ∧
    (∀ q, ix.withPrefix q = (ws.toFinset.filter (q <+: ·)).card) ∧
    ix.withPrefix [] = ix.stats.unique ∧
    (∀ w n, (w, n) ∈ ix.duplicates ↔ 1 < ix.count w ∧ n = ix.count w) ∧
    (ix.duplicates.map (·.1)).Nodup ∧
    (ix.duplicates.map (·.2 - 1)).sum = ix.stats.duplicates := by
  intro ix ws
  obtain ⟨h, hrefused⟩ := counts_ofCalls calls
  have hstats := h.stats_eq
  rw [hrefused] at hstats
  refine ⟨h.count_eq, hstats, h.withPrefix_eq, ?_, fun w n => ?_, h.duplicates_nodup, ?_⟩
  · rw [withPrefix_nil, h.length_entries, hstats]
  · rw [h.mem_duplicates, h.count_eq]
  · rw [h.sum_duplicates, hstats]

end WordSift.Index
