import WordSift.Trie.Basic
import Mathlib

/-!
# What a trie stores

After any sequence of insertions a trie stores the set `S` of the inserted words made of
letters only, and everything it answers is read off `S` (`Stores`): `contains` is membership,
`hasPrefix` is being a prefix of a word of `S` (or empty), and the two counters are the sizes
of `S` and of the set of prefixes of its words, the empty one included.

`plant` is the whole of an insertion. Along the path of the word it changes one child per
level (`kid?_setKid`), so a path is found afterwards exactly when it was found before or is a
prefix of the word (`isSome_find?_plant`), and a word ends at it exactly when one did before
or it is the word itself (`holds_plant`). It creates one node for each prefix of the word that
was not found (`plant_fresh`) and marks a new end exactly when the word was not stored
(`plant_marked`). The counters are kept by those two numbers, so they follow the sets.
Children stay letters in increasing order (`Node.Ordered`), which the walks need.
-/

namespace WordSift.Trie

open scoped List

namespace Node

/-- A word ends at the node that `x` leads to. -/
def holds (n : Node) (x : Bytes) : Bool :=
  match n.find? x with
  | some m => m.stop
  | none => false

/-- Every node's children are letters, in strictly increasing order. -/
inductive Ordered : Node → Prop
  | node {s : Bool} {ks : List (UInt8 × Node)} :
      ks.Pairwise (fun p q => p.1 < q.1) → (∀ p ∈ ks, Bytes.isLetter p.1 = true) →
      (∀ p ∈ ks, Ordered p.2) → Ordered (.node s ks)

theorem find?_cons (n : Node) (d : UInt8) (y : Bytes) :
    n.find? (d :: y) = if Bytes.isLetter d then (n.kid? d).bind (·.find? y) else none :=
  rfl

theorem holds_nil (s : Bool) (ks : List (UInt8 × Node)) : (Node.node s ks).holds [] = s :=
  rfl

theorem holds_cons (n : Node) (d : UInt8) (y : Bytes) :
    n.holds (d :: y) = (Bytes.isLetter d && ((n.kid? d).map (·.holds y)).getD false) := by
  unfold holds
  rw [find?_cons]
  by_cases hd : Bytes.isLetter d = true
  · cases n.kid? d <;> simp [hd]
  · simp [hd]

@[simp] theorem find?_empty_cons (d : UInt8) (y : Bytes) : empty.find? (d :: y) = none := by
  simp [find?_cons, kid?, empty, kids]

@[simp] theorem holds_empty (y : Bytes) : empty.holds y = false := by
  cases y <;> simp [holds, find?, empty, stop, kid?, kids]

/-- Putting a child at `c` changes the child found at `c` and no other. -/
theorem kid?_setKid (s : Bool) (ks : List (UInt8 × Node)) (c d : UInt8) (t : Node) :
    (Node.node s (setKid c t ks)).kid? d = if d = c then some t else (Node.node s ks).kid? d := by
  induction ks with
  | nil =>
    by_cases h : d = c
    · subst h; simp [setKid, kid?, kids]
    · simp [setKid, kid?, kids, h, Ne.symm h]
  | cons p rest ih =>
    obtain ⟨e, u⟩ := p
    simp only [kid?, kids] at ih ⊢
    unfold setKid
    by_cases hce : c < e
    · by_cases h : d = c
      · subst h; simp [hce]
      · simp [hce, h, Ne.symm h]
    · by_cases hce' : c = e
      · subst hce'
        by_cases h : d = c
        · subst h; simp
        · simp [h, Ne.symm h]
      · by_cases hde : e = d
        · subst hde
          simp [hce, hce', Ne.symm hce']
        · simp [hce, hce', hde, ih]

theorem kid?_mem {s : Bool} {ks : List (UInt8 × Node)} {c : UInt8} {t : Node}
    (h : (Node.node s ks).kid? c = some t) : (c, t) ∈ ks := by
  simp only [kid?, kids, Option.map_eq_some_iff] at h
  obtain ⟨⟨d, u⟩, hf, rfl⟩ := h
  have hd : d = c := by simpa using List.find?_some hf
  subst hd
  exact List.mem_of_find?_eq_some hf

/-- A word ends below a letter exactly where it ends in the child at that letter; a missing
child acts as an empty node. -/
theorem holds_cons_getD (n : Node) (d : UInt8) (y : Bytes) :
    n.holds (d :: y) = (Bytes.isLetter d && ((n.kid? d).getD empty).holds y) := by
  rw [holds_cons]
  cases n.kid? d <;> simp

theorem plant_nil (s : Bool) (ks : List (UInt8 × Node)) :
    (Node.node s ks).plant [] = (.node true ks, 0, !s) :=
  rfl

theorem plant_cons (s : Bool) (ks : List (UInt8 × Node)) (c : UInt8) (cs : Bytes) :
    (Node.node s ks).plant (c :: cs) =
      (.node s (setKid c ((((Node.node s ks).kid? c).getD empty).plant cs).1 ks),
        (if ((Node.node s ks).kid? c).isSome then 0 else 1) +
          ((((Node.node s ks).kid? c).getD empty).plant cs).2.1,
        ((((Node.node s ks).kid? c).getD empty).plant cs).2.2) := by
  cases hk : (Node.node s ks).kid? c <;> simp [plant, hk]

section Plant

variable {w : Bytes} (hw : ∀ b ∈ w, Bytes.isLetter b = true)
include hw

/-- After planting `w`, a word ends at `x` exactly when `x` is `w` or a word ended there. -/
theorem holds_plant (n : Node) (x : Bytes) : (n.plant w).1.holds x = (x == w || n.holds x) := by
  induction w generalizing n x with
  | nil =>
    obtain ⟨s, ks⟩ := n
    cases x with
    | nil => simp [plant_nil, holds_nil]
    | cons d y => simp [plant_nil, holds_cons, kid?, kids]
  | cons c cs ih =>
    obtain ⟨s, ks⟩ := n
    obtain ⟨hc, hcs⟩ := List.forall_mem_cons.1 hw
    rw [plant_cons]
    cases x with
    | nil => simp [holds_nil]
    | cons d y =>
      rw [holds_cons_getD, holds_cons_getD, kid?_setKid]
      by_cases hdc : d = c
      · subst hdc
        simp [ih hcs, hc]
      · simp [hdc]

/-- After planting `w`, a path is found exactly when it was found before or leads into `w`. -/
theorem isSome_find?_plant (n : Node) (x : Bytes) :
    ((n.plant w).1.find? x).isSome = ((n.find? x).isSome || decide (x <+: w)) := by
  induction w generalizing n x with
  | nil =>
    obtain ⟨s, ks⟩ := n
    cases x with
    | nil => simp [plant_nil, find?]
    | cons d y => simp [plant_nil, find?_cons, kid?, kids]
  | cons c cs ih =>
    obtain ⟨s, ks⟩ := n
    obtain ⟨hc, hcs⟩ := List.forall_mem_cons.1 hw
    rw [plant_cons]
    cases x with
    | nil => simp [find?]
    | cons d y =>
      rw [find?_cons, find?_cons, kid?_setKid]
      by_cases hdc : d = c
      · subst hdc
        rw [if_pos hc, if_pos rfl, if_pos hc, Option.bind_some,
          ih hcs]
        cases hk : (Node.node s ks).kid? d with
        | none => cases y <;> simp
        | some t => simp
      · have hnot : ¬ d :: y <+: c :: cs := fun h => hdc (List.cons_prefix_cons.1 h).1
        simp [hdc, hnot]

/-- Planting marks a new end exactly when no word ended at `w`. -/
theorem plant_marked (n : Node) : (n.plant w).2.2 = !n.holds w := by
  induction w generalizing n with
  | nil =>
    obtain ⟨s, ks⟩ := n
    rfl
  | cons c cs ih =>
    obtain ⟨s, ks⟩ := n
    obtain ⟨hc, hcs⟩ := List.forall_mem_cons.1 hw
    rw [plant_cons, holds_cons_getD, hc, Bool.true_and]
    exact ih hcs _

end Plant

/-- Planting into an empty node creates one node per byte of the path. -/
theorem plant_empty_fresh (w : Bytes) : (empty.plant w).2.1 = w.length := by
  induction w with
  | nil => rfl
  | cons c cs ih =>
    have hk : (Node.node false []).kid? c = none := rfl
    show ((Node.node false []).plant (c :: cs)).2.1 = _
    rw [plant_cons, hk, Option.getD_none, ih]
    simp only [Option.isSome_none, Bool.false_eq_true, if_false, List.length_cons]
    omega

/-- Planting `w` creates one node for each prefix of `w` that was not found. -/
theorem plant_fresh {w : Bytes} (hw : ∀ b ∈ w, Bytes.isLetter b = true) (n : Node) :
    (n.plant w).2.1 = w.inits.countP fun x => !(n.find? x).isSome := by
  induction w generalizing n with
  | nil =>
    obtain ⟨s, ks⟩ := n
    simp [plant_nil, find?]
  | cons c cs ih =>
    obtain ⟨s, ks⟩ := n
    obtain ⟨hc, hcs⟩ := List.forall_mem_cons.1 hw
    rw [plant_cons, List.inits_cons, List.countP_cons, List.countP_map]
    simp only [find?, Option.isSome_some, Bool.not_true, Bool.false_eq_true, if_false,
      Nat.add_zero]
    cases hk : (Node.node s ks).kid? c with
    | none =>
      -- no child at `c`: every prefix through `c` is new, and so is every node below
      simp [find?_cons, hc, hk, plant_empty_fresh, Function.comp_def]
      omega
    | some t =>
      simp [find?_cons, hc, hk, ih hcs, Function.comp_def]

theorem mem_setKid {c : UInt8} {t : Node} {ks : List (UInt8 × Node)} {p : UInt8 × Node}
    (h : p ∈ setKid c t ks) : p = (c, t) ∨ p ∈ ks := by
  induction ks with
  | nil => simpa [setKid] using h
  | cons q rest ih =>
    obtain ⟨e, u⟩ := q
    unfold setKid at h
    split at h
    · simpa using h
    · split at h
      · rename_i hce
        subst hce
        rcases List.mem_cons.1 h with h | h
        · exact Or.inl h
        · exact Or.inr (List.mem_cons_of_mem _ h)
      · rcases List.mem_cons.1 h with h | h
        · exact Or.inr (h ▸ List.mem_cons_self)
        · rcases ih h with h | h
          · exact Or.inl h
          · exact Or.inr (List.mem_cons_of_mem _ h)

theorem pairwise_setKid {c : UInt8} {t : Node} {ks : List (UInt8 × Node)}
    (h : ks.Pairwise fun p q => p.1 < q.1) : (setKid c t ks).Pairwise fun p q => p.1 < q.1 := by
  induction ks with
  | nil => simp [setKid]
  | cons q rest ih =>
    obtain ⟨e, u⟩ := q
    rw [List.pairwise_cons] at h
    unfold setKid
    split
    · rename_i hce
      refine List.Pairwise.cons (fun p hp => ?_) (List.Pairwise.cons h.1 h.2)
      rcases List.mem_cons.1 hp with rfl | hp
      · exact hce
      · exact UInt8.lt_trans hce (h.1 p hp)
    · split
      · rename_i hce
        subst hce
        exact List.Pairwise.cons h.1 h.2
      · rename_i hce hce'
        have hec : e < c := by grind
        refine List.Pairwise.cons (fun p hp => ?_) (ih h.2)
        rcases mem_setKid hp with rfl | hp
        · exact hec
        · exact h.1 p hp

theorem ordered_empty : empty.Ordered :=
  .node (by simp) (by simp) (by simp)

/-- Planting keeps the children letters in increasing order. -/
theorem Ordered.plant {w : Bytes} (hw : ∀ b ∈ w, Bytes.isLetter b = true) {n : Node}
    (h : n.Ordered) : (n.plant w).1.Ordered := by
  induction w generalizing n with
  | nil =>
    cases h with
    | node hs hl hk => exact .node hs hl hk
  | cons c cs ih =>
    obtain ⟨hc, hcs⟩ := List.forall_mem_cons.1 hw
    cases h with
    | @node s ks hs hl hk =>
      rw [plant_cons]
      have hkid : (((Node.node s ks).kid? c).getD empty).Ordered := by
        cases hkc : (Node.node s ks).kid? c with
        | none => exact ordered_empty
        | some t => exact hk _ (kid?_mem hkc)
      have hnew := ih hcs hkid
      refine .node (pairwise_setKid hs) (fun p hp => ?_) (fun p hp => ?_)
      · rcases mem_setKid hp with rfl | hp
        · exact hc
        · exact hl p hp
      · rcases mem_setKid hp with rfl | hp
        · exact hnew
        · exact hk p hp

end Node

/-! ### The sets a trie stores -/

/-- The paths of the nodes of a trie storing `S`: the prefixes of its words, and the empty path
of the root. -/
def prefixes (S : Finset Bytes) : Finset Bytes :=
  Insert.insert [] (S.biUnion fun s => s.inits.toFinset)

theorem mem_prefixes {S : Finset Bytes} {x : Bytes} :
    x ∈ prefixes S ↔ x = [] ∨ ∃ s ∈ S, x <+: s := by
  simp [prefixes, List.mem_inits]

theorem prefixes_insert (w : Bytes) (S : Finset Bytes) :
    prefixes (Insert.insert w S) = prefixes S ∪ w.inits.toFinset := by
  ext x
  simp only [mem_prefixes, Finset.mem_insert, Finset.mem_union, List.mem_toFinset, List.mem_inits]
  grind

theorem nodup_inits (w : Bytes) : w.inits.Nodup := by
  induction w with
  | nil => simp
  | cons c cs ih =>
    rw [List.inits_cons]
    exact List.nodup_cons.2 ⟨by simp, ih.map List.cons_injective⟩

/-- Counting the prefixes of `w` outside `P` is the size of their set. -/
theorem countP_inits_eq_card_sdiff (w : Bytes) {P : Finset Bytes} {f : Bytes → Bool}
    (hf : ∀ x, f x = true ↔ x ∉ P) : w.inits.countP f = (w.inits.toFinset \ P).card := by
  rw [List.countP_eq_length_filter, ← List.toFinset_card_of_nodup ((nodup_inits w).filter _)]
  congr 1
  ext x
  simp [hf]

theorem contains_eq_holds (t : Trie) (x : Bytes) : t.contains x = t.root.holds x :=
  rfl

theorem hasPrefix_eq_isSome (t : Trie) (x : Bytes) : t.hasPrefix x = (t.root.find? x).isSome :=
  rfl

/-- Inserting a letter word plants it and adds what planting reports to the counters. -/
theorem insert_of_letters {t : Trie} {w : Bytes} (hw : ∀ b ∈ w, Bytes.isLetter b = true) :
    t.insert w = .ok ⟨(t.root.plant w).1,
      if (t.root.plant w).2.2 then t.wordCount + 1 else t.wordCount,
      t.nodeCount + (t.root.plant w).2.1⟩ := by
  rcases hp : t.root.plant w with ⟨r, f, m⟩
  simp [Trie.insert, List.all_eq_true.2 hw, hp]

/-- Only a word of letters is accepted. -/
theorem letters_of_insert_eq_ok {t t' : Trie} {w : Bytes} (ht : t.insert w = .ok t') :
    ∀ b ∈ w, Bytes.isLetter b = true := by
  by_contra hb
  rw [insert_eq_error_iff.2 (by simpa using hb)] at ht
  cases ht

/-- Inserts the words in order; a refused word leaves the trie as it was. -/
def insertAll (t : Trie) (ws : List Bytes) : Trie :=
  ws.foldl (fun t w => match t.insert w with
    | .ok t' => t'
    | .error _ => t) t

/-- The distinct words of `ws` made of letters only, the empty word included. -/
def letterWords (ws : List Bytes) : Finset Bytes :=
  (ws.filter fun w => w.all Bytes.isLetter).toFinset

theorem letterWords_cons (w : Bytes) (ws : List Bytes) :
    letterWords (w :: ws) =
      if w.all Bytes.isLetter then Insert.insert w (letterWords ws) else letterWords ws := by
  unfold letterWords
  split <;> simp_all

/-- The trie `t` stores exactly the set `S` of words: a word ends at `x` when `x ∈ S`, a node is
found at `x` when `x` is a prefix of a word of `S` or empty, the counters are the sizes of
those two sets, and the children are ordered. -/
structure Stores (t : Trie) (S : Finset Bytes) : Prop where
  ordered : t.root.Ordered
  holds_iff : ∀ x, t.root.holds x = true ↔ x ∈ S
  found_iff : ∀ x, (t.root.find? x).isSome = true ↔ x ∈ prefixes S
  wordCount_eq : t.wordCount = S.card
  nodeCount_eq : t.nodeCount = (prefixes S).card

namespace Stores

variable {t : Trie} {S : Finset Bytes}

theorem contains_iff (h : t.Stores S) (x : Bytes) : t.contains x = true ↔ x ∈ S := by
  rw [contains_eq_holds]
  exact h.holds_iff x

theorem hasPrefix_iff (h : t.Stores S) (x : Bytes) :
    t.hasPrefix x = true ↔ x = [] ∨ ∃ s ∈ S, x <+: s := by
  rw [hasPrefix_eq_isSome, h.found_iff, mem_prefixes]

theorem empty : Trie.empty.Stores ∅ where
  ordered := Node.ordered_empty
  holds_iff x := by simp [Trie.empty]
  found_iff x := by
    cases x with
    | nil => simp [Trie.empty, mem_prefixes, Node.find?]
    | cons d y => simp [Trie.empty, mem_prefixes]
  wordCount_eq := rfl
  nodeCount_eq := by simp [Trie.empty, prefixes]

/-- An accepted insertion adds its word to the stored set. -/
theorem insert {t' : Trie} {w : Bytes} (h : t.Stores S) (ht : t.insert w = .ok t') :
    t'.Stores (Insert.insert w S) := by
  have hw := letters_of_insert_eq_ok ht
  rw [insert_of_letters hw, Except.ok.injEq] at ht
  subst ht
  refine ⟨h.ordered.plant hw, fun x => ?_, fun x => ?_, ?_, ?_⟩
  · rw [Node.holds_plant hw, Bool.or_eq_true, h.holds_iff x, Finset.mem_insert, beq_iff_eq]
  · rw [Node.isSome_find?_plant hw, Bool.or_eq_true, h.found_iff x, prefixes_insert,
      Finset.mem_union, List.mem_toFinset, List.mem_inits, decide_eq_true_iff]
  · -- the end is marked exactly when the word is new
    rw [Node.plant_marked hw]
    by_cases hS : w ∈ S
    · rw [(h.holds_iff w).2 hS, Finset.insert_eq_of_mem hS, h.wordCount_eq]
      rfl
    · have hn : t.root.holds w = false := Bool.eq_false_iff.2 ((h.holds_iff w).not.2 hS)
      rw [hn, Finset.card_insert_of_notMem hS, h.wordCount_eq]
      rfl
  · -- one node for each prefix of the word not found before
    have hf : ∀ x, (!(t.root.find? x).isSome) = true ↔ x ∉ prefixes S := fun x => by
      rw [Bool.not_eq_true', Bool.eq_false_iff, ne_eq, h.found_iff]
    show t.nodeCount + (t.root.plant w).2.1 = _
    rw [Node.plant_fresh hw, countP_inits_eq_card_sdiff w hf, h.nodeCount_eq, prefixes_insert,
      Finset.union_comm, ← Finset.card_sdiff_add_card, Nat.add_comm]

/-- Inserting a list of words adds its letter words to the stored set. -/
theorem insertAll (h : t.Stores S) (ws : List Bytes) :
    (t.insertAll ws).Stores (S ∪ letterWords ws) := by
  induction ws generalizing t S with
  | nil => simpa [Trie.insertAll, letterWords] using h
  | cons w ws ih =>
    rw [Trie.insertAll, List.foldl_cons, ← Trie.insertAll, letterWords_cons]
    cases hi : t.insert w with
    | error e =>
      -- a refused word changes neither the trie nor the set
      have hw : w.all Bytes.isLetter = false := by
        cases e
        simpa using insert_eq_error_iff.1 hi
      simpa [hw] using ih h
    | ok t' =>
      have hw : w.all Bytes.isLetter = true := List.all_eq_true.2 (letters_of_insert_eq_ok hi)
      simpa [hw, Finset.union_insert, Finset.insert_union] using ih (h.insert hi)

end Stores

/-- After any sequence of insertions into an empty trie, it stores their letter words. -/
theorem stores_insertAll (ws : List Bytes) : (Trie.empty.insertAll ws).Stores (letterWords ws) := by
  simpa using Stores.empty.insertAll ws

end WordSift.Trie
