import WordSift.Proofs.Trie.Store

/-!
# The nodes of a trie in walk order

`Node.entries` lists the nodes under a node as a walk enters them: the node itself, then the
nodes under each child in turn, each with its path from the root and whether a word ends
there. Its paths (`Node.paths`) and the words among them (`Node.ends`) are read off it.

On a node whose children are ordered (`Node.Ordered`) a path is listed exactly when `find?`
reaches a node by it (`mem_entries`), and the paths come in strictly increasing byte order
(`pairwise_paths`): the node's own path is a proper prefix of every path below it, and the
paths under a smaller letter are smaller. So the entries under the node a prefix leads to are
those of the whole trie that start with the prefix, in the same order (`paths_find?`,
`ends_find?`): a strictly increasing list is fixed by its members.
-/

namespace WordSift.Trie

open scoped List

namespace Node

mutual
/-- The nodes under a node in the order a walk enters them, each with its path and whether a
word ends there. -/
def entries : Node → Bytes → List (Bytes × Bool)
  | .node stop ks, path => (path, stop) :: kidsEntries ks path

/-- The entries under each child in turn. -/
def kidsEntries : List (UInt8 × Node) → Bytes → List (Bytes × Bool)
  | [], _ => []
  | (c, t) :: rest, path => entries t (path ++ [c]) ++ kidsEntries rest path
end

/-- The paths of the nodes under `n`, in walk order. -/
def paths (n : Node) (path : Bytes) : List Bytes := (n.entries path).map (·.1)

/-- The words stored under `n`, in walk order. -/
def ends (n : Node) (path : Bytes) : List Bytes := ((n.entries path).filter (·.2)).map (·.1)

theorem entries_node (s : Bool) (ks : List (UInt8 × Node)) (path : Bytes) :
    (Node.node s ks).entries path =
      (path, s) :: ks.flatMap fun p => p.2.entries (path ++ [p.1]) := by
  rw [entries]
  congr 1
  induction ks with
  | nil => rfl
  | cons p rest ih =>
    obtain ⟨c, t⟩ := p
    rw [kidsEntries, ih, List.flatMap_cons]

theorem ends_sublist_paths (n : Node) (path : Bytes) : n.ends path <+ n.paths path :=
  List.filter_sublist.map _

/-! ### Finding a path -/

theorem find?_append (n : Node) (x y : Bytes) : n.find? (x ++ y) = (n.find? x).bind (·.find? y) := by
  induction x generalizing n with
  | nil => rfl
  | cons c x ih =>
    rw [List.cons_append, find?_cons, find?_cons]
    split
    · cases n.kid? c <;> simp [ih]
    · rfl

theorem holds_append {n m : Node} {x : Bytes} (h : n.find? x = some m) (y : Bytes) :
    n.holds (x ++ y) = m.holds y := by
  unfold holds
  rw [find?_append, h, Option.bind_some]

/-- A path `find?` follows is made of letters. -/
theorem letters_of_find? {n m : Node} {x : Bytes} (h : n.find? x = some m) :
    ∀ b ∈ x, Bytes.isLetter b = true := by
  induction x generalizing n with
  | nil => simp
  | cons c x ih =>
    rw [find?_cons] at h
    split at h
    · rename_i hc
      obtain ⟨t, -, ht⟩ := Option.bind_eq_some_iff.1 h
      intro b hb
      rcases List.mem_cons.1 hb with rfl | hb
      · exact hc
      · exact ih ht b hb
    · cases h

theorem isSome_find?_of_holds {n : Node} {x : Bytes} (h : n.holds x = true) :
    (n.find? x).isSome := by
  unfold holds at h
  split at h
  · rename_i m hm
    rw [hm]
    rfl
  · cases h

/-- A node is found at every prefix of a path where one is found. -/
theorem isSome_find?_of_prefix {n : Node} {x y : Bytes} (hx : (n.find? x).isSome)
    (hy : y <+: x) : (n.find? y).isSome := by
  obtain ⟨r, rfl⟩ := hy
  rw [find?_append] at hx
  cases hm : n.find? y with
  | none =>
    rw [hm] at hx
    cases hx
  | some m => rfl

/-- With ordered children, the child at a letter is the one listed with it. -/
theorem kid?_eq_of_mem {s : Bool} {ks : List (UInt8 × Node)} {c : UInt8} {t : Node}
    (hs : ks.Pairwise fun p q => p.1 < q.1) (h : (c, t) ∈ ks) : (Node.node s ks).kid? c = some t := by
  induction ks with
  | nil => cases h
  | cons p rest ih =>
    obtain ⟨d, u⟩ := p
    rw [List.pairwise_cons] at hs
    simp only [kid?, kids, List.find?_cons] at ih ⊢
    rcases List.mem_cons.1 h with h | h
    · cases h
      simp
    · have hdc : d ≠ c := UInt8.ne_of_lt (hs.1 _ h)
      have hne : (d == c) = false := by simp [hdc]
      simp only [hne]
      exact ih hs.2 h

/-- A listed entry is a path `find?` reaches, with the end mark of the node it reaches. -/
theorem mem_entries {n : Node} (h : n.Ordered) (path x : Bytes) (b : Bool) :
    (x, b) ∈ n.entries path ↔ ∃ y m, x = path ++ y ∧ n.find? y = some m ∧ m.stop = b := by
  induction h generalizing path with
  | @node s ks hs hl hk ih =>
    rw [entries_node, List.mem_cons, List.mem_flatMap]
    constructor
    · rintro (he | ⟨⟨c, t⟩, hct, hx⟩)
      · obtain ⟨rfl, rfl⟩ := Prod.mk.inj he
        exact ⟨[], _, by simp, rfl, rfl⟩
      · obtain ⟨y, m, rfl, hy, hm⟩ := (ih _ hct _).1 hx
        refine ⟨c :: y, m, by simp, ?_, hm⟩
        rw [find?_cons, if_pos (hl _ hct), kid?_eq_of_mem hs hct, Option.bind_some]
        exact hy
    · rintro ⟨y, m, rfl, hy, rfl⟩
      cases y with
      | nil =>
        cases hy
        exact Or.inl (by simp [stop])
      | cons c y =>
        -- the first byte picks the child; the rest of the path is found under it
        rw [find?_cons] at hy
        split at hy
        · obtain ⟨t, hct, hy⟩ := Option.bind_eq_some_iff.1 hy
          refine Or.inr ⟨(c, t), kid?_mem hct, (ih _ (kid?_mem hct) _).2 ⟨y, m, ?_, hy, rfl⟩⟩
          simp
        · cases hy

theorem mem_paths {n : Node} (h : n.Ordered) (path x : Bytes) :
    x ∈ n.paths path ↔ ∃ y, x = path ++ y ∧ (n.find? y).isSome := by
  simp only [paths, List.mem_map, Prod.exists, exists_and_right, exists_eq_right]
  constructor
  · rintro ⟨b, hb⟩
    obtain ⟨y, m, rfl, hy, -⟩ := (mem_entries h path x b).1 hb
    exact ⟨y, rfl, by simp [hy]⟩
  · rintro ⟨y, rfl, hy⟩
    obtain ⟨m, hm⟩ := Option.isSome_iff_exists.1 hy
    exact ⟨m.stop, (mem_entries h _ _ _).2 ⟨y, m, rfl, hm, rfl⟩⟩

theorem mem_ends {n : Node} (h : n.Ordered) (path x : Bytes) :
    x ∈ n.ends path ↔ ∃ y, x = path ++ y ∧ n.holds y = true := by
  simp only [ends, List.mem_map, List.mem_filter, Prod.exists, exists_and_right,
    exists_eq_right]
  rw [mem_entries h]
  constructor
  · rintro ⟨y, m, rfl, hy, hm⟩
    exact ⟨y, rfl, by simp [holds, hy, hm]⟩
  · rintro ⟨y, rfl, hy⟩
    unfold holds at hy
    split at hy
    · rename_i m hm
      exact ⟨y, m, rfl, hm, hy⟩
    · cases hy

/-- The stored words are made of letters. -/
theorem letters_of_mem_ends {n : Node} (h : n.Ordered) {x : Bytes}
    (hx : x ∈ n.ends []) : ∀ b ∈ x, Bytes.isLetter b = true := by
  obtain ⟨y, rfl, hy⟩ := (mem_ends h [] x).1 hx
  unfold holds at hy
  split at hy
  · rename_i m hm
    simpa using letters_of_find? hm
  · cases hy

/-! ### Walk order is increasing byte order -/

theorem lt_append_cons (x : Bytes) (c : UInt8) (y : Bytes) : x < x ++ c :: y := by
  have h : x ++ [] < x ++ c :: y := List.append_left_lt (List.nil_lt_cons c y)
  rwa [List.append_nil] at h

/-- Paths through a smaller letter after a common path are smaller. -/
theorem lt_of_prefix_snoc {path x y : Bytes} {c d : UInt8} (hcd : c < d)
    (hx : path ++ [c] <+: x) (hy : path ++ [d] <+: y) : x < y := by
  obtain ⟨x', rfl⟩ := hx
  obtain ⟨y', rfl⟩ := hy
  simp only [List.append_assoc, List.singleton_append]
  exact List.append_left_lt (List.cons_lt_cons_iff.2 (Or.inl hcd))

theorem prefix_of_mem_paths {n : Node} (h : n.Ordered) {path x : Bytes}
    (hx : x ∈ n.paths path) : path <+: x := by
  obtain ⟨y, rfl, -⟩ := (mem_paths h path x).1 hx
  exact List.prefix_append _ _

/-- The paths of an ordered node come in strictly increasing byte order. -/
theorem pairwise_paths {n : Node} (h : n.Ordered) (path : Bytes) :
    (n.paths path).Pairwise (· < ·) := by
  induction h generalizing path with
  | @node s ks hs hl hk ih =>
    rw [paths, entries_node, List.map_cons, List.map_flatMap]
    refine List.Pairwise.cons (fun x hx => ?_) (List.pairwise_flatMap.2 ⟨fun p hp => ih p hp _, ?_⟩)
    · -- the node's own path is a proper prefix of every path below it
      obtain ⟨p, hp, hx⟩ := List.mem_flatMap.1 hx
      obtain ⟨z, rfl⟩ := prefix_of_mem_paths (hk p hp) hx
      simpa using lt_append_cons path p.1 z
    · -- the paths under a smaller letter are smaller
      exact hs.imp_of_mem fun hp hq hcd x hx y hy =>
        lt_of_prefix_snoc hcd (prefix_of_mem_paths (hk _ hp) hx) (prefix_of_mem_paths (hk _ hq) hy)

theorem pairwise_ends {n : Node} (h : n.Ordered) (path : Bytes) :
    (n.ends path).Pairwise (· < ·) :=
  (pairwise_paths h path).sublist (ends_sublist_paths n path)

/-! ### The entries under a prefix -/

section Under

variable {n m : Node} (h : n.Ordered) {pre : Bytes} (hm : n.find? pre = some m)
include h hm

theorem ordered_of_find? : m.Ordered := by
  induction pre generalizing n with
  | nil =>
    cases hm
    exact h
  | cons c y ih =>
    rw [find?_cons] at hm
    split at hm
    · obtain ⟨t, hct, hy⟩ := Option.bind_eq_some_iff.1 hm
      cases h with
      | node _ _ hk => exact ih (hk _ (kid?_mem hct)) hy
    · cases hm

/-- The paths under the node a prefix leads to are the paths of the whole trie that start
with it, in the same order. -/
theorem paths_find? : m.paths pre = (n.paths []).filter (pre <+: ·) := by
  have hm' := ordered_of_find? h hm
  refine (pairwise_paths hm' pre).eq_of_mem_iff ((pairwise_paths h []).sublist List.filter_sublist)
    fun x => ?_
  rw [List.mem_filter, mem_paths hm', mem_paths h, decide_eq_true_iff]
  constructor
  · rintro ⟨y, rfl, hy⟩
    exact ⟨⟨pre ++ y, rfl, by rwa [find?_append, hm, Option.bind_some]⟩, List.prefix_append _ _⟩
  · rintro ⟨⟨x, rfl, hx⟩, ⟨y, rfl⟩⟩
    exact ⟨y, by simp, by rwa [find?_append, hm, Option.bind_some] at hx⟩

/-- The words under the node a prefix leads to are the stored words that start with it, in
the same order. -/
theorem ends_find? : m.ends pre = (n.ends []).filter (pre <+: ·) := by
  have hm' := ordered_of_find? h hm
  refine (pairwise_ends hm' pre).eq_of_mem_iff ((pairwise_ends h []).sublist List.filter_sublist)
    fun x => ?_
  rw [List.mem_filter, mem_ends hm', mem_ends h, decide_eq_true_iff]
  constructor
  · rintro ⟨y, rfl, hy⟩
    exact ⟨⟨pre ++ y, rfl, by rwa [holds_append hm]⟩, List.prefix_append _ _⟩
  · rintro ⟨⟨x, rfl, hx⟩, ⟨y, rfl⟩⟩
    exact ⟨y, by simp, by rwa [holds_append hm] at hx⟩

end Under

end Node

end WordSift.Trie
