import WordSift.Lcs
import WordSift.Proofs.Rows

/-!
# The subsequences read off the tables are longest common subsequences

Entry `(i, j)` of the table of two words bounds every common subsequence of their first `i`
and `j` bytes (`length_le_at2`): take such a subsequence apart at its last byte, which either
is the last byte of both prefixes or misses the last byte of one of them. The walk back from
an entry reads off a common subsequence of exactly that length (`back2_spec`), since each step
it takes off a match goes to a neighbour holding the entry's value. Together: `lcs2` is a longest
common subsequence, of length `length2`. The same two inductions, one dimension up, give
`lcs3`; its bound does not follow from the one for two words.

Both inductions rest on the recurrence of the tables (`at2_succ_succ`, `at3_succ_succ_succ`),
which comes from how their rows are built entry by entry.
-/

namespace WordSift.Lcs

open Rows
open scoped List

/-- `l` is a longest common subsequence of the words `ws`: a subsequence of each of them, and
no common subsequence is longer. -/
def IsLongestCommon (ws : List Bytes) (l : Bytes) : Prop :=
  (∀ w ∈ ws, l <+ w) ∧ ∀ l' : Bytes, (∀ w ∈ ws, l' <+ w) → l'.length ≤ l.length

/-! ### Subsequences of a word grown by one byte -/

section Snoc

variable {α : Type} {l xs : List α} {x y : α}

theorem sublist_of_snoc_sublist_snoc (h : l ++ [x] <+ xs ++ [y]) : l <+ xs := by
  have h' : x :: l.reverse <+ y :: xs.reverse := by simpa using List.reverse_sublist.2 h
  rcases List.sublist_cons_iff.1 h' with h'' | ⟨r, hr, h''⟩
  · simpa using (List.sublist_cons_self x l.reverse).trans h''
  · cases hr
    simpa using h''

theorem snoc_sublist_of_ne (h : l ++ [x] <+ xs ++ [y]) (hxy : x ≠ y) : l ++ [x] <+ xs := by
  have h' : x :: l.reverse <+ y :: xs.reverse := by simpa using List.reverse_sublist.2 h
  rcases List.sublist_cons_iff.1 h' with h'' | ⟨r, hr, -⟩
  · simpa using h''.reverse
  · exact absurd (List.cons.inj hr).1 hxy

end Snoc

theorem take_succ_eq_snoc {l : Bytes} {i : Nat} (hi : i < l.length) :
    l.take (i + 1) = l.take i ++ [l[i]] :=
  List.take_succ_eq_append_getElem hi

theorem toArray_getElem?_beq {a b : Bytes} {i j : Nat} (hi : i < a.length) (hj : j < b.length) :
    (a.toArray[i]? == b.toArray[j]?) = true ↔ a[i] = b[j] := by
  simp [hi, hj]

theorem toArray_getD {a : Bytes} {i : Nat} (hi : i < a.length) : a.toArray.getD i 0 = a[i] := by
  simp [hi]

/-! ### The table of two words -/

/-- Row `i` of the table of `a` and `b`. -/
def row2 (a b : Bytes) (i : Nat) : Array Nat :=
  (a.take i).foldl (nextRow2 b.toArray) (Array.replicate (b.length + 1) 0)

theorem at2_table2 {a b : Bytes} {i : Nat} (hi : i ≤ a.length) (j : Nat) :
    at2 (table2 a b) i j = (row2 a b i).getD j 0 := by
  simp [at2, table2, row2, hi]

theorem row2_succ {a b : Bytes} {i : Nat} (hi : i < a.length) :
    row2 a b (i + 1) = nextRow2 b.toArray (row2 a b i) a[i] := by
  rw [row2, take_succ_eq_snoc hi, List.foldl_append]
  rfl

theorem nextRow2_eq (b : Array UInt8) (above : Array Nat) (x : UInt8) :
    nextRow2 b above x = pushRow (entry2 b above x) #[0] b.size :=
  rfl

theorem getElem?_nextRow2 (b : Array UInt8) (above : Array Nat) (x : UInt8) {k : Nat}
    (hk : k < b.size) :
    (nextRow2 b above x)[k + 1]? = some (entry2 b above x (nextRow2 b above x) k) := by
  rw [nextRow2_eq, Nat.add_comm]
  refine getElem?_pushRow (fun row row' h => ?_) hk
  simp only [entry2, Array.getD_eq_getD_getElem?, h k (by simp)]

theorem at2_zero_left (a b : Bytes) (j : Nat) : at2 (table2 a b) 0 j = 0 := by
  rw [at2_table2 (Nat.zero_le _)]
  simp only [row2, List.take_zero, List.foldl_nil, Array.getD_eq_getD_getElem?]
  by_cases hj : j < b.length + 1 <;> simp [hj]

theorem at2_zero_right {a b : Bytes} {i : Nat} (hi : i ≤ a.length) :
    at2 (table2 a b) i 0 = 0 := by
  cases i with
  | zero => exact at2_zero_left a b 0
  | succ i =>
    rw [at2_table2 hi, row2_succ (by omega), nextRow2_eq, Array.getD_eq_getD_getElem?,
      getElem?_pushRow_init _ _ _ (by simp)]
    rfl

/-- The recurrence of the table of two words. -/
theorem at2_succ_succ {a b : Bytes} {i j : Nat} (hi : i < a.length) (hj : j < b.length) :
    at2 (table2 a b) (i + 1) (j + 1) =
      if a[i] = b[j] then at2 (table2 a b) i j + 1
      else max (at2 (table2 a b) i (j + 1)) (at2 (table2 a b) (i + 1) j) := by
  rw [at2_table2 (Nat.le_of_lt hi), at2_table2 (Nat.le_of_lt hi), at2_table2 hi, at2_table2 hi,
    row2_succ hi,
    Array.getD_eq_getD_getElem?, getElem?_nextRow2 _ _ _ (by simpa using hj)]
  by_cases hab : a[i] = b[j]
  · simp [entry2, hj, hab]
  · simp [entry2, hj, hab, Ne.symm hab]

/-- No common subsequence of the first `i` bytes of `a` and the first `j` of `b` is longer
than entry `(i, j)`. -/
theorem length_le_at2 {a b : Bytes} {i : Nat} (hi : i ≤ a.length) :
    ∀ {j : Nat}, j ≤ b.length → ∀ {l : Bytes}, l <+ a.take i → l <+ b.take j →
      l.length ≤ at2 (table2 a b) i j := by
  induction i with
  | zero => intro j _ l ha _; simp_all
  | succ i ihi =>
    intro j hj
    induction j with
    | zero => intro l _ hb; simp_all
    | succ j ihj =>
      intro l ha hb
      rw [at2_succ_succ (by omega) (by omega)]
      rcases List.eq_nil_or_concat l with rfl | ⟨l', x, rfl⟩
      · exact Nat.zero_le _
      rw [List.concat_eq_append] at ha hb ⊢
      rw [take_succ_eq_snoc (by omega)] at ha
      rw [take_succ_eq_snoc (by omega)] at hb
      split
      · -- both prefixes end with the same byte: the rest is a common subsequence one shorter
        have := ihi (by omega) (by omega) (sublist_of_snoc_sublist_snoc ha)
          (sublist_of_snoc_sublist_snoc hb)
        simp only [List.length_append, List.length_singleton]
        omega
      · -- the last byte misses the last byte of one of the two prefixes
        rename_i hne
        by_cases hxa : x = a[i]
        · have hxb : x ≠ b[j] := fun h => hne (hxa ▸ h)
          have ha' : l' ++ [x] <+ a.take (i + 1) := by rwa [take_succ_eq_snoc (by omega)]
          have := ihj (by omega) ha' (snoc_sublist_of_ne hb hxb)
          omega
        · have hb' : l' ++ [x] <+ b.take (j + 1) := by rwa [take_succ_eq_snoc (by omega)]
          have := ihi (by omega) (by omega) (snoc_sublist_of_ne ha hxa) hb'
          omega

/-- The walk back from entry `(i, j)` puts before `acc` a common subsequence of the first `i`
bytes of `a` and the first `j` of `b` whose length is the entry. -/
theorem back2_spec {a b : Bytes} {i j : Nat} (acc : Bytes) (hi : i ≤ a.length)
    (hj : j ≤ b.length) :
    ∃ r, back2 (table2 a b) a.toArray b.toArray i j acc = r ++ acc ∧ r <+ a.take i ∧
      r <+ b.take j ∧ r.length = at2 (table2 a b) i j := by
  fun_induction back2 (table2 a b) a.toArray b.toArray i j acc with
  | case1 acc i j heq ih =>
    -- the bytes agree: keep one and step back in both words
    rw [toArray_getElem?_beq (by omega) (by omega)] at heq
    obtain ⟨r, hr, hra, hrb, hlen⟩ := ih (by omega) (by omega)
    rw [toArray_getD (by omega)] at hr ⊢
    refine ⟨r ++ [a[i]], by simpa using hr, ?_, ?_, ?_⟩
    · rw [take_succ_eq_snoc (by omega)]
      exact hra.append_right _
    · rw [take_succ_eq_snoc (by omega), ← heq]
      exact hrb.append_right _
    · rw [at2_succ_succ (by omega) (by omega), if_pos heq]
      simp [hlen]
  | case2 acc i j hne hgt ih =>
    rw [toArray_getElem?_beq (by omega) (by omega)] at hne
    obtain ⟨r, hr, hra, hrb, hlen⟩ := ih (by omega) hj
    refine ⟨r, hr, ?_, hrb, ?_⟩
    · rw [take_succ_eq_snoc (by omega)]
      exact hra.trans (List.sublist_append_left _ _)
    · rw [at2_succ_succ (by omega) (by omega), if_neg hne, hlen]
      omega
  | case3 acc i j hne hle ih =>
    rw [toArray_getElem?_beq (by omega) (by omega)] at hne
    obtain ⟨r, hr, hra, hrb, hlen⟩ := ih hi (by omega)
    refine ⟨r, hr, hra, ?_, ?_⟩
    · rw [take_succ_eq_snoc (by omega)]
      exact hrb.trans (List.sublist_append_left _ _)
    · rw [at2_succ_succ (by omega) (by omega), if_neg hne, hlen]
      omega
  | case4 i j acc hzero =>
    refine ⟨[], rfl, List.nil_sublist _, List.nil_sublist _, ?_⟩
    rcases i with _ | i
    · simp [at2_zero_left]
    · rcases j with _ | j
      · simp [at2_zero_right hi]
      · exact absurd rfl (hzero i j rfl)

theorem lcs2_spec (a b : Bytes) :
    lcs2 a b <+ a ∧ lcs2 a b <+ b ∧ (lcs2 a b).length = length2 a b := by
  obtain ⟨r, hr, hra, hrb, hlen⟩ := back2_spec [] (Nat.le_refl a.length) (Nat.le_refl b.length)
  have e : lcs2 a b = r := by rw [lcs2, hr, List.append_nil]
  rw [List.take_length] at hra hrb
  exact ⟨e ▸ hra, e ▸ hrb, e ▸ hlen⟩

theorem length_le_length2 {a b l : Bytes} (ha : l <+ a) (hb : l <+ b) : l.length ≤ length2 a b := by
  have ha' : l <+ a.take a.length := by rwa [List.take_length]
  have hb' : l <+ b.take b.length := by rwa [List.take_length]
  exact length_le_at2 (Nat.le_refl _) (Nat.le_refl _) ha' hb'

/-- The subsequence read off the table of two words is common to both, as long as the table
says, and no common subsequence is longer. -/
theorem lcs2_common_longest (a b : Bytes) :
    lcs2 a b <+ a ∧ lcs2 a b <+ b ∧ (lcs2 a b).length = length2 a b ∧
      ∀ l : Bytes, l <+ a → l <+ b → l.length ≤ length2 a b := by
  obtain ⟨ha, hb, hlen⟩ := lcs2_spec a b
  exact ⟨ha, hb, hlen, fun l hla hlb => length_le_length2 hla hlb⟩

/-! ### The table of three words -/

/-- Plane `i` of the table of `a`, `b` and `d`. -/
def plane3 (a b d : Bytes) (i : Nat) : Array (Array Nat) :=
  (a.take i).foldl (nextPlane3 b.toArray d.toArray)
    (Array.replicate (b.length + 1) (Array.replicate (d.length + 1) 0))

theorem at3_table3 {a b d : Bytes} {i : Nat} (hi : i ≤ a.length) (j k : Nat) :
    at3 (table3 a b d) i j k = ((plane3 a b d i).getD j #[]).getD k 0 := by
  simp [at3, table3, plane3, hi]

theorem plane3_succ {a b d : Bytes} {i : Nat} (hi : i < a.length) :
    plane3 a b d (i + 1) = nextPlane3 b.toArray d.toArray (plane3 a b d i) a[i] := by
  rw [plane3, take_succ_eq_snoc hi, List.foldl_append]
  rfl

theorem nextPlane3_eq (b w : Array UInt8) (above : Array (Array Nat)) (x : UInt8) :
    nextPlane3 b w above x = pushRow (fun pl j => nextLine3 b w above x j (pl.getD j #[]))
      #[Array.replicate (w.size + 1) 0] b.size :=
  rfl

theorem nextLine3_eq (b w : Array UInt8) (above : Array (Array Nat)) (x : UInt8) (j : Nat)
    (left : Array Nat) :
    nextLine3 b w above x j left = pushRow (entry3 b w above x j left) #[0] w.size :=
  rfl

theorem getElem?_nextPlane3 (b w : Array UInt8) (above : Array (Array Nat)) (x : UInt8)
    {j : Nat} (hj : j < b.size) :
    (nextPlane3 b w above x)[j + 1]? =
      some (nextLine3 b w above x j ((nextPlane3 b w above x).getD j #[])) := by
  rw [nextPlane3_eq, show j + 1 = 1 + j by omega]
  refine getElem?_pushRow (fun pl pl' h => ?_) hj
  simp only [Array.getD_eq_getD_getElem?, h j (by simp)]

theorem getElem?_nextLine3 (b w : Array UInt8) (above : Array (Array Nat)) (x : UInt8)
    (j : Nat) (left : Array Nat) {k : Nat} (hk : k < w.size) :
    (nextLine3 b w above x j left)[k + 1]? =
      some (entry3 b w above x j left (nextLine3 b w above x j left) k) := by
  rw [nextLine3_eq, Nat.add_comm]
  refine getElem?_pushRow (fun row row' h => ?_) hk
  simp only [entry3, Array.getD_eq_getD_getElem?, h k (by simp)]

theorem at3_zero_left (a b d : Bytes) (j k : Nat) : at3 (table3 a b d) 0 j k = 0 := by
  rw [at3_table3 (Nat.zero_le _)]
  simp only [plane3, List.take_zero, List.foldl_nil, Array.getD_eq_getD_getElem?]
  by_cases hj : j < b.length + 1 <;> by_cases hk : k < d.length + 1 <;> simp [hj, hk]

theorem at3_zero_mid {a b d : Bytes} {i : Nat} (hi : i ≤ a.length) (k : Nat) :
    at3 (table3 a b d) i 0 k = 0 := by
  cases i with
  | zero => exact at3_zero_left a b d 0 k
  | succ i =>
    rw [at3_table3 hi, plane3_succ (by omega), nextPlane3_eq]
    simp only [Array.getD_eq_getD_getElem?]
    rw [getElem?_pushRow_init _ _ _ (by simp)]
    by_cases hk : k < d.length + 1 <;> simp [hk]

theorem at3_zero_right {a b d : Bytes} {i j : Nat} (hi : i ≤ a.length) (hj : j ≤ b.length) :
    at3 (table3 a b d) i j 0 = 0 := by
  cases i with
  | zero => exact at3_zero_left a b d j 0
  | succ i =>
    cases j with
    | zero => exact at3_zero_mid hi 0
    | succ j =>
      rw [at3_table3 hi, plane3_succ (by omega)]
      simp only [Array.getD_eq_getD_getElem?]
      rw [getElem?_nextPlane3 _ _ _ _ (by simp; omega), Option.getD_some, nextLine3_eq,
        getElem?_pushRow_init _ _ _ (by simp)]
      rfl

/-- The recurrence of the table of three words. -/
theorem at3_succ_succ_succ {a b d : Bytes} {i j k : Nat} (hi : i < a.length) (hj : j < b.length)
    (hk : k < d.length) :
    at3 (table3 a b d) (i + 1) (j + 1) (k + 1) =
      if a[i] = b[j] ∧ b[j] = d[k] then at3 (table3 a b d) i j k + 1
      else max (max (at3 (table3 a b d) i (j + 1) (k + 1)) (at3 (table3 a b d) (i + 1) j (k + 1)))
        (at3 (table3 a b d) (i + 1) (j + 1) k) := by
  simp only [at3_table3 (Nat.le_of_lt hi), at3_table3 hi, plane3_succ hi,
    Array.getD_eq_getD_getElem?]
  rw [getElem?_nextPlane3 _ _ _ _ (by simpa using hj), Option.getD_some,
    getElem?_nextLine3 _ _ _ _ _ _ (by simpa using hk), Option.getD_some]
  by_cases habc : a[i] = b[j] ∧ b[j] = d[k]
  · obtain ⟨hab, hbc⟩ := habc
    simp [entry3, hj, hk, hab, hbc]
  · rw [if_neg habc]
    have hne : ¬(b[j] = a[i] ∧ d[k] = a[i]) := fun ⟨h1, h2⟩ => habc ⟨h1.symm, h1 ▸ h2.symm⟩
    simp only [entry3, List.getElem?_toArray, List.getElem?_eq_getElem hj,
      List.getElem?_eq_getElem hk, Array.getD_eq_getD_getElem?]
    rw [if_neg (by simpa using hne)]

/-- No common subsequence of the first `i`, `j` and `k` bytes of `a`, `b` and `d` is longer
than entry `(i, j, k)`. -/
theorem length_le_at3 {a b d : Bytes} {i : Nat} (hi : i ≤ a.length) :
    ∀ {j k : Nat}, j ≤ b.length → k ≤ d.length → ∀ {l : Bytes}, l <+ a.take i → l <+ b.take j →
      l <+ d.take k → l.length ≤ at3 (table3 a b d) i j k := by
  induction i with
  | zero => intro j k _ _ l ha _ _; simp_all
  | succ i ihi =>
    intro j
    induction j with
    | zero => intro k _ _ l _ hb _; simp_all
    | succ j ihj =>
      intro k
      induction k with
      | zero => intro _ _ l _ _ hd; simp_all
      | succ k ihk =>
        intro hj hk l ha hb hd
        rw [at3_succ_succ_succ (by omega) (by omega) (by omega)]
        rcases List.eq_nil_or_concat l with rfl | ⟨l', x, rfl⟩
        · exact Nat.zero_le _
        rw [List.concat_eq_append] at ha hb hd ⊢
        have ha' := ha
        have hb' := hb
        have hd' := hd
        rw [take_succ_eq_snoc (by omega)] at ha hb hd
        split
        · -- the three prefixes end with the same byte: drop it everywhere
          have := ihi (by omega) (by omega) (by omega) (sublist_of_snoc_sublist_snoc ha)
            (sublist_of_snoc_sublist_snoc hb) (sublist_of_snoc_sublist_snoc hd)
          simp only [List.length_append, List.length_singleton]
          omega
        · -- the last byte misses the last byte of one of the prefixes
          rename_i hne
          by_cases hxa : x = a[i]
          · by_cases hxb : x = b[j]
            · have hxd : x ≠ d[k] := fun h => hne ⟨hxa ▸ hxb, hxb ▸ h⟩
              have := ihk hj (by omega) ha' hb' (snoc_sublist_of_ne hd hxd)
              omega
            · have := ihj (by omega) (by omega) ha' (snoc_sublist_of_ne hb hxb) hd'
              omega
          · have := ihi (by omega) (by omega) (by omega) (snoc_sublist_of_ne ha hxa) hb' hd'
            omega

theorem toArray_getElem?_beq3 {a b d : Bytes} {i j k : Nat} (hi : i < a.length)
    (hj : j < b.length) (hk : k < d.length) :
    (a.toArray[i]? == b.toArray[j]? && b.toArray[j]? == d.toArray[k]?) = true ↔
      a[i] = b[j] ∧ b[j] = d[k] := by
  simp [hi, hj, hk]

/-- The walk back from entry `(i, j, k)` puts before `acc` a common subsequence of the first
`i`, `j` and `k` bytes of `a`, `b` and `d` whose length is the entry. -/
theorem back3_spec {a b d : Bytes} {i j k : Nat} (acc : Bytes) (hi : i ≤ a.length)
    (hj : j ≤ b.length) (hk : k ≤ d.length) :
    ∃ r, back3 (table3 a b d) a.toArray b.toArray d.toArray i j k acc = r ++ acc ∧
      r <+ a.take i ∧ r <+ b.take j ∧ r <+ d.take k ∧ r.length = at3 (table3 a b d) i j k := by
  fun_induction back3 (table3 a b d) a.toArray b.toArray d.toArray i j k acc with
  | case1 acc i j k heq ih =>
    -- the three bytes agree: keep one and step back in every word
    rw [toArray_getElem?_beq3 (by omega) (by omega) (by omega)] at heq
    obtain ⟨r, hr, hra, hrb, hrd, hlen⟩ := ih (by omega) (by omega) (by omega)
    rw [toArray_getD (by omega)] at hr ⊢
    refine ⟨r ++ [a[i]], by simpa using hr, ?_, ?_, ?_, ?_⟩
    · rw [take_succ_eq_snoc (by omega)]
      exact hra.append_right _
    · rw [take_succ_eq_snoc (by omega), ← heq.1]
      exact hrb.append_right _
    · rw [take_succ_eq_snoc (by omega), ← heq.2, ← heq.1]
      exact hrd.append_right _
    · rw [at3_succ_succ_succ (by omega) (by omega) (by omega), if_pos heq]
      simp [hlen]
  | case2 acc i j k hne di dj dk hgt ih =>
    -- the neighbour in `a` is strictly the largest
    rw [toArray_getElem?_beq3 (by omega) (by omega) (by omega)] at hne
    simp only [Bool.and_eq_true, decide_eq_true_eq] at hgt
    obtain ⟨r, hr, hra, hrb, hrd, hlen⟩ := ih (by omega) hj hk
    refine ⟨r, hr, ?_, hrb, hrd, ?_⟩
    · rw [take_succ_eq_snoc (by omega)]
      exact hra.trans (List.sublist_append_left _ _)
    · rw [at3_succ_succ_succ (by omega) (by omega) (by omega), if_neg hne, hlen]
      simp only [di, dj, dk] at hgt
      omega
  | case3 acc i j k hne di dj dk hnot hgt ih =>
    -- else the neighbour in `b`, when it beats the one in `d`
    rw [toArray_getElem?_beq3 (by omega) (by omega) (by omega)] at hne
    simp only [Bool.and_eq_true, decide_eq_true_eq, not_and, Nat.not_lt] at hnot
    obtain ⟨r, hr, hra, hrb, hrd, hlen⟩ := ih hi (by omega) hk
    refine ⟨r, hr, hra, ?_, hrd, ?_⟩
    · rw [take_succ_eq_snoc (by omega)]
      exact hrb.trans (List.sublist_append_left _ _)
    · rw [at3_succ_succ_succ (by omega) (by omega) (by omega), if_neg hne, hlen]
      simp only [di, dj, dk] at hnot hgt
      omega
  | case4 acc i j k hne di dj dk hnot hle ih =>
    -- else the neighbour in `d`
    rw [toArray_getElem?_beq3 (by omega) (by omega) (by omega)] at hne
    simp only [Bool.and_eq_true, decide_eq_true_eq, not_and, Nat.not_lt] at hnot
    obtain ⟨r, hr, hra, hrb, hrd, hlen⟩ := ih hi hj (by omega)
    refine ⟨r, hr, hra, hrb, ?_, ?_⟩
    · rw [take_succ_eq_snoc (by omega)]
      exact hrd.trans (List.sublist_append_left _ _)
    · rw [at3_succ_succ_succ (by omega) (by omega) (by omega), if_neg hne, hlen]
      simp only [di, dj, dk] at hnot hle
      omega
  | case5 i j k acc hzero =>
    refine ⟨[], rfl, List.nil_sublist _, List.nil_sublist _, List.nil_sublist _, ?_⟩
    rcases i with _ | i
    · simp [at3_zero_left]
    · rcases j with _ | j
      · simp [at3_zero_mid hi]
      · rcases k with _ | k
        · simp [at3_zero_right hi hj]
        · exact absurd rfl (hzero i j k rfl rfl)

theorem lcs3_spec (a b d : Bytes) :
    lcs3 a b d <+ a ∧ lcs3 a b d <+ b ∧ lcs3 a b d <+ d ∧
      (lcs3 a b d).length = length3 a b d := by
  obtain ⟨r, hr, hra, hrb, hrd, hlen⟩ :=
    back3_spec [] (Nat.le_refl a.length) (Nat.le_refl b.length) (Nat.le_refl d.length)
  have e : lcs3 a b d = r := by rw [lcs3, hr, List.append_nil]
  rw [List.take_length] at hra hrb hrd
  exact ⟨e ▸ hra, e ▸ hrb, e ▸ hrd, e ▸ hlen⟩

theorem length_le_length3 {a b d l : Bytes} (ha : l <+ a) (hb : l <+ b) (hd : l <+ d) :
    l.length ≤ length3 a b d := by
  have ha' : l <+ a.take a.length := by rwa [List.take_length]
  have hb' : l <+ b.take b.length := by rwa [List.take_length]
  have hd' : l <+ d.take d.length := by rwa [List.take_length]
  exact length_le_at3 (Nat.le_refl _) (Nat.le_refl _) (Nat.le_refl _) ha' hb' hd'

/-- The subsequence read off the table of three words is common to all three, as long as the
table says, and no common subsequence is longer. -/
theorem lcs3_common_longest (a b d : Bytes) :
    lcs3 a b d <+ a ∧ lcs3 a b d <+ b ∧ lcs3 a b d <+ d ∧
      (lcs3 a b d).length = length3 a b d ∧
      ∀ l : Bytes, l <+ a → l <+ b → l <+ d → l.length ≤ length3 a b d := by
  obtain ⟨ha, hb, hd, hlen⟩ := lcs3_spec a b d
  exact ⟨ha, hb, hd, hlen, fun l hla hlb hld => length_le_length3 hla hlb hld⟩

/-! ### Longest common subsequences of the first words of a list -/

theorem isLongestCommon_single (w : Bytes) : IsLongestCommon [w] w :=
  ⟨by simp, fun l' h => (h w (by simp)).length_le⟩

theorem isLongestCommon_lcs2 (a b : Bytes) : IsLongestCommon [a, b] (lcs2 a b) := by
  obtain ⟨ha, hb, hlen⟩ := lcs2_spec a b
  refine ⟨by simp [ha, hb], fun l' h => ?_⟩
  rw [hlen]
  exact length_le_length2 (h a (by simp)) (h b (by simp))

theorem isLongestCommon_lcs3 (a b d : Bytes) : IsLongestCommon [a, b, d] (lcs3 a b d) := by
  obtain ⟨ha, hb, hd, hlen⟩ := lcs3_spec a b d
  refine ⟨by simp [ha, hb, hd], fun l' h => ?_⟩
  rw [hlen]
  exact length_le_length3 (h a (by simp)) (h b (by simp)) (h d (by simp))

theorem clampLimit_le (limit : Int) : clampLimit limit ≤ maxWords := by
  unfold clampLimit
  split <;> omega

/-- On a non-empty list of at most as many words as are compared, `ofFirst` gives a longest
common subsequence of all of them. -/
theorem ofFirst_isLongestCommon {ws : List Bytes} {limit : Int} (hne : ws ≠ [])
    (hlen : ws.length ≤ clampLimit limit) : IsLongestCommon ws (ofFirst ws limit) := by
  have hmax : ws.length ≤ 3 := Nat.le_trans hlen (clampLimit_le limit)
  rw [ofFirst, List.take_of_length_le hlen]
  match ws, hne, hmax with
  | [w], _, _ => exact isLongestCommon_single w
  | [a, b], _, _ => exact isLongestCommon_lcs2 a b
  | [a, b, d], _, _ => exact isLongestCommon_lcs3 a b d
  | _ :: _ :: _ :: _ :: _, _, h =>
    simp only [List.length_cons] at h
    omega

/-- A longest common subsequence is empty exactly when no byte occurs in every word. -/
theorem IsLongestCommon.eq_nil_iff {ws : List Bytes} {l : Bytes} (h : IsLongestCommon ws l) :
    l = [] ↔ ¬∃ c, ∀ w ∈ ws, c ∈ w := by
  constructor
  · rintro rfl ⟨c, hc⟩
    have := h.2 [c] fun w hw => List.singleton_sublist.2 (hc w hw)
    simp at this
  · intro hnone
    rcases l with _ | ⟨c, rest⟩
    · rfl
    · exact absurd ⟨c, fun w hw => (h.1 w hw).subset (List.mem_cons_self)⟩ hnone

end WordSift.Lcs
