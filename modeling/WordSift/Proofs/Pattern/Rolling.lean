import WordSift.Proofs.Rows
import WordSift.Pattern.Table

/-!
# Matching with two buffers computes the rows of the table

`accepts` keeps two buffers only. The row for the next word byte is written over the older one,
which still holds the row two above (or, for the first word byte, nothing but `false`), and the
two then swap. The stale entries are never read: entry `0` is reset first, every case of
`writeEntry` writes its entry, and an entry reads only the entry two columns back in its own
row, already written, besides the row above. So a row written over any buffer of the right size
is the row the table computes (`overwriteRow_eq_nextRow`), and the buffer kept after `i` word
bytes is row `i` of the table, for every word and every pattern, a `*` anywhere in either
(`matchRows_eq_table_row`).
-/

namespace WordSift.Pattern

open Rows

theorem firstRow_eq (p : Array UInt8) : firstRow p = pushRow (firstEntry p) #[true] p.size :=
  rfl

theorem nextRow_eq (p : Array UInt8) (above : Array Bool) (c : UInt8) :
    nextRow p above c = pushRow (nextEntry p above c) #[false] p.size :=
  rfl

@[simp] theorem size_firstRow (p : Array UInt8) : (firstRow p).size = p.size + 1 := by
  rw [firstRow_eq, size_pushRow, List.size_toArray, List.length_singleton, Nat.add_comm]

@[simp] theorem size_nextRow (p : Array UInt8) (above : Array Bool) (c : UInt8) :
    (nextRow p above c).size = p.size + 1 := by
  rw [nextRow_eq, size_pushRow, List.size_toArray, List.length_singleton, Nat.add_comm]

/-- An entry reads, of its own row, only the entry two columns back. -/
theorem nextEntry_congr (p : Array UInt8) (above : Array Bool) (c : UInt8) {row row' : Array Bool}
    (k : Nat) (h : ∀ i < 1 + k, row[i]? = row'[i]?) :
    nextEntry p above c row k = nextEntry p above c row' k := by
  simp only [nextEntry, Array.getD_eq_getD_getElem?, h (k - 1) (by omega)]

/-- Every case writes the entry the table computes. -/
theorem writeEntry_eq (p : Array UInt8) (prev : Array Bool) (c : UInt8) (cur : Array Bool)
    (k : Nat) : writeEntry p prev c cur k = cur.setIfInBounds (k + 1) (nextEntry p prev c cur k) := by
  unfold writeEntry nextEntry
  split
  · rfl
  · split
    · -- the `*` case writes twice, and its second write reads back the first
      by_cases hk : k + 1 < cur.size
      · have hread : (cur.setIfInBounds (k + 1) (cur.getD (k - 1) false)).getD (k + 1) false =
            cur.getD (k - 1) false := by
          simp only [Array.getD_eq_getD_getElem?, Array.getElem?_setIfInBounds_self_of_lt hk,
            Option.getD_some]
        split
        · rw [Array.setIfInBounds_setIfInBounds, hread]
          simp_all
        · simp_all
      · simp [Array.setIfInBounds_eq_of_size_le (Nat.le_of_not_lt hk)]
    · rfl

/-- A row written over any buffer of the row's size is the row the table computes. -/
theorem overwriteRow_eq_nextRow (p : Array UInt8) (prev : Array Bool) (c : UInt8)
    {cur : Array Bool} (h : cur.size = p.size + 1) :
    overwriteRow p prev c cur = nextRow p prev c := by
  have hwrite : writeEntry p prev c =
      fun row k => row.setIfInBounds (#[false].size + k) (nextEntry p prev c row k) := by
    funext row k
    rw [writeEntry_eq, Nat.add_comm]
    rfl
  rw [overwriteRow, hwrite, nextRow_eq]
  refine writeRow_eq_pushRow (fun k _ row row' => nextEntry_congr p prev c k) ?_ ?_
  · -- entry `0`, reset first, is the start of every row below the first
    intro i hi
    obtain rfl : i = 0 := by simpa using hi
    simp [h]
  · simp [h, Nat.add_comm]

theorem size_foldl_nextRow (p : Array UInt8) (w : Bytes) {R : Array Bool}
    (h : R.size = p.size + 1) : (w.foldl (nextRow p) R).size = p.size + 1 := by
  induction w generalizing R with
  | nil => exact h
  | cons c w ih => exact ih (size_nextRow p R c)

@[simp] theorem size_lastRow (w pat : Bytes) : (lastRow w pat).size = pat.length + 1 := by
  rw [lastRow, size_foldl_nextRow _ w (size_firstRow _), List.size_toArray]

/-- While both buffers have the row's size, the first buffer after reading `w` is the row the
table computes from the first one. -/
theorem foldl_matchStep (p : Array UInt8) (w : Bytes) {prev cur : Array Bool}
    (hprev : prev.size = p.size + 1) (hcur : cur.size = p.size + 1) :
    (w.foldl (matchStep p) (prev, cur)).1 = w.foldl (nextRow p) prev := by
  induction w generalizing prev cur with
  | nil => rfl
  | cons c w ih =>
    rw [List.foldl_cons, List.foldl_cons, matchStep, overwriteRow_eq_nextRow p prev c hcur]
    exact ih (size_nextRow p prev c) hprev

theorem matchRows_fst (w pat : Bytes) : (matchRows w pat).1 = lastRow w pat :=
  foldl_matchStep pat.toArray w (size_firstRow _) (Array.size_replicate ..)

theorem accepts_eq_getD_lastRow (w pat : Bytes) :
    accepts w pat = (lastRow w pat).getD pat.length false := by
  rw [accepts, matchRows_fst]

/-- For every word and every pattern, with no condition on either, the buffer matching keeps
after `i` word bytes is row `i` of the table; so the answer is the last entry of the table's last
row. -/
theorem matchRows_eq_table_row (w p : Bytes) :
    (∀ i ≤ w.length, (table w p)[i]? = some (matchRows (w.take i) p).1) ∧
      ((table w p)[w.length]?).bind (·[p.length]?) = some (accepts w p) := by
  have hrows : ∀ i ≤ w.length, (table w p)[i]? = some (matchRows (w.take i) p).1 := by
    intro i hi
    rw [table, List.getElem?_scanl, if_pos hi, matchRows_fst, lastRow]
  refine ⟨hrows, ?_⟩
  have hlast : p.length < (matchRows w p).1.size := by
    rw [matchRows_fst, size_lastRow]
    omega
  rw [hrows w.length le_rfl, List.take_length, Option.bind_some, accepts,
    Array.getD_eq_getD_getElem?, Array.getElem?_eq_getElem hlast, Option.getD_some]

end WordSift.Pattern
