import WordSift.Proofs.Pattern.Rolling
import WordSift.Proofs.Pattern.Language

/-!
# The matching table decides the language of a pattern

On an accepted pattern and a word without `*`, entry `(i, j)` of the table says whether the
first `i` bytes of the word are in the language of the first `j` bytes of the pattern
(`table_decides_lang`). The proof goes row by row through `RowOf`: row 0 by `firstRow_rowOf`,
each later row from the one above by `nextRow_rowOf`. Inside a row it is a strong induction on
the column, because a `*` column reads the entry two columns back in the same row.

The word must hold no `*`: the literal case is tried first, so a `*` of the word is matched
against a `*` of the pattern as an ordinary byte, which the language does not allow.
-/

namespace WordSift.Pattern

open Rows

/-- Row `R` tells, for every prefix of the pattern `p`, whether `x` is in its language. -/
def RowOf (p x : Bytes) (R : Array Bool) : Prop :=
  R.size = p.length + 1 ∧ ∀ j ≤ p.length, R[j]? = some true ↔ x ∈ lang (p.take j)

theorem isStarAt_toArray {p : Bytes} {k : Nat} (hk : k < p.length) :
    isStarAt p.toArray k = true ↔ p[k] = star := by
  simp [isStarAt, hk]

theorem covers_toArray {p : Bytes} {k : Nat} (hk : k < p.length) (c : UInt8) :
    covers p.toArray k c = standsFor p[k] c :=
  covers_eq_standsFor (by simpa using hk) c

theorem getD_false_eq_true {o : Option Bool} : o.getD false = true ↔ o = some true := by
  cases o <;> simp

theorem compile_ok_firstFault {s : Bytes} {fold : Bool} {p : Pattern}
    (h : compile s fold = .ok p) : firstFault s = none := by
  unfold compile at h
  split at h
  · cases h
  · assumption

/-- Entry `k + 1` of row 0. -/
theorem firstRow_getElem? (p : Array UInt8) {k : Nat} (hk : k < p.size) :
    (firstRow p)[k + 1]? = some (firstEntry p (firstRow p) k) := by
  rw [firstRow_eq, Nat.add_comm]
  refine getElem?_pushRow (fun row row' h => ?_) hk
  simp only [firstEntry, Array.getD_eq_getD_getElem?, h (k - 1) (by simp; omega)]

/-- Entry `k + 1` of the row for word byte `c`. -/
theorem nextRow_getElem? (p : Array UInt8) (above : Array Bool) (c : UInt8) {k : Nat}
    (hk : k < p.size) :
    (nextRow p above c)[k + 1]? = some (nextEntry p above c (nextRow p above c) k) := by
  rw [nextRow_eq, Nat.add_comm]
  refine getElem?_pushRow (fun row row' h => ?_) hk
  simp only [nextEntry, Array.getD_eq_getD_getElem?, h (k - 1) (by simp; omega)]

section Rows

variable {p : Bytes} (hp : firstFault p = none)
include hp

/-- Row 0 holds which pattern prefixes admit the empty word. -/
theorem firstRow_rowOf : RowOf p [] (firstRow p.toArray) := by
  refine ⟨by simp [firstRow_eq]; omega, fun j hj => ?_⟩
  induction j using Nat.strong_induction_on with
  | _ j ih =>
    match j with
    | 0 =>
      rw [firstRow_eq, getElem?_pushRow_init _ _ _ (by simp)]
      simp
    | k + 1 =>
      have hk : k < p.length := by omega
      rw [firstRow_getElem? _ (by simpa using hk)]
      by_cases hs : p[k] = star
      · -- a `*` repeats the byte before it: the entry two columns back decides
        obtain ⟨i, rfl⟩ : ∃ i, k = i + 1 :=
          Nat.exists_eq_add_one.2 (Nat.pos_of_ne_zero fun h0 => by
            subst h0; exact getElem_zero_ne_star hp hk hs)
        have hi := getElem_ne_star_of_star hp hk hs
        rw [lang_take_succ_star hk hs hi, nil_mem_mul_kstar_atom, ← ih i (by omega) (by omega)]
        simp [firstEntry, (isStarAt_toArray hk).2 hs, getD_false_eq_true]
      · have hns : isStarAt p.toArray k = false :=
          Bool.eq_false_iff.2 fun h => hs ((isStarAt_toArray hk).1 h)
        rw [lang_take_succ hk hs]
        simp [firstEntry, hns, nil_not_mem_mul_atom]

/-- The row for the next word byte `c`, computed from the row of `x`, is the row of `x ++ [c]`. -/
theorem nextRow_rowOf {x : Bytes} {R : Array Bool} {c : UInt8} (hc : c ≠ star)
    (hR : RowOf p x R) : RowOf p (x ++ [c]) (nextRow p.toArray R c) := by
  refine ⟨by simp [nextRow_eq]; omega, fun j hj => ?_⟩
  induction j using Nat.strong_induction_on with
  | _ j ih =>
    match j with
    | 0 =>
      rw [nextRow_eq, getElem?_pushRow_init _ _ _ (by simp)]
      simp
    | k + 1 =>
      have hk : k < p.length := by omega
      rw [nextRow_getElem? _ _ _ (by simpa using hk)]
      by_cases hcov : covers p.toArray k c = true
      · -- the pattern byte stands for `c`: the entry diagonally above decides
        have hs : p[k] ≠ star := ne_star_of_standsFor (by rwa [covers_toArray hk] at hcov) hc
        rw [lang_take_succ hk hs, snoc_mem_mul_atom, ← hR.2 k (by omega), ← covers_toArray hk]
        simp [nextEntry, hcov, getD_false_eq_true]
      · by_cases hs : p[k] = star
        · -- a `*`: none of its byte (two columns back) or one more (the entry above)
          obtain ⟨i, rfl⟩ : ∃ i, k = i + 1 :=
            Nat.exists_eq_add_one.2 (Nat.pos_of_ne_zero fun h0 => by
              subst h0; exact getElem_zero_ne_star hp hk hs)
          have hi := getElem_ne_star_of_star hp hk hs
          rw [lang_take_succ_star hk hs hi, snoc_mem_mul_kstar_atom,
            ← lang_take_succ_star hk hs hi, ← ih i (by omega) (by omega), ← hR.2 (i + 2) (by omega),
            ← covers_toArray (by omega : i < p.length)]
          simp only [nextEntry, hcov, (isStarAt_toArray hk).2 hs, Array.getD_eq_getD_getElem?]
          simp [getD_false_eq_true, and_comm]
        · have hns : isStarAt p.toArray k = false :=
            Bool.eq_false_iff.2 fun h => hs ((isStarAt_toArray hk).1 h)
          rw [lang_take_succ hk hs, snoc_mem_mul_atom, ← covers_toArray hk]
          simp [nextEntry, hcov, hns]

/-- The row after reading a word without `*` is the row of that word. -/
theorem foldl_nextRow_rowOf {w : Bytes} (hw : star ∉ w) :
    RowOf p w (w.foldl (nextRow p.toArray) (firstRow p.toArray)) := by
  induction w using List.reverseRecOn with
  | nil => exact firstRow_rowOf hp
  | append_singleton w c ih =>
    rw [List.foldl_append, List.foldl_cons, List.foldl_nil]
    exact nextRow_rowOf hp (fun h => hw (by simp [← h]))
      (ih fun h => hw (List.mem_append_left _ h))

end Rows

/-- On a pattern `compile` accepts and a word without `*`, each entry `(i, j)` of the table
says whether the first `i` bytes of the word are in the language of the first `j` bytes of the
pattern; so a word matches exactly when it is in the pattern's language. -/
theorem table_decides_lang {p : Bytes} {fold : Bool} {pat : Pattern}
    (hp : compile p fold = .ok pat) {w : Bytes} (hw : star ∉ w) :
    (∀ i ≤ w.length, ∀ j ≤ p.length, ∃ row b, (table w p)[i]? = some row ∧ row[j]? = some b ∧
      (b = true ↔ w.take i ∈ lang (p.take j))) ∧
    (accepts w p = true ↔ w ∈ lang p) := by
  have hf := compile_ok_firstFault hp
  refine ⟨fun i hi j hj => ?_, ?_⟩
  · have hwi : star ∉ w.take i := fun h => hw (List.mem_of_mem_take h)
    have hrow := foldl_nextRow_rowOf hf hwi
    obtain ⟨b, hb⟩ : ∃ b, (List.foldl (nextRow p.toArray) (firstRow p.toArray)
        (w.take i))[j]? = some b :=
      Option.isSome_iff_exists.1 (by simp [hrow.1]; omega)
    refine ⟨_, b, by simp [table, hi], hb, ?_⟩
    rw [← hrow.2 j hj, hb, Option.some_inj]
  · have hrow := foldl_nextRow_rowOf hf hw
    rw [accepts_eq_getD_lastRow, lastRow, Array.getD_eq_getD_getElem?, getD_false_eq_true,
      hrow.2 _ le_rfl, List.take_length]

/-- The table of `aab` against the accepted pattern `a*b`. -/
theorem table_aab_decides_lang :
    compile [97, 42, 98] false = .ok ⟨[97, 42, 98], false, [97, 42, 98]⟩ ∧
    star ∉ ([97, 97, 98] : Bytes) ∧
    (∀ i ≤ 3, ∀ j ≤ 3, ∃ row b, (table [97, 97, 98] [97, 42, 98])[i]? = some row ∧
      row[j]? = some b ∧ (b = true ↔ List.take i [97, 97, 98] ∈ lang (List.take j [97, 42, 98]))) ∧
    (accepts [97, 97, 98] [97, 42, 98] = true ↔ [97, 97, 98] ∈ lang [97, 42, 98]) :=
  ⟨rfl, by decide, table_decides_lang
    (show compile [97, 42, 98] false = .ok ⟨[97, 42, 98], false, [97, 42, 98]⟩ from rfl)
    (show star ∉ ([97, 97, 98] : Bytes) by decide)⟩

end WordSift.Pattern
