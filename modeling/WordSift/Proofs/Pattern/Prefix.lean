import WordSift.Proofs.Pattern.Table

/-!
# Every matching word starts with the literal prefix

`prefixOf` reads the leading bytes of a pattern that are neither `.` nor `*` and are not
repeated by a `*` after them. Any word the table accepts starts with them
(`prefixOf_prefix_of_accepts`), for every pattern and every word, a `*` in the word included.

The invariant is on the true entries of each row (`RowFits`): in a column inside the literal
prefix a true entry means the word read so far is exactly that much of the pattern; in a column
past it, that the word read so far already starts with the whole prefix. A `*` never stands
inside the prefix nor right after it, so the two-columns-back case of the table stays on the
far side.
-/

namespace WordSift.Pattern

open Rows

/-! ### The literal prefix of a text -/

theorem prefixOf_isPrefix (e : Bytes) : prefixOf e <+: e := by
  fun_induction prefixOf e with
  | case1 => exact List.nil_prefix
  | case2 => exact List.nil_prefix
  | case3 => exact List.nil_prefix
  | case4 c _ d tail _ ih => exact List.cons_prefix_cons.2 ⟨rfl, ih⟩
  | case5 => exact List.prefix_refl _

/-- A byte inside the literal prefix is neither `.` nor `*`. -/
theorem getElem?_of_lt_prefixOf {e : Bytes} {k : Nat} (hk : k < (prefixOf e).length) :
    e[k]? ≠ some wildcard ∧ e[k]? ≠ some star := by
  fun_induction prefixOf e generalizing k with
  | case1 | case2 | case3 => simp at hk
  | case4 c hc d tail _ ih =>
    cases k with
    | zero => simpa using hc
    | succ k => simpa using ih (by simpa using hk)
  | case5 c hc =>
    obtain rfl : k = 0 := by simpa using hk
    simpa using hc

/-- No byte inside the literal prefix is followed by a `*`. -/
theorem getElem?_succ_of_lt_prefixOf {e : Bytes} {k : Nat} (hk : k < (prefixOf e).length) :
    e[k + 1]? ≠ some star := by
  fun_induction prefixOf e generalizing k with
  | case1 | case2 | case3 => simp at hk
  | case4 c _ d tail hd ih =>
    cases k with
    | zero => simpa using hd
    | succ k => simpa using ih (by simpa using hk)
  | case5 c _ =>
    obtain rfl : k = 0 := by simpa using hk
    simp

/-- A `*` after the first byte stands past the literal prefix. -/
theorem prefixOf_lt_of_star {e : Bytes} {k : Nat} (hs : e[k]? = some star) (hk : 0 < k) :
    (prefixOf e).length < k := by
  by_contra hle
  rcases Nat.lt_or_ge k (prefixOf e).length with hlt | hge
  · exact (getElem?_of_lt_prefixOf hlt).2 hs
  · obtain ⟨i, rfl⟩ := Nat.exists_eq_add_one.2 hk
    exact getElem?_succ_of_lt_prefixOf (show i < (prefixOf e).length by omega) hs

/-! ### True entries fit the literal prefix -/

/-- What a true entry in column `j` says of the word `x` read so far. -/
def Fits (e x : Bytes) (j : Nat) : Prop :=
  if j ≤ (prefixOf e).length then x = e.take j else prefixOf e <+: x

/-- Every true entry of the row `R` fits the word `x`. -/
def RowFits (e x : Bytes) (R : Array Bool) : Prop :=
  ∀ j ≤ e.length, R[j]? = some true → Fits e x j

/-- A true entry at or past the literal prefix means the word starts with it. -/
theorem Fits.isPrefix {e x : Bytes} {j : Nat} (hj : (prefixOf e).length ≤ j) (h : Fits e x j) :
    prefixOf e <+: x := by
  unfold Fits at h
  split at h
  · rw [h, show j = (prefixOf e).length by omega, ← List.prefix_iff_eq_take.1 (prefixOf_isPrefix e)]
  · exact h

theorem fits_of_past {e x : Bytes} {j : Nat} (hj : (prefixOf e).length < j)
    (h : prefixOf e <+: x) : Fits e x j := by
  rwa [Fits, if_neg (by omega)]

theorem firstRow_fits (e : Bytes) : RowFits e [] (firstRow e.toArray) := by
  intro j hj
  induction j using Nat.strong_induction_on with
  | _ j ih =>
    match j with
    | 0 => intro; simp [Fits]
    | k + 1 =>
      have hk : k < e.length := by omega
      rw [firstRow_getElem? _ (by simpa using hk)]
      intro h
      simp only [firstEntry, Bool.and_eq_true, decide_eq_true_eq, Option.some.injEq,
        Array.getD_eq_getD_getElem?, getD_false_eq_true] at h
      obtain ⟨⟨hk1, hs⟩, hR⟩ := h
      -- a `*` lies past the prefix, and so does the entry two columns back
      have hlt := prefixOf_lt_of_star (by simpa [isStarAt] using hs) hk1
      exact fits_of_past (by omega) ((ih (k - 1) (by omega) (by omega) hR).isPrefix (by omega))

theorem nextRow_fits {e x : Bytes} {R : Array Bool} (c : UInt8) (hR : RowFits e x R) :
    RowFits e (x ++ [c]) (nextRow e.toArray R c) := by
  intro j hj
  induction j using Nat.strong_induction_on with
  | _ j ih =>
    match j with
    | 0 =>
      rw [nextRow_eq, getElem?_pushRow_init _ _ _ (by simp)]
      simp
    | k + 1 =>
      have hk : k < e.length := by omega
      rw [nextRow_getElem? _ _ _ (by simpa using hk)]
      intro h
      simp only [nextEntry, Option.some.injEq] at h
      by_cases hcov : covers e.toArray k c = true
      · -- the diagonal case: inside the prefix the byte is `c` itself
        rw [if_pos hcov, Array.getD_eq_getD_getElem?, getD_false_eq_true] at h
        have hfit := hR k (by omega) h
        rcases Nat.lt_or_ge k (prefixOf e).length with hin | hout
        · have hnot := (getElem?_of_lt_prefixOf hin).1
          rw [List.getElem?_eq_getElem hk, ne_eq, Option.some_inj] at hnot
          have hc : e[k] = c := by
            simpa [covers_toArray hk, standsFor, hnot] using hcov
          rw [Fits, if_pos (by omega)] at hfit ⊢
          rw [hfit, List.take_succ_eq_append_getElem hk, hc]
        · exact fits_of_past (by omega) (hfit.isPrefix hout |>.trans (List.prefix_append _ _))
      · rw [if_neg hcov] at h
        split at h
        · -- a `*` column, past the prefix: either entry it reads already fits
          rename_i hstar
          simp only [Bool.and_eq_true, decide_eq_true_eq] at hstar
          have hlt := prefixOf_lt_of_star (by simpa [isStarAt] using hstar.1) hstar.2
          simp only [Array.getD_eq_getD_getElem?, Bool.or_eq_true, Bool.and_eq_true,
            getD_false_eq_true] at h
          refine fits_of_past (by omega) ?_
          rcases h with hleft | ⟨-, habove⟩
          · exact (ih (k - 1) (by omega) (by omega) hleft).isPrefix (by omega)
          · exact ((hR (k + 1) hj habove).isPrefix (by omega)).trans (List.prefix_append _ _)
        · cases h

theorem foldl_nextRow_fits (e : Bytes) (w : Bytes) :
    RowFits e w (w.foldl (nextRow e.toArray) (firstRow e.toArray)) := by
  induction w using List.reverseRecOn with
  | nil => exact firstRow_fits e
  | append_singleton w c ih =>
    rw [List.foldl_append, List.foldl_cons, List.foldl_nil]
    exact nextRow_fits c ih

/-- A word the table accepts starts with the pattern's literal prefix. -/
theorem prefixOf_prefix_of_accepts {w e : Bytes} (h : accepts w e = true) :
    prefixOf e <+: w := by
  rw [accepts_eq_getD_lastRow, lastRow, Array.getD_eq_getD_getElem?, getD_false_eq_true] at h
  exact (foldl_nextRow_fits e w e.length le_rfl h).isPrefix (prefixOf_isPrefix e).length_le

/-- For a pattern text `compile` accepts, with either fold setting, the matched text is the text
lowered when folding, and every word the table accepts against it, a `*` in the word included,
starts with the literal prefix; so a word the pattern admits starts with the prefix once it is
lowered, when the pattern folds case. -/
theorem literalPrefix_prefix_of_match {s : Bytes} {fold : Bool} {p : Pattern}
    (hp : compile s fold = .ok p) :
    p.expr = (if fold then Bytes.lowerAscii s else s) ∧
      (∀ w, accepts w p.expr = true → p.literalPrefix <+: w) ∧
      (∀ w, p.admits w = true → p.literalPrefix <+: if fold then Bytes.lowerAscii w else w) := by
  obtain rfl := compile_ok_eq hp
  refine ⟨rfl, fun w h => prefixOf_prefix_of_accepts h, fun w h => ?_⟩
  -- a folding pattern matches the lowered word against its lowered text
  exact prefixOf_prefix_of_accepts h

/-- `cA*t` folds to `ca*t`, whose literal prefix stops before the repeated `a`. -/
theorem literalPrefix_prefix_of_match_cat :
    compile [99, 65, 42, 116] true = .ok ⟨[99, 65, 42, 116], true, [99, 97, 42, 116]⟩ ∧
      (⟨[99, 65, 42, 116], true, [99, 97, 42, 116]⟩ : Pattern).expr =
        Bytes.lowerAscii [99, 65, 42, 116] ∧
      (∀ w, accepts w [99, 97, 42, 116] = true → [99] <+: w) ∧
      (∀ w, (⟨[99, 65, 42, 116], true, [99, 97, 42, 116]⟩ : Pattern).admits w = true →
        [99] <+: Bytes.lowerAscii w) :=
  ⟨rfl, literalPrefix_prefix_of_match
    (show compile [99, 65, 42, 116] true = .ok ⟨[99, 65, 42, 116], true, [99, 97, 42, 116]⟩ from rfl)⟩

end WordSift.Pattern
