import WordSift.Pattern.Basic
import Mathlib

/-!
# Which pattern texts compile

A pattern text is a sequence of tokens, each a byte other than `*`, repeated when a `*` follows
it: the texts of the grammar `(A '*'?)*` (`Grammatical`). `compile` does not parse tokens; it scans
the text once from the left for a `*` that begins the text or follows a `*` (`Misplaced`), and
refuses the text at the first one.

The scan reads the text with a `*` put in front, since a `*` at the start repeats nothing just as
one after a `*` does. So its first fault is the first pair of stars among the neighbouring bytes of
that text (`faultFrom_eq_findIdx?`), and the texts it accepts are those without such a pair, which
are the grammatical ones (`grammatical_iff`).
-/

namespace WordSift.Pattern

/-- The texts of the grammar `(A '*'?)*`, where `A` is any byte other than `*`. -/
inductive Grammatical : Bytes → Prop
  | nil : Grammatical []
  | single {a : UInt8} {rest : Bytes} : a ≠ star → Grammatical rest → Grammatical (a :: rest)
  | repeated {a : UInt8} {rest : Bytes} :
      a ≠ star → Grammatical rest → Grammatical (a :: star :: rest)

/-- Offset `i` of the text `e` holds a `*` with nothing to repeat: it begins the text or follows
another `*`. -/
def Misplaced (e : Bytes) (i : Nat) : Prop :=
  e[i]? = some star ∧ (i = 0 ∨ e[i - 1]? = some star)

instance (e : Bytes) (i : Nat) : Decidable (Misplaced e i) :=
  inferInstanceAs (Decidable (_ ∧ _))

/-- The pairs of neighbouring bytes of a text, the first byte paired with `before`. -/
def neighbours (before : UInt8) (e : Bytes) : List (UInt8 × UInt8) := (before :: e).zip e

/-- The fault of a `*` at `k` bytes from where a scan starts: a `*` at the very start of the text
has nothing to repeat, any later one repeats a `*`. -/
def faultAt (before : Option UInt8) (k : Nat) : Fault :=
  if before = none ∧ k = 0 then .nothingToRepeat else .repeatedStar

/-! ### The scan finds the first pair of stars -/

/-- A scan from offset `i`, after the byte `before` (none at the start, which acts as a `*`),
reports the first pair of stars among the neighbouring bytes. -/
theorem faultFrom_eq_findIdx? (before : Option UInt8) (i : Nat) (p : Bytes) :
    faultFrom before i p =
      ((neighbours (before.getD star) p).findIdx? (· == (star, star))).map
        fun k => (i + k, faultAt before k) := by
  induction p generalizing before i with
  | nil => rfl
  | cons b rest ih =>
    have hn : neighbours (before.getD star) (b :: rest) =
        (before.getD star, b) :: neighbours b rest := rfl
    -- past a byte that is no fault, the scan goes on after it, one offset further
    have hnext : faultFrom (some b) (i + 1) rest =
        ((neighbours b rest).findIdx? (· == (star, star))).map
          fun k => (i + (k + 1), faultAt before (k + 1)) := by
      rw [ih]
      simp [faultAt, Nat.add_assoc, Nat.add_comm 1]
    rw [hn, List.findIdx?_cons]
    by_cases hb : b = star
    · subst hb
      cases before with
      | none => simp [faultFrom, faultAt]
      | some q =>
        by_cases hq : q = star
        · simp [faultFrom, faultAt, hq]
        · simp [faultFrom, hq, hnext, Option.map_map, Function.comp_def]
    · simp [faultFrom, hb, hnext, Option.map_map, Function.comp_def]

/-- The first fault of a text is the first pair of stars among its neighbouring bytes, the first
byte paired with a `*`. -/
theorem firstFault_eq_findIdx? (e : Bytes) :
    firstFault e =
      ((neighbours star e).findIdx? (· == (star, star))).map fun k => (k, faultAt none k) := by
  rw [firstFault, faultFrom_eq_findIdx?]
  simp

/-! ### Misplaced stars -/

/-- A misplaced `*` is a `*` that has a `*` before it in the text with a `*` put in front. -/
theorem misplaced_iff {e : Bytes} {k : Nat} :
    Misplaced e k ↔ (star :: e)[k]? = some star ∧ e[k]? = some star := by
  cases k <;> simp [Misplaced, and_comm]

theorem getElem?_neighbours_eq_some {e : Bytes} {k : Nat} :
    (neighbours star e)[k]? = some (star, star) ↔ Misplaced e k := by
  rw [neighbours, List.getElem?_zip_eq_some, misplaced_iff]

theorem getElem_neighbours_eq {e : Bytes} {k : Nat} (hk : k < (neighbours star e).length) :
    (neighbours star e)[k] = (star, star) ↔ Misplaced e k := by
  rw [← getElem?_neighbours_eq_some, List.getElem?_eq_getElem hk, Option.some_inj]

theorem misplaced_lt_length {e : Bytes} {k : Nat} (h : Misplaced e k) :
    k < (neighbours star e).length :=
  (List.getElem?_eq_some_iff.1 (getElem?_neighbours_eq_some.2 h)).1

/-- The scan accepts a text exactly when it has no misplaced `*`. -/
theorem firstFault_eq_none_iff_forall {e : Bytes} :
    firstFault e = none ↔ ∀ k, ¬Misplaced e k := by
  rw [firstFault_eq_findIdx?, Option.map_eq_none_iff, List.findIdx?_eq_none_iff]
  constructor
  · intro h k hk
    have hnot := h _ (List.getElem_mem (misplaced_lt_length hk))
    simp [(getElem_neighbours_eq (misplaced_lt_length hk)).2 hk] at hnot
  · intro h x hx
    obtain ⟨k, hk, rfl⟩ := List.getElem_of_mem hx
    simpa [getElem_neighbours_eq hk] using h k

/-- The scan refuses a text at its first misplaced `*`, which has nothing to repeat when it is
the first byte and repeats a `*` otherwise. -/
theorem firstFault_eq_some_iff {e : Bytes} {i : Nat} {f : Fault} :
    firstFault e = some (i, f) ↔
      Misplaced e i ∧ (∀ j < i, ¬Misplaced e j) ∧ f = faultAt none i := by
  rw [firstFault_eq_findIdx?, Option.map_eq_some_iff]
  constructor
  · rintro ⟨k, hk, hki⟩
    obtain ⟨hlt, hpair, hbefore⟩ := List.findIdx?_eq_some_iff_getElem.1 hk
    cases hki
    refine ⟨(getElem_neighbours_eq hlt).1 (by simpa using hpair), fun j hj hm => ?_, rfl⟩
    exact hbefore j hj (by simpa using (getElem_neighbours_eq (by omega)).2 hm)
  · rintro ⟨hm, hleast, rfl⟩
    refine ⟨i, List.findIdx?_eq_some_iff_getElem.2 ⟨misplaced_lt_length hm, ?_, ?_⟩, rfl⟩
    · simpa using (getElem_neighbours_eq (misplaced_lt_length hm)).2 hm
    · intro j hj hpair
      exact hleast j hj ((getElem_neighbours_eq _).1 (by simpa using hpair))

/-! ### The grammar -/

/-- A grammatical text has no misplaced `*`: each `*` of it follows the byte it repeats. -/
theorem Grammatical.not_misplaced {e : Bytes} (h : Grammatical e) : ∀ k, ¬Misplaced e k := by
  induction h with
  | nil => simp [Misplaced]
  | @single a rest ha _ ih =>
    intro k hk
    rw [misplaced_iff] at hk
    match k, hk with
    | 0, ⟨_, hk⟩ => exact ha (by simpa using hk)
    | 1, ⟨hk, _⟩ => exact ha (by simpa using hk)
    | j + 2, ⟨hk1, hk2⟩ =>
      exact ih (j + 1) (misplaced_iff.2 ⟨by simpa using hk1, by simpa using hk2⟩)
  | @repeated a rest ha _ ih =>
    intro k hk
    rw [misplaced_iff] at hk
    match k, hk with
    | 0, ⟨_, hk⟩ => exact ha (by simpa using hk)
    | 1, ⟨hk, _⟩ => exact ha (by simpa using hk)
    | j + 2, ⟨hk1, hk2⟩ =>
      exact ih j (misplaced_iff.2 ⟨by simpa using hk1, by simpa using hk2⟩)

/-- A text without a misplaced `*` is grammatical: read from the left, each byte is a token, and
a `*` after it makes it repeated. -/
theorem grammatical_of_not_misplaced : ∀ {e : Bytes}, (∀ k, ¬Misplaced e k) → Grammatical e
  | [], _ => .nil
  | a :: rest, h => by
    have ha : a ≠ star := fun ha => h 0 (by simp [Misplaced, ha])
    by_cases hs : rest[0]? = some star
    · -- the `*` repeats `a`, and the text after it has no misplaced `*` either
      obtain ⟨more, rfl⟩ : ∃ more, rest = star :: more := by
        cases rest with
        | nil => simp at hs
        | cons b more => exact ⟨more, by simpa using hs⟩
      refine .repeated ha (grammatical_of_not_misplaced fun k hk => h (k + 2) ?_)
      rw [misplaced_iff] at hk ⊢
      exact ⟨by simpa using hk.1, by simpa using hk.2⟩
    · refine .single ha (grammatical_of_not_misplaced fun k hk => h (k + 1) ?_)
      rw [misplaced_iff] at hk ⊢
      cases k with
      | zero => exact absurd hk.2 hs
      | succ j => exact ⟨by simpa using hk.1, by simpa using hk.2⟩

theorem grammatical_iff {e : Bytes} : Grammatical e ↔ ∀ k, ¬Misplaced e k :=
  ⟨Grammatical.not_misplaced, grammatical_of_not_misplaced⟩

/-! ### Compiling -/

theorem faultAt_reason (i : Nat) :
    (faultAt none i).reason = if i = 0 then "nothing to repeat" else "repeated '*'" := by
  by_cases hi : i = 0 <;> simp [faultAt, Fault.reason, hi]

/-- A pattern text compiles, with either setting of case folding, exactly when it is
grammatical, and the pattern then keeps the text as it was given. A text that does not compile
is refused with the text itself, the offset of its first misplaced `*`, and the reason
"nothing to repeat" when that `*` begins the text and "repeated '*'" otherwise. -/
theorem compile_ok_iff_grammatical (e : Bytes) (fold : Bool) :
    ((∃ p, compile e fold = .ok p) ↔ Grammatical e) ∧
    (∀ p, compile e fold = .ok p → p.source = e) ∧
    ∀ err, compile e fold = .error err →
      err.source = e ∧ Misplaced e err.offset ∧ (∀ j < err.offset, ¬Misplaced e j) ∧
      err.fault.reason = if err.offset = 0 then "nothing to repeat" else "repeated '*'" := by
  refine ⟨?_, fun p hp => compile_ok_source hp, ?_⟩
  · rw [grammatical_iff, ← firstFault_eq_none_iff_forall]
    cases hf : firstFault e with
    | none => simp [compile, hf]
    | some r => simp [compile, hf]
  · intro err herr
    cases hf : firstFault e with
    | none => simp [compile, hf] at herr
    | some r =>
      obtain ⟨i, f⟩ := r
      -- the error is built from the text and its first fault
      have he : err = ⟨e, i, f⟩ := by simpa [compile, hf, eq_comm] using herr
      obtain ⟨hm, hleast, rfl⟩ := firstFault_eq_some_iff.1 hf
      subst he
      exact ⟨rfl, hm, hleast, faultAt_reason i⟩

/-- `ab.**` is refused at its second `*`, which repeats the first. -/
example : firstFault [97, 98, 46, 42, 42] = some (4, .repeatedStar) := by decide

end WordSift.Pattern
