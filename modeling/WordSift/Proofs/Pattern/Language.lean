import WordSift.Pattern.Basic
import Mathlib

/-!
# The language of a pattern

A pattern text reads as a sequence of tokens: a byte other than `*`, repeated when a `*`
follows it. A byte stands for itself, `.` for every byte; a token denotes the one-byte words of
its byte, a repeated token any concatenation of them, and a pattern the concatenation of its
tokens (`lang`). The tokens are read from the left, but the table is filled by columns from the
right end of a pattern prefix, so the lemmas here say how the language grows by one byte or by
one repeated byte (`lang_take_succ`, `lang_take_succ_star`).

The texts `compile` accepts are those in which no `*` follows a `*` or begins the text
(`firstFault_eq_none_iff`); on them every `*` has a byte to repeat.
-/

namespace WordSift.Pattern

open scoped Computability

/-- A token of a pattern: a byte, and whether a `*` after it repeats it. -/
structure Token where
  byte : UInt8
  repeated : Bool
deriving DecidableEq, Repr

/-- Reads a pattern text as tokens, a `*` repeating the byte before it. -/
def tokens : Bytes → List Token
  | [] => []
  | [a] => [⟨a, false⟩]
  | a :: b :: rest => if b = star then ⟨a, true⟩ :: tokens rest else ⟨a, false⟩ :: tokens (b :: rest)

/-- A pattern byte stands for the word byte `c`: it is `c`, or it is `.`. -/
def standsFor (a c : UInt8) : Bool := a == c || a == wildcard

/-- The one-byte words a pattern byte stands for. -/
def atom (a : UInt8) : Language UInt8 := {x | ∃ c, x = [c] ∧ standsFor a c = true}

/-- The words of a token. -/
def Token.lang (t : Token) : Language UInt8 := if t.repeated then (atom t.byte)∗ else atom t.byte

/-- The words a pattern text denotes: the concatenation of the words of its tokens. -/
def lang (p : Bytes) : Language UInt8 := ((tokens p).map Token.lang).prod

theorem covers_eq_standsFor {p : Array UInt8} {k : Nat} (hk : k < p.size) (c : UInt8) :
    covers p k c = standsFor p[k] c := by
  simp [covers, standsFor, hk]

theorem star_ne_wildcard : star ≠ wildcard := by decide

theorem ne_star_of_standsFor {a c : UInt8} (h : standsFor a c = true) (hc : c ≠ star) :
    a ≠ star := by
  rintro rfl
  simp [standsFor] at h
  rcases h with h | h
  · exact hc h.symm
  · exact star_ne_wildcard h

/-! ### Tokens read from the right end -/

theorem tokens_append_single {a : UInt8} (ha : a ≠ star) (q : Bytes) :
    tokens (q ++ [a]) = tokens q ++ [⟨a, false⟩] := by
  fun_induction tokens q with
  | case1 => rfl
  | case2 x => simp [tokens, ha]
  | case3 x rest ih => simp [tokens, ih]
  | case4 x b rest hb ih => simp_all [tokens]

theorem tokens_append_star {a : UInt8} (ha : a ≠ star) (q : Bytes) :
    tokens (q ++ [a, star]) = tokens q ++ [⟨a, true⟩] := by
  fun_induction tokens q with
  | case1 => simp [tokens]
  | case2 x => simp [tokens, ha]
  | case3 x rest ih => simp [tokens, ih]
  | case4 x b rest hb ih => simp_all [tokens]

@[simp] theorem lang_nil : lang [] = 1 := rfl

theorem lang_append_single {a : UInt8} (ha : a ≠ star) (q : Bytes) :
    lang (q ++ [a]) = lang q * atom a := by
  simp [lang, tokens_append_single ha, Token.lang]

theorem lang_append_star {a : UInt8} (ha : a ≠ star) (q : Bytes) :
    lang (q ++ [a, star]) = lang q * (atom a)∗ := by
  simp [lang, tokens_append_star ha, Token.lang]

/-! ### Words of a language grown by one token -/

section Grow

variable {L : Language UInt8} {a c : UInt8} {x : Bytes}

theorem nil_not_mem_mul_atom : [] ∉ L * atom a := by
  rintro ⟨u, -, v, ⟨c, rfl, -⟩, huv⟩
  simp at huv

theorem snoc_mem_mul_atom : x ++ [c] ∈ L * atom a ↔ x ∈ L ∧ standsFor a c = true := by
  constructor
  · rintro ⟨u, hu, v, ⟨d, rfl, hd⟩, huv⟩
    obtain ⟨rfl, hdc⟩ := List.append_inj' huv rfl
    cases hdc
    exact ⟨hu, hd⟩
  · rintro ⟨hx, hc⟩
    exact ⟨x, hx, [c], ⟨c, rfl, hc⟩, rfl⟩

/-- A repeated token after `L`: none of it, or one more of its byte after some of it. -/
theorem mul_kstar_eq (L A : Language UInt8) : L * A∗ = L + L * A∗ * A := by
  conv_lhs => rw [← Language.one_add_kstar_mul_self_eq_kstar]
  rw [mul_add, mul_one, mul_assoc]

theorem nil_mem_mul_kstar_atom : [] ∈ L * (atom a)∗ ↔ [] ∈ L := by
  rw [mul_kstar_eq, Language.mem_add]
  exact or_iff_left nil_not_mem_mul_atom

theorem snoc_mem_mul_kstar_atom :
    x ++ [c] ∈ L * (atom a)∗ ↔ x ++ [c] ∈ L ∨ (x ∈ L * (atom a)∗ ∧ standsFor a c = true) := by
  nth_rewrite 1 [mul_kstar_eq]
  rw [Language.mem_add, snoc_mem_mul_atom]

end Grow

/-! ### Accepted pattern texts -/

/-- A text has no fault after the byte `before` (none at the start, which acts as a `*`)
exactly when no `*` follows a `*` in it. -/
theorem faultFrom_eq_none_iff (before : Option UInt8) (i : Nat) (p : Bytes) :
    faultFrom before i p = none ↔ ¬ [star, star] <:+: before.getD star :: p := by
  induction p generalizing before i with
  | nil =>
    simp only [faultFrom, true_iff]
    intro h
    simpa using h.length_le
  | cons b rest ih =>
    rw [List.infix_cons_iff, not_or]
    by_cases hb : b = star
    · subst hb
      cases before with
      | none => simp [faultFrom]
      | some q =>
        by_cases hq : q = star
        · simp [faultFrom, hq]
        · simp [faultFrom, hq, ih, Ne.symm hq]
    · simp [faultFrom, hb, ih, Ne.symm hb]

theorem firstFault_eq_none_iff {p : Bytes} :
    firstFault p = none ↔ ¬ [star, star] <:+: star :: p :=
  faultFrom_eq_none_iff none 0 p

theorem getElem_zero_ne_star {p : Bytes} (hp : firstFault p = none) (h : 0 < p.length) :
    p[0] ≠ star := by
  rw [firstFault_eq_none_iff] at hp
  intro hs
  have e : p[0] :: p.drop 1 = p := List.getElem_cons_drop h
  refine hp ⟨[], p.drop 1, ?_⟩
  rw [← e, hs]
  rfl

/-- In an accepted text the byte a `*` repeats is not `*`. -/
theorem getElem_ne_star_of_star {p : Bytes} (hp : firstFault p = none) {i : Nat}
    (h : i + 1 < p.length) (hs : p[i + 1] = star) : p[i] ≠ star := by
  rw [firstFault_eq_none_iff] at hp
  intro hi
  have e1 : p[i] :: p.drop (i + 1) = p.drop i := List.getElem_cons_drop _
  have e2 : p[i + 1] :: p.drop (i + 2) = p.drop (i + 1) := List.getElem_cons_drop h
  refine hp (List.infix_cons ⟨p.take i, p.drop (i + 2), ?_⟩)
  calc p.take i ++ [star, star] ++ p.drop (i + 2)
      = p.take i ++ (p[i] :: p[i + 1] :: p.drop (i + 2)) := by rw [hi, hs]; simp
    _ = p := by rw [e2, e1, List.take_append_drop]

theorem lang_take_succ {p : Bytes} {j : Nat} (hj : j < p.length) (hs : p[j] ≠ star) :
    lang (p.take (j + 1)) = lang (p.take j) * atom p[j] := by
  rw [List.take_succ_eq_append_getElem hj, lang_append_single hs]

theorem lang_take_succ_star {p : Bytes} {i : Nat} (hj : i + 1 < p.length)
    (hs : p[i + 1] = star) (hi : p[i] ≠ star) :
    lang (p.take (i + 2)) = lang (p.take i) * (atom p[i])∗ := by
  rw [List.take_succ_eq_append_getElem hj, List.take_succ_eq_append_getElem (by omega), hs,
    List.append_assoc, List.singleton_append, lang_append_star hi]

end WordSift.Pattern
