/-!
# Blank characters

The white-space characters of Unicode: the ASCII tab, line feed, vertical tab, form feed,
carriage return and space, then next line (U+0085), no-break space (U+00A0), ogham space mark
(U+1680), the spaces U+2000 to U+200A, line and paragraph separators (U+2028, U+2029), narrow
no-break space (U+202F), medium mathematical space (U+205F) and ideographic space (U+3000).
Zero-width space, the byte order mark and the ASCII information separators are not blank.
-/

namespace WordSift.Text

/-- The blank code points, as closed ranges in increasing order. -/
def blankRanges : List (Nat × Nat) :=
  [(0x09, 0x0D), (0x20, 0x20), (0x85, 0x85), (0xA0, 0xA0), (0x1680, 0x1680),
    (0x2000, 0x200A), (0x2028, 0x2029), (0x202F, 0x202F), (0x205F, 0x205F), (0x3000, 0x3000)]

/-- A code point is blank when one of the ranges holds it. -/
def isBlank (c : Nat) : Bool :=
  blankRanges.any fun r => decide (r.1 ≤ c) && decide (c ≤ r.2)

theorem isBlank_iff {c : Nat} :
    isBlank c = true ↔ ∃ r ∈ blankRanges, r.1 ≤ c ∧ c ≤ r.2 := by
  simp [isBlank]

/-- Every character that core counts as white space is blank. -/
theorem isBlank_of_isWhitespace {ch : Char} (h : ch.isWhitespace = true) :
    isBlank ch.toNat = true := by
  simp only [Char.isWhitespace, Bool.or_eq_true, decide_eq_true_eq] at h
  rcases h with ((h | h) | h) | h <;> simp [isBlank, blankRanges, h, Char.toNat]

end WordSift.Text
