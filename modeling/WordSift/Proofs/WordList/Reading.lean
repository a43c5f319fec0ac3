import WordSift.Proofs.WordList.Index
import WordSift.WordList.Reading

/-!
# Reading a word list from a text

A text that ends without a read failure is read as its lines (`Text.linesOf`): the segments
between line feeds, less a last one that is empty, each without one trailing carriage return.
The feed delivers exactly these lines and then only the end of the input (`Feed.reads_eq`), so
reading a word list from it depends on the lines alone (`read_of_lines`): the header, then as many
word lines as it announces, then the pattern line or nothing. The word list of some lines
(`ofLines`) keeps the lines, splits their normal forms into the words that can be stored and the
rest, and counts the words in its index (`WordList.Holds`, built one line at a time).
-/

namespace WordSift

namespace Text

/-- The lines of a text: its segments between line feeds, less a last one that is empty, each
without one trailing carriage return. -/
def linesOf (s : Bytes) : List Bytes :=
  let segments := s.splitOn lineFeed
  (if segments.getLast? = some [] then segments.dropLast else segments).map dropReturn

/-- `splitLines` cuts a text at its line feeds, with the bytes after the last one apart. -/
theorem splitOn_eq_splitLines (s : Bytes) :
    s.splitOn lineFeed = (splitLines s).1 ++ [(splitLines s).2] := by
  induction s with
  | nil => rfl
  | cons b rest ih =>
    rw [List.splitOn, List.splitOnP_cons_eq_if_modifyHead, ← List.splitOn, ih, splitLines]
    by_cases hb : b = lineFeed
    · simp [hb]
    · -- the byte joins the first segment, which may be the bytes after the last line feed
      rw [if_neg (by simpa using hb)]
      simp only [beq_iff_eq, hb, if_false]
      cases (splitLines rest).1 <;> rfl

/-- The lines of a text are the segments before its line feeds, and the bytes after the last one
when there are any. -/
theorem linesOf_eq (s : Bytes) :
    linesOf s = ((splitLines s).1 ++ if (splitLines s).2 = [] then [] else [(splitLines s).2]).map
      dropReturn := by
  rw [linesOf, splitOn_eq_splitLines, List.getLast?_append, List.getLast?_singleton,
    Option.some_or]
  split
  · rename_i htail
    rw [if_pos (Option.some_inj.1 htail), List.dropLast_concat, List.append_nil]
  · rename_i htail
    rw [if_neg fun h => htail (by rw [h])]

namespace Feed

/-- A feed that ends without failure delivers the lines of its bytes, then the end of the
input: once more as its last read when its bytes end with a line feed. -/
theorem reads_eq {f : Feed} (hf : f.failure = none) :
    f.reads = (linesOf f.bytes).map .line ++ if f.tail = [] then [.done] else [] := by
  rw [reads, final, hf, linesOf_eq, ← lines, ← tail]
  by_cases htail : f.tail = []
  · simp [htail]
  · simp [htail, Function.comp_def]

theorem after_eq {f : Feed} (hf : f.failure = none) : f.after = .done := by
  rw [after, hf]

end Feed

end Text

namespace WordList

open Text

/-! ### The word list of some lines -/

/-- `l` is the word list of the word lines `lines` and the pattern line `pattern`: it keeps the
lines and the pattern as read, splits the normal forms of the lines in order into the words made
of `a` to `z` only and the rest, and its index counts the words and the refused ones. -/
structure Holds (l : WordList) (lines : List Bytes) (pattern : Bytes) : Prop where
  raw_eq : l.raw = lines
  words_eq : l.words = (lines.map normalizeWord).filter Bytes.isWord
  rejected_eq : l.rejected = (lines.map normalizeWord).filter fun w => !Bytes.isWord w
  pattern_eq : l.pattern = pattern
  counts : l.index.Counts l.words
  refused_eq : l.index.refused = l.rejected.length

namespace Holds

variable {l : WordList} {lines : List Bytes} {pattern : Bytes}

theorem empty (pattern : Bytes) : Holds { pattern := pattern } [] pattern :=
  ⟨rfl, rfl, rfl, rfl, Index.Counts.empty, rfl⟩

/-- Adding a line keeps it, and stores its normal form or refuses it. -/
theorem add (h : l.Holds lines pattern) (line : Bytes) :
    (l.add line).Holds (lines ++ [line]) pattern := by
  obtain ⟨hraw, hwords, hrej, hpat, hcounts, hrefused⟩ := h
  unfold WordList.add
  dsimp only
  split
  · rename_i hw
    refine ⟨by rw [hraw], by simp [hwords, List.filter_append, hw], ?_, hpat,
      hcounts.add _, ?_⟩
    · simp [hrej, List.filter_append, hw]
    · simpa using hrefused
  · rename_i hw
    refine ⟨by rw [hraw], by simp [hwords, List.filter_append, hw], ?_, hpat,
      hcounts.reject, ?_⟩
    · simp [hrej, List.filter_append, hw]
    · simp [Index.reject, hrefused]

end Holds

/-- A word list built from some lines holds them. -/
theorem holds_ofLines (lines : List Bytes) (pattern : Bytes) :
    (ofLines lines pattern).Holds lines pattern := by
  induction lines using List.reverseRecOn with
  | nil => exact Holds.empty pattern
  | append_singleton lines line ih =>
    rw [ofLines, List.foldl_append, List.foldl_cons, List.foldl_nil]
    exact ih.add line

/-! ### Reading lines -/

/-- What is delivered after the lines: nothing more, or the end of the input once more. -/
def EndsDone (tl : List Read) : Prop := tl = [] ∨ tl = [.done]

/-- Gathering word lines from delivered lines takes them in order: the first `n` of them when
there are as many, and otherwise all of them before what the reads after them give. -/
theorem gather_append_lines (expected : Nat) (after : Read) (tl : List Read) (ls : List Bytes) :
    ∀ n found : Nat,
      gather expected after n found (ls.map .line ++ tl) =
        if ls.length < n then
          (gather expected after (n - ls.length) (found + ls.length) tl).map
            fun r => (ls ++ r.1, r.2)
        else .ok (ls.take n, (ls.drop n).map .line ++ tl) := by
  induction ls with
  | nil =>
    intro n found
    cases n with
    | zero => simp [gather]
    | succ n =>
      simp only [List.map_nil, List.nil_append, List.length_nil, Nat.sub_zero, Nat.add_zero,
        Nat.zero_lt_succ, if_true]
      cases gather expected after (n + 1) found tl <;> rfl
  | cons l ls ih =>
    intro n found
    cases n with
    | zero => simp [gather]
    | succ n =>
      rw [List.map_cons, List.cons_append, gather, List.headD_cons, List.tail_cons]
      simp only [ih n (found + 1)]
      by_cases hlt : ls.length < n
      · -- the lines run out before the `n`-th: the line read here goes in front
        rw [if_pos hlt, if_pos (by simpa using hlt), List.length_cons,
          show n + 1 - (ls.length + 1) = n - ls.length by omega,
          show found + (ls.length + 1) = found + 1 + ls.length by omega]
        cases gather expected after (n - ls.length) (found + 1 + ls.length) tl <;> rfl
      · rw [if_neg hlt, if_neg (by simpa using hlt)]
        rfl

/-- Gathering `n` word lines from delivered lines takes the first `n` of them, or reports how
many there were. -/
theorem gather_lines (expected : Nat) {tl : List Read} (htl : EndsDone tl) (n : Nat) :
    ∀ (ls : List Bytes) (found : Nat),
      gather expected .done n found (ls.map .line ++ tl) =
        if ls.length < n then .error (.short expected (found + ls.length))
        else .ok (ls.take n, (ls.drop n).map .line ++ tl) := by
  intro ls found
  rw [gather_append_lines]
  split
  · -- the lines run out, and the next read finds the end of the input
    obtain ⟨m, hm⟩ : ∃ m, n - ls.length = m + 1 := ⟨n - ls.length - 1, by omega⟩
    rw [hm]
    rcases htl with rfl | rfl <;> rfl
  · rfl

/-- What reading a word list gives on an input of the lines `ls` and then its end: the header,
as many word lines as it announces, then the pattern line or the empty pattern. -/
def readLines : List Bytes → Except ReadError WordList
  | [] => .error .emptyInput
  | header :: rest =>
    match headerCount? header with
    | none => .error (.badCount header)
    | some n =>
      if rest.length < n then .error (.short n rest.length)
      else .ok (ofLines (rest.take n) ((rest.drop n).headD []))

/-- Reading a word list from delivered lines, then only the end of the input. -/
theorem read_of_lines {f : Feed} {ls : List Bytes} {tl : List Read} (htl : EndsDone tl)
    (hr : f.reads = ls.map .line ++ tl) (ha : f.after = .done) : read f = readLines ls := by
  cases ls with
  | nil =>
    rcases htl with rfl | rfl <;> simp [read, readLines, hr, bind, Except.bind]
  | cons header rest =>
    simp only [read, hr, ha, List.map_cons, List.cons_append, bind, Except.bind, pure,
      Except.pure]
    rw [readLines]
    cases hn : headerCount? header with
    | none => rfl
    | some n =>
      simp only [gather_lines n htl n rest 0]
      by_cases hlt : rest.length < n
      · rw [if_pos hlt, if_pos hlt, Nat.zero_add]
      · rw [if_neg hlt, if_neg hlt]
        -- the pattern is the line after the words, or empty when the input ends there
        cases hd : rest.drop n with
        | nil => rcases htl with rfl | rfl <;> simp
        | cons p more => rfl

/-- Reading a word list from the whole of a text. With the lines of the text: no line at all is
an empty input; a header whose text, with the blanks at both ends dropped, is no numeral or a
negative one is refused, quoting the header as read; a count `n` with fewer lines after the
header is refused with `n` and the number found; otherwise the word list is that of the `n` lines
after the header, with the next line as its pattern, or the empty pattern when there is none.
Such a word list keeps the lines and the pattern as read, splits the normal forms of the lines in
order into the words made of `a` to `z` and the rest, and its index has as many additions as
words, as many distinct words as there are, the refused ones apart, and counts each word as often
as it occurs. -/
theorem read_text (text : Bytes) :
    read ⟨text, none⟩ =
        (match linesOf text with
        | [] => .error .emptyInput
        | header :: rest =>
          match Numeral.decimal? (trimBlank header) with
          | none => .error (.badCount header)
          | some n =>
            if n < 0 then .error (.badCount header)
            else if rest.length < n.toNat then .error (.short n.toNat rest.length)
            else .ok (ofLines (rest.take n.toNat) ((rest.drop n.toNat).headD []))) ∧
      ∀ lines pattern,
        (ofLines lines pattern).raw = lines ∧
        (ofLines lines pattern).words = (lines.map normalizeWord).filter Bytes.isWord ∧
        (ofLines lines pattern).rejected =
          (lines.map normalizeWord).filter (fun w => !Bytes.isWord w) ∧
        (ofLines lines pattern).pattern = pattern ∧
        (ofLines lines pattern).index.stats =
          ⟨(ofLines lines pattern).words.length, (ofLines lines pattern).words.toFinset.card,
            (ofLines lines pattern).words.length - (ofLines lines pattern).words.toFinset.card,
            (ofLines lines pattern).rejected.length⟩ ∧
        ∀ w, (ofLines lines pattern).index.count w = (ofLines lines pattern).words.count w := by
  refine ⟨?_, fun lines pattern => ?_⟩
  · have htl : EndsDone (if (⟨text, none⟩ : Feed).tail = [] then [.done] else []) := by
      split
      · exact Or.inr rfl
      · exact Or.inl rfl
    rw [read_of_lines htl (Feed.reads_eq rfl) (Feed.after_eq rfl)]
    -- the header's count is its numeral, when that is not negative
    cases linesOf text with
    | nil => rfl
    | cons header rest =>
      simp only [readLines, headerCount?]
      cases Numeral.decimal? (trimBlank header) with
      | none => rfl
      | some n =>
        dsimp only
        by_cases hn : n < 0
        · rw [if_neg (by omega), if_pos hn]
        · rw [if_pos (by omega), if_neg hn]
  · have h := holds_ofLines lines pattern
    rw [h.counts.stats_eq, h.refused_eq]
    exact ⟨h.raw_eq, h.words_eq, h.rejected_eq, h.pattern_eq, rfl, h.counts.count_eq⟩

end WordList

end WordSift
