import WordSift.Proofs.WordList.Reading

/-!
# Reading a word list from a reader that fails

A reader that delivers the first `k` bytes of a text and then fails delivers the lines of those
bytes that end with a line feed, which are the first lines of the text (`Feed.lines_take`); a read
past them fails, and so does every read after it, so a last line without a line feed is lost.

Reading a word list makes its reads one after another and stops at the first that decides the
outcome: the header, the word lines it announces, then the pattern line (`readsMade` counts them
on the whole text). So on the failing reader it gives what it gives on the whole text when all
its reads are among the delivered lines, and otherwise the failure: a failure is never read as
the end of the input, so it is never taken for a short list of words or for a missing pattern.
-/

namespace WordSift

namespace Text

/-- One byte more in front of a text: a line feed opens a new first line, any other byte joins
the first line, if the text has one that ends with a line feed. -/
theorem splitLines_cons_fst (b : UInt8) (s : Bytes) :
    (splitLines (b :: s)).1 =
      if b = lineFeed then [] :: (splitLines s).1 else (splitLines s).1.modifyHead (b :: ·) := by
  rw [splitLines]
  by_cases hb : b = lineFeed
  · simp [hb]
  · simp only [beq_iff_eq, hb, if_false]
    cases (splitLines s).1 <;> rfl

/-- A text has as many lines ending with a line feed as it has line feeds. -/
theorem length_splitLines_fst (s : Bytes) : (splitLines s).1.length = s.count lineFeed := by
  induction s with
  | nil => rfl
  | cons b s ih =>
    rw [splitLines_cons_fst, List.count_cons]
    by_cases hb : b = lineFeed
    · simp [hb, ih]
    · simp [hb, ih, List.length_modifyHead]

/-- The lines of a text that end with a line feed come first among the lines of any longer text. -/
theorem splitLines_fst_prefix (s t : Bytes) : (splitLines s).1 <+: (splitLines (s ++ t)).1 := by
  induction s with
  | nil => exact List.nil_prefix
  | cons b s ih =>
    rw [List.cons_append, splitLines_cons_fst, splitLines_cons_fst]
    by_cases hb : b = lineFeed
    · simpa [hb] using ih
    · simp only [hb, if_false]
      -- the byte joins the same first line in both, when the shorter text has one
      obtain ⟨u, hu⟩ := ih
      cases hs : (splitLines s).1 with
      | nil => exact List.nil_prefix
      | cons l more =>
        rw [← hu, hs]
        exact ⟨u, by simp⟩

namespace Feed

/-- The lines the first `k` bytes of a text deliver with their line feeds are the first lines of
the text, as many as there are line feeds among those bytes. -/
theorem lines_take (s : Bytes) (k : Nat) (e e' : Option Bytes) :
    lines ⟨s.take k, e⟩ = (lines ⟨s, e'⟩).take ((s.take k).count lineFeed) := by
  have hp := splitLines_fst_prefix (s.take k) (s.drop k)
  rw [List.take_append_drop] at hp
  rw [lines, lines, ← length_splitLines_fst]
  exact List.prefix_iff_eq_take.1 hp

theorem count_take_le_length_lines (s : Bytes) (k : Nat) (e : Option Bytes) :
    (s.take k).count lineFeed ≤ (lines ⟨s, e⟩).length := by
  rw [lines, length_splitLines_fst]
  exact (List.take_sublist k s).count_le lineFeed

/-- A feed that fails delivers the lines that end with a line feed, then only the failure. -/
theorem reads_of_failure {f : Feed} {e : Bytes} (hf : f.failure = some e) :
    f.reads = (f.lines.map dropReturn).map .line ++ [.broken e] := by
  rw [reads, final, hf, List.map_map]

theorem after_of_failure {f : Feed} {e : Bytes} (hf : f.failure = some e) :
    f.after = .broken e := by
  rw [after, hf]

end Feed

end Text

namespace WordList

open Text

/-! ### Reading lines, then a failure -/

/-- What reading a word list gives on an input of the lines `ls` and then a read failure `e`: the
failure, unless the header, the word lines it announces and the pattern line are all among `ls`,
or the header is no count. -/
def readLinesThenFail (ls : List Bytes) (e : Bytes) : Except ReadError WordList :=
  match ls with
  | [] => .error (.unavailable e)
  | header :: rest =>
    match headerCount? header with
    | none => .error (.badCount header)
    | some n =>
      if rest.length ≤ n then .error (.unavailable e)
      else .ok (ofLines (rest.take n) ((rest.drop n).headD []))

/-- Reading a word list from delivered lines, then only a failure. -/
theorem read_of_lines_broken {f : Feed} {ls : List Bytes} {e : Bytes}
    (hr : f.reads = ls.map .line ++ [.broken e]) (ha : f.after = .broken e) :
    read f = readLinesThenFail ls e := by
  cases ls with
  | nil => simp [read, readLinesThenFail, hr, bind, Except.bind]
  | cons header rest =>
    simp only [read, hr, ha, List.map_cons, List.cons_append, bind, Except.bind, pure,
      Except.pure]
    rw [readLinesThenFail]
    cases hn : headerCount? header with
    | none => rfl
    | some n =>
      simp only [gather_append_lines]
      by_cases hlt : rest.length < n
      · -- a word read meets the failure
        rw [if_pos hlt, if_pos (by omega)]
        obtain ⟨m, hm⟩ : ∃ m, n - rest.length = m + 1 := ⟨n - rest.length - 1, by omega⟩
        rw [hm]
        rfl
      · rw [if_neg hlt]
        by_cases hle : rest.length ≤ n
        · -- the pattern read meets the failure
          have hd : rest.drop n = [] := List.drop_eq_nil_of_le hle
          rw [if_pos hle, hd]
          rfl
        · rw [if_neg hle, List.drop_eq_getElem_cons (by omega)]
          rfl

/-! ### How many reads are made -/

/-- How many reads reading a word list makes on an input of the lines `ls` and then its end: one
when there is no header or it is no count; otherwise the header, the word lines it announces, or
as many as there are and the read that finds the end, and then the pattern line, or the read that
finds the end. -/
def readsMade : List Bytes → Nat
  | [] => 1
  | header :: rest =>
    match headerCount? header with
    | none => 1
    | some n => min rest.length n + 2

theorem readsMade_pos (ls : List Bytes) : 0 < readsMade ls := by
  unfold readsMade
  split
  · exact Nat.one_pos
  · split <;> omega

/-- Reading from the first `c` lines of an input and then a failure gives what reading from the
whole input gives when the reads made on it are among those lines, and the failure otherwise. -/
theorem readLinesThenFail_take (ls : List Bytes) (e : Bytes) {c : Nat} (hc : c ≤ ls.length) :
    readLinesThenFail (ls.take c) e =
      if readsMade ls ≤ c then readLines ls else .error (.unavailable e) := by
  cases ls with
  | nil =>
    obtain rfl : c = 0 := by simpa using hc
    rw [List.take_zero, if_neg (Nat.not_le.2 (readsMade_pos []))]
    rfl
  | cons header rest =>
    cases c with
    | zero =>
      rw [List.take_zero, if_neg (Nat.not_le.2 (readsMade_pos _))]
      rfl
    | succ c =>
      have hc' : c ≤ rest.length := by simpa using hc
      rw [List.take_succ_cons, readLinesThenFail, readsMade, readLines]
      cases hn : headerCount? header with
      | none => simp
      | some n =>
        dsimp only
        rw [List.length_take, Nat.min_eq_left hc']
        by_cases hcn : c ≤ n
        · -- the header, the words and the pattern line are more reads than the lines kept
          rw [if_pos hcn, if_neg (by omega)]
        · have hnr : n < rest.length := by omega
          rw [if_neg hcn, if_pos (by omega), if_neg (by omega), List.take_take,
            Nat.min_eq_left (by omega), List.drop_take]
          -- the pattern line is the line after the words, which is kept
          obtain ⟨j, hj⟩ : ∃ j, c - n = j + 1 := ⟨c - n - 1, by omega⟩
          rw [List.drop_eq_getElem_cons hnr, hj, List.take_succ_cons]
          rfl

/-- A reader that delivers the first `k` bytes of a text and then fails with the message `e`:
reading a word list from it gives what reading the whole text gives when each read made on the
whole text is a line ending with a line feed among those bytes, that is when the reads made are
no more than the line feeds there; otherwise it gives the failure. -/
theorem read_failing_reader (text e : Bytes) (k : Nat) :
    read ⟨text.take k, some e⟩ =
      if readsMade (linesOf text) ≤ (text.take k).count lineFeed then read ⟨text, none⟩
      else .error (.unavailable e) := by
  have htl : EndsDone (if (⟨text, none⟩ : Feed).tail = [] then [.done] else []) := by
    split
    · exact Or.inr rfl
    · exact Or.inl rfl
  rw [read_of_lines htl (Feed.reads_eq rfl) (Feed.after_eq rfl),
    read_of_lines_broken (Feed.reads_of_failure rfl) (Feed.after_of_failure rfl)]
  -- the delivered lines are the first lines of the whole text
  have hc := Feed.count_take_le_length_lines text k none
  have hlines : (Feed.lines ⟨text.take k, some e⟩).map dropReturn =
      (linesOf text).take ((text.take k).count lineFeed) := by
    have hsplit : (splitLines text).1 = Feed.lines ⟨text, none⟩ := rfl
    rw [Feed.lines_take text k (some e) none, linesOf_eq, hsplit, List.map_append,
      List.take_append_of_le_length (by simpa using hc), List.map_take]
  rw [hlines]
  exact readLinesThenFail_take _ e (le_trans hc (by simp [linesOf_eq, Feed.lines]))

end WordList

end WordSift
