import WordSift.Prompt
import WordSift.Proofs.WordList.Reading

/-!
# What a prompt session does with each line

A prompt session reads its input line by line and answers each line before it reads the next.
What a line asks for is decided on the line trimmed of blanks: nothing when it is blank, the end
of the session for `quit` and `exit`, the statistics for `:stats`; any other line is a pattern,
taken as it is (`Command.ofLine_of_*`). Answering a line changes nothing in the session but the
count of patterns asked, and it counts every pattern line, long or short, matching or not
(`answer_of_*`, gathered in `answer_spec`); so the session a line is answered in is the first one
with the pattern lines before it counted (`Prompt.after`), and its reply is the one `Answers`
gives.

The loop reads by position in the feed and stops after a line that ends the session, after the
line without a line feed at the end of the input, or at a read that finds the end or fails.
`loop_eq_answerLines` turns it into a recursion over the delivered lines (`Prompt.answerLines`),
on which the induction is made (`answerLines_answers`).
-/

namespace WordSift

open Text

/-! ### What a line asks for -/

/-- Trimmed of blanks, the line is empty. -/
def Blank (l : Bytes) : Prop := trimBlank l = []

/-- Trimmed of blanks, the line is `quit` or `exit`. -/
def Quits (l : Bytes) : Prop :=
  trimBlank l = Bytes.ofString "quit" ∨ trimBlank l = Bytes.ofString "exit"

/-- Trimmed of blanks, the line is `:stats`. -/
def AsksStats (l : Bytes) : Prop := trimBlank l = Bytes.ofString ":stats"

/-- A line that is neither blank nor a command: a pattern. -/
def IsPattern (l : Bytes) : Prop := ¬Blank l ∧ ¬Quits l ∧ ¬AsksStats l

instance : DecidablePred Blank := fun _ => inferInstanceAs (Decidable (_ = _))
instance : DecidablePred Quits := fun _ => inferInstanceAs (Decidable (_ ∨ _))
instance : DecidablePred AsksStats := fun _ => inferInstanceAs (Decidable (_ = _))
instance : DecidablePred IsPattern := fun _ => inferInstanceAs (Decidable (_ ∧ _))

theorem quit_ne_nil : Bytes.ofString "quit" ≠ [] := by decide +kernel

theorem exit_ne_nil : Bytes.ofString "exit" ≠ [] := by decide +kernel

theorem statsCommand_ne_nil : Bytes.ofString ":stats" ≠ [] := by decide +kernel

theorem statsCommand_ne_quit : Bytes.ofString ":stats" ≠ Bytes.ofString "quit" := by
  decide +kernel

theorem statsCommand_ne_exit : Bytes.ofString ":stats" ≠ Bytes.ofString "exit" := by
  decide +kernel

theorem Quits.not_blank {l : Bytes} (h : Quits l) : ¬Blank l := by
  rcases h with h | h <;> intro hb <;> rw [Blank, h] at hb
  · exact quit_ne_nil hb
  · exact exit_ne_nil hb

theorem AsksStats.not_blank {l : Bytes} (h : AsksStats l) : ¬Blank l := by
  intro hb
  rw [Blank, h] at hb
  exact statsCommand_ne_nil hb

theorem AsksStats.not_quits {l : Bytes} (h : AsksStats l) : ¬Quits l := by
  rintro (hq | hq) <;> rw [h] at hq
  · exact statsCommand_ne_quit hq
  · exact statsCommand_ne_exit hq

namespace Command

variable {l : Bytes}

theorem ofLine_of_blank (h : Blank l) : ofLine l = .nothing := by
  simp [ofLine, show trimBlank l = [] from h]

theorem ofLine_of_quits (h : Quits l) : ofLine l = .quit := by
  rcases h with h | h <;> simp [ofLine, h, quit_ne_nil, exit_ne_nil]

theorem ofLine_of_asksStats (h : AsksStats l) : ofLine l = .stats := by
  simp [ofLine, show trimBlank l = Bytes.ofString ":stats" from h, statsCommand_ne_nil,
    statsCommand_ne_quit, statsCommand_ne_exit]

theorem ofLine_of_isPattern (h : IsPattern l) : ofLine l = .pattern l := by
  obtain ⟨hb, hq, hs⟩ := h
  simp only [Blank, Quits, AsksStats, not_or] at hb hq hs
  simp [ofLine, hb, hq.1, hq.2, hs]

end Command

/-! ### One line -/

/-- The reply owed to the line `l` by the session `q` it is answered in: nothing for a blank line
or a line that ends the session, the statistics for `:stats`, and for a pattern, the refusal
when it is longer than the limit and otherwise the report of matching it, as it is, with the
session's selector. -/
structure Answers (q : Prompt) (l reply : Bytes) : Prop where
  blank : Blank l → reply = []
  quits : Quits l → reply = []
  stats : AsksStats l → reply = q.stats
  tooLong : IsPattern l → (l.length : Int) > q.maxPatternLen → reply = Prompt.tooLong l
  matched : IsPattern l → ¬(l.length : Int) > q.maxPatternLen →
    reply = Prompt.report l (q.selector.select l)

namespace Prompt

/-- The session with the pattern lines among `before` counted as asked. -/
def after (p : Prompt) (before : List Bytes) : Prompt :=
  { p with asked := p.asked + before.countP fun l => decide (IsPattern l) }

@[simp] theorem after_nil (p : Prompt) : p.after [] = p := rfl

theorem after_after (p : Prompt) (xs ys : List Bytes) :
    (p.after xs).after ys = p.after (xs ++ ys) := by
  simp only [after, List.countP_append, Nat.add_assoc]

variable (p : Prompt) {l : Bytes}

theorem answer_of_blank (h : Blank l) : p.answer l = (p, [], false) := by
  simp [answer, Command.ofLine_of_blank h]

theorem answer_of_quits (h : Quits l) : p.answer l = (p, [], true) := by
  simp [answer, Command.ofLine_of_quits h]

theorem answer_of_asksStats (h : AsksStats l) : p.answer l = (p, p.stats, false) := by
  simp [answer, Command.ofLine_of_asksStats h]

/-- A pattern line is counted, refused when it is longer than the limit, and otherwise matched as
it is by the session's selector. -/
theorem answer_of_isPattern (h : IsPattern l) :
    p.answer l = ({ p with asked := p.asked + 1 },
      if (l.length : Int) > p.maxPatternLen then tooLong l else report l (p.selector.select l),
      false) := by
  simp only [answer, Command.ofLine_of_isPattern h, ask]
  split <;> rfl

/-- Answering a line: the session moves on to the one with the line counted when it is a pattern,
it stops exactly at a line that ends it, and the reply is the one it owes. -/
theorem answer_spec (p : Prompt) (l : Bytes) :
    (p.answer l).1 = p.after [l] ∧ (p.answer l).2.2 = decide (Quits l) ∧
      Answers p l (p.answer l).2.1 := by
  by_cases hq : Quits l
  · rw [answer_of_quits p hq]
    exact ⟨by simp [after, IsPattern, hq], by simp [hq], fun _ => rfl, fun _ => rfl,
      fun hs => absurd hq hs.not_quits, fun hp => absurd hq hp.2.1, fun hp => absurd hq hp.2.1⟩
  by_cases hb : Blank l
  · rw [answer_of_blank p hb]
    exact ⟨by simp [after, IsPattern, hb], by simp [hq], fun _ => rfl, fun _ => rfl,
      fun hs => absurd hb hs.not_blank, fun hp => absurd hb hp.1, fun hp => absurd hb hp.1⟩
  by_cases hs : AsksStats l
  · rw [answer_of_asksStats p hs]
    exact ⟨by simp [after, IsPattern, hs], by simp [hq], fun h => absurd h hb,
      fun h => absurd h hq, fun _ => rfl, fun hp => absurd hs hp.2.2, fun hp => absurd hs hp.2.2⟩
  · -- a pattern: counted, then refused or matched
    rw [answer_of_isPattern p ⟨hb, hq, hs⟩]
    exact ⟨by simp [after, IsPattern, hb, hq, hs], by simp [hq], fun h => absurd h hb,
      fun h => absurd h hq, fun h => absurd h hs, fun _ hlong => by simp [hlong],
      fun _ hshort => by simp [hshort]⟩

end Prompt

/-! ### The reads of a session -/

namespace Text

/-- The line a read delivers, if it delivers one. -/
def Read.text? : Read → Option Bytes
  | .line l => some l
  | _ => none

/-- The failure a read reports, if it fails. -/
def Read.failure? : Read → Option Bytes
  | .broken e => some e
  | _ => none

namespace Feed

theorem read_of_lt {f : Feed} {k : Nat} (hk : k < f.lines.length) :
    f.read k = .line (dropReturn f.lines[k]) := by
  rw [read, reads, List.getD_eq_getElem?_getD, List.getElem?_append_left (by simpa using hk)]
  simp [List.getElem?_eq_getElem hk]

theorem read_length (f : Feed) : f.read f.lines.length = f.final := by
  rw [read, reads, List.getD_eq_getElem?_getD, List.getElem?_append_right (by simp)]
  simp

/-- The lines a feed delivers: those that end with a line feed, then the bytes after the last
one when the input ends there and they are not empty. Without a failure, these are the lines of
the text. -/
theorem lines_append_final_text? (f : Feed) :
    f.lines.map dropReturn ++ f.final.text?.toList =
      if f.failure = none then linesOf f.bytes else f.lines.map dropReturn := by
  cases hf : f.failure with
  | some e => simp [final, hf, Read.text?]
  | none =>
    rw [if_pos rfl, linesOf_eq, ← lines, ← tail, List.map_append]
    by_cases ht : f.tail = []
    · simp [final, hf, ht, Read.text?]
    · simp [final, hf, ht, Read.text?]

end Feed

end Text

/-- The lines a session handles: all of them, or those up to the first that ends it. -/
def untilQuit : List Bytes → List Bytes
  | [] => []
  | l :: ls => if Quits l then [l] else l :: untilQuit ls

namespace Prompt

/-- What a session prints when it stops at the read `last` without a line that ends it: a cue,
unless that read delivered a line. -/
def closing : Read → Bytes
  | .line _ => []
  | _ => cue

/-- A session over the lines `ls` that end with a line feed, then the last read `last`: each line
is answered after a cue, until one ends the session. -/
def answerLines (p : Prompt) : List Bytes → Read → Bytes × Option Bytes
  | [], .line l => (cue ++ (p.answer l).2.1, none)
  | [], .done => (cue, none)
  | [], .broken e => (cue, some e)
  | l :: ls, last =>
    if (p.answer l).2.2 then (cue ++ (p.answer l).2.1, none)
    else (cue ++ (p.answer l).2.1 ++ ((p.answer l).1.answerLines ls last).1,
      ((p.answer l).1.answerLines ls last).2)

theorem loop_of_line {f : Feed} {k fuel : Nat} {l : Bytes} (p : Prompt) (h : f.read k = .line l) :
    loop f (fuel + 1) k p =
      if (p.answer l).2.2 || k ≥ f.lines.length then (cue ++ (p.answer l).2.1, none)
      else (cue ++ (p.answer l).2.1 ++ (loop f fuel (k + 1) (p.answer l).1).1,
        (loop f fuel (k + 1) (p.answer l).1).2) := by
  rw [loop, h]

/-- With a read for each line left and one more, the loop reads the lines left, then the final
read, as the session over them does. The induction is on the reads left. -/
theorem loop_eq_answerLines (f : Feed) :
    ∀ (fuel k : Nat) (p : Prompt), k ≤ f.lines.length → f.lines.length - k < fuel →
      loop f fuel k p = p.answerLines ((f.lines.drop k).map dropReturn) f.final := by
  intro fuel
  induction fuel with
  | zero => intro k p _ hfuel; omega
  | succ fuel ih =>
    intro k p hk hfuel
    by_cases hlt : k < f.lines.length
    · -- a line that ends with a line feed: the loop goes on unless it ends the session
      rw [loop_of_line p (Feed.read_of_lt hlt), List.drop_eq_getElem_cons hlt, List.map_cons,
        answerLines, ih (k + 1) _ (by omega) (by omega)]
      simp [Nat.not_le.2 hlt]
    · -- the final read
      obtain rfl : k = f.lines.length := by omega
      rw [List.drop_length, List.map_nil]
      cases hfin : f.final with
      | line l => rw [loop_of_line p (hfin ▸ Feed.read_length f)]; simp [answerLines]
      | done => simp [loop, Feed.read_length, hfin, answerLines]
      | broken e => simp [loop, Feed.read_length, hfin, answerLines]

theorem run_eq_answerLines (p : Prompt) (f : Feed) :
    p.run f = (p.greeting ++ (p.answerLines (f.lines.map dropReturn) f.final).1,
      (p.answerLines (f.lines.map dropReturn) f.final).2) := by
  rw [run, loop_eq_answerLines f _ 0 p (Nat.zero_le _) (by omega), List.drop_zero]

/-! ### A whole session -/

/-- The session over some lines, then a last read, answers the lines it handles as it owes, each
in the session with the pattern lines before it counted: all the lines and the one the last read
delivers, or those up to the first that ends the session. It prints each reply after a cue, and
then a cue for a last read that finds the end or fails, unless a line ended the session; it
reports that failure, unless a line ended the session. The induction is on the lines, from any
session. -/
theorem answerLines_answers (last : Read) (ls : List Bytes) (p : Prompt) :
    ∃ replies : List Bytes,
      replies.length = (untilQuit (ls ++ last.text?.toList)).length ∧
      (∀ i (hi : i < (untilQuit (ls ++ last.text?.toList)).length) (hr : i < replies.length),
        Answers (p.after ((untilQuit (ls ++ last.text?.toList)).take i))
          (untilQuit (ls ++ last.text?.toList))[i] replies[i]) ∧
      p.answerLines ls last =
        (replies.flatMap (cue ++ ·) ++
            if ∃ l ∈ ls ++ last.text?.toList, Quits l then [] else closing last,
          if ∃ l ∈ ls ++ last.text?.toList, Quits l then none else last.failure?) := by
  induction ls generalizing p with
  | nil =>
    cases last with
    | line l =>
      -- the last read delivers one line, and the session stops after it whatever it asks
      have hu : untilQuit [l] = [l] := by by_cases hq : Quits l <;> simp [untilQuit, hq]
      refine ⟨[(p.answer l).2.1], ?_, ?_, ?_⟩
      · simp [Read.text?, hu]
      · intro i hi _
        simp only [Read.text?, Option.toList_some, List.nil_append, hu, List.length_singleton,
          Nat.lt_one_iff] at hi ⊢
        subst hi
        exact (answer_spec p l).2.2
      · by_cases hq : Quits l <;> simp [answerLines, Read.text?, closing, Read.failure?, hq]
    | done => exact ⟨[], rfl, fun i hi => absurd hi (by simp [untilQuit, Read.text?]),
        by simp [answerLines, Read.text?, closing, Read.failure?]⟩
    | broken e => exact ⟨[], rfl, fun i hi => absurd hi (by simp [untilQuit, Read.text?]),
        by simp [answerLines, Read.text?, closing, Read.failure?]⟩
  | cons l ls ih =>
    rw [List.cons_append]
    by_cases hq : Quits l
    · -- the first line ends the session
      have hu : untilQuit (l :: (ls ++ last.text?.toList)) = [l] := by simp [untilQuit, hq]
      have hex : ∃ x ∈ l :: (ls ++ last.text?.toList), Quits x :=
        ⟨l, List.mem_cons_self .., hq⟩
      refine ⟨[[]], by simp [hu], fun i hi _ => ?_, ?_⟩
      · simp only [hu, List.length_singleton, Nat.lt_one_iff] at hi
        subst hi
        simpa [hu, p.answer_of_quits hq] using (answer_spec p l).2.2
      · rw [if_pos hex, if_pos hex]
        simp [answerLines, p.answer_of_quits hq]
    · -- the first line is answered, and the rest from the session it leaves
      have hu : untilQuit (l :: (ls ++ last.text?.toList)) =
          l :: untilQuit (ls ++ last.text?.toList) := by simp [untilQuit, hq]
      have hex : (∃ x ∈ l :: (ls ++ last.text?.toList), Quits x) ↔
          ∃ x ∈ ls ++ last.text?.toList, Quits x := by simp [hq]
      obtain ⟨replies, hlen, hans, hrun⟩ := ih (p.after [l])
      refine ⟨(p.answer l).2.1 :: replies, by simp [hu, hlen], fun i hi hr => ?_, ?_⟩
      · cases i with
        | zero => simpa [hu] using (answer_spec p l).2.2
        | succ j =>
          have hj := hans j (by simpa [hu] using hi) (by simpa using hr)
          simpa [hu, after_after] using hj
      · rw [answerLines, if_neg (by simp [(answer_spec p l).2.1, hq]), (answer_spec p l).1, hrun]
        simp only [hex, List.flatMap_cons, List.append_assoc]

end Prompt

/-- The lines the reads of a feed deliver: the lines of the text when the input just ends, and
only those that end with a line feed when a read fails. -/
def Text.Feed.delivered (f : Feed) : List Bytes :=
  if f.failure = none then linesOf f.bytes else f.lines.map dropReturn

/-- A prompt session on a feed: the bytes of the input, then its end or a read failure. The
session handles the lines the reads deliver, in order: the segments ending with a line feed and,
when the input just ends, the segment after the last one when it is not empty, each without its
line feed and one carriage return before it. It handles all of them, or those up to the first
that, trimmed of blanks, is `quit` or `exit`, after which it stops and reports no failure. Each
line is answered in the session with the pattern lines before it counted and nothing else
changed: a blank line and a line that ends the session get no reply; `:stats` gets the
statistics with that count of patterns; any other line is a pattern, counted, refused when it is
longer than the limit, and otherwise matched as it is, untrimmed, by the same selector. The
replies are printed after the greeting, each after a cue, and a last cue is printed for a read
that finds the end or fails; a failure is reported at that read, and the line it cut is not
handled. -/
theorem run_answers_lines (p : Prompt) (f : Feed) :
    ∃ replies : List Bytes,
      replies.length = (untilQuit f.delivered).length ∧
      (∀ i (hi : i < (untilQuit f.delivered).length) (hr : i < replies.length),
        Answers (p.after ((untilQuit f.delivered).take i)) (untilQuit f.delivered)[i]
          replies[i]) ∧
      p.run f =
        (p.greeting ++ replies.flatMap (Prompt.cue ++ ·) ++
            if (∃ l ∈ f.delivered, Quits l) ∨ (f.failure = none ∧ f.tail ≠ []) then []
            else Prompt.cue,
          if ∃ l ∈ f.delivered, Quits l then none else f.failure) := by
  obtain ⟨replies, hlen, hans, hrun⟩ :=
    Prompt.answerLines_answers f.final (f.lines.map dropReturn) p
  rw [Feed.lines_append_final_text?, ← Feed.delivered] at hlen hans hrun
  refine ⟨replies, hlen, hans, ?_⟩
  rw [Prompt.run_eq_answerLines, hrun]
  -- the last read: the end of the input, the line after the last line feed, or the failure
  cases hf : f.failure with
  | some e => simp [hf, Feed.final, Prompt.closing, Read.failure?]
  | none =>
    by_cases ht : f.tail = [] <;> by_cases hq : ∃ l ∈ f.delivered, Quits l <;>
      simp [hf, ht, hq, Feed.final, Prompt.closing, Read.failure?]

end WordSift
