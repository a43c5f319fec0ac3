import WordSift.Server.Session
import WordSift.Proofs.Server.Reading
import WordSift.Proofs.Selector

/-!
# A session answers every request on its own

A stream of requests (`Reads`) is served one request at a time: the server answers each in
order and stops quietly where the stream ends (`serve_of_reads`). What it answers depends on
the session only through two counters, the matches served so far and the statistics of the
word list of the last one, and through its id source and the count of ids it has taken from it
for requests that had none.

`handle_cases` says everything one request can do to a session. A match request that is within
the server's limits and whose pattern compiles is answered by a fresh selector made from the
settings and the request alone, and only such a request moves the two counters. Every other
request leaves them as they were. So the session after any exchanges is read off those
exchanges (`sessionAfter`), and by induction on the stream every reply is the one the exchanges
before it call for (`Answers`). The server takes each new id from its source at the next
position, so it never hands out a position twice, and a source without repeats gives requests
without an id ids that are all different (`serve_fresh_ids_distinct`).
-/

namespace WordSift.Server

/-! ### Replies and requests -/

/-- The id a reply carries. -/
def Reply.id : Reply → Bytes
  | .matched id _ => id
  | .stats id _ _ => id
  | .failure id _ _ => id

/-- The reply carries the outcome of a served match. -/
def Reply.served : Reply → Bool
  | .matched _ _ => true
  | _ => false

/-- The request asks for a match: it names no action, or `match`. -/
def Request.AsksMatch (r : Request) : Prop :=
  r.action = [] ∨ r.action = Bytes.ofString "match"

instance : DecidablePred Request.AsksMatch :=
  fun r => inferInstanceAs (Decidable (r.action = [] ∨ r.action = Bytes.ofString "match"))

/-- A match request within the server's limits: no more words than allowed, no word longer
than allowed, and a pattern no longer than allowed. -/
structure Within (lim : ServerSettings) (r : Request) : Prop where
  words_le : (r.words.length : Int) ≤ lim.maxWords
  word_le : ∀ w ∈ r.words, (w.length : Int) ≤ lim.maxWordLen
  pattern_le : (r.pattern.length : Int) ≤ lim.maxPatternLen

/-- A match request refused before any word is matched: it passes a limit of the server, or
its pattern does not compile. -/
def Refused (cfg : Settings) (r : Request) : Prop :=
  ¬Within cfg.server r ∨ ∃ e, Pattern.compile r.pattern cfg.matching.fold = .error e

/-- The outcome a fresh selector gives a match request: it compares the request's number of
words when that is positive and the configured one otherwise, prunes and folds as configured,
and holds the normal forms of the request's words that can be stored. -/
def freshOutcome (cfg : Settings) (r : Request) : Except Pattern.SyntaxError Outcome :=
  ((Selector.new (if r.compare > 0 then r.compare else cfg.matching.compare)
      cfg.matching.prune cfg.matching.fold).load
    (WordList.ofLines r.words r.pattern).words).1.select r.pattern

/-- The statistics a served match request leaves in the session: those of its word list. -/
def Request.stats (r : Request) : Index.Stats := (WordList.ofLines r.words r.pattern).index.stats

theorem stats_ne_nil : Bytes.ofString "stats" ≠ [] := by decide +kernel

theorem stats_ne_match : Bytes.ofString "stats" ≠ Bytes.ofString "match" := by decide +kernel

theorem Request.not_asksMatch_of_stats {r : Request} (h : r.action = Bytes.ofString "stats") :
    ¬r.AsksMatch := by
  rintro (hm | hm)
  · exact stats_ne_nil (h ▸ hm)
  · exact stats_ne_match (h ▸ hm)

/-! ### Serving a match request -/

namespace Session

variable (s : Session) (id : Bytes) {r : Request}

/-- A match request within the limits is answered from a fresh selector: a pattern that does not
compile is refused, and otherwise the outcome is replied and counted with the statistics of the
request's word list. -/
theorem serveMatch_of_within (h : Within s.settings.server r) :
    s.serveMatch id r = match freshOutcome s.settings r with
      | .error e => (s, .failure id (Bytes.ofString e.message) 400)
      | .ok o => ({ s with served := s.served + 1, last := r.stats }, .matched id o) := by
  have hwords : ¬(r.words.length : Int) > s.settings.server.maxWords := not_lt.2 h.words_le
  have hword : r.words.findIdx? (fun w => decide ((w.length : Int) > s.settings.server.maxWordLen)) =
      none := by
    rw [List.findIdx?_eq_none_iff]
    intro w hw
    simpa using h.word_le w hw
  have hpattern : ¬(r.pattern.length : Int) > s.settings.server.maxPatternLen :=
    not_lt.2 h.pattern_le
  rw [serveMatch, if_neg hwords, hword]
  simp only [if_neg hpattern]
  rfl

/-- A match request past a limit is refused with code 400 and leaves the session as it was;
the checks go in the order words, word lengths, pattern length. -/
theorem serveMatch_of_not_within (h : ¬Within s.settings.server r) :
    ∃ m, s.serveMatch id r = (s, .failure id m 400) := by
  unfold serveMatch
  by_cases hwords : (r.words.length : Int) > s.settings.server.maxWords
  · rw [if_pos hwords]
    exact ⟨_, rfl⟩
  rw [if_neg hwords]
  cases hword : r.words.findIdx? fun w => decide ((w.length : Int) > s.settings.server.maxWordLen) with
  | some i => exact ⟨_, rfl⟩
  | none =>
    -- every word is short enough, so the pattern is what passes its limit
    have hshort : ∀ w ∈ r.words, (w.length : Int) ≤ s.settings.server.maxWordLen := by
      intro w hw
      simpa using List.findIdx?_eq_none_iff.1 hword w hw
    have hpattern : (r.pattern.length : Int) > s.settings.server.maxPatternLen := by
      by_contra hp
      exact h ⟨not_lt.1 hwords, hshort, not_lt.1 hp⟩
    simp only [if_pos hpattern]
    exact ⟨_, rfl⟩

/-- A fresh selector refuses exactly the patterns that do not compile. -/
theorem freshOutcome_eq_error_iff (cfg : Settings) (r : Request) (e : Pattern.SyntaxError) :
    freshOutcome cfg r = .error e ↔ Pattern.compile r.pattern cfg.matching.fold = .error e := by
  rw [freshOutcome, Selector.select_eq_error_iff, Selector.load_new]

/-! ### One request -/

/-- Everything one request can do to a session. The request's id is kept, or when it has none
the next id is taken from the session's source and counted. A match request past a limit, or whose pattern does not
compile, is refused with code 400; any other match request is answered with a fresh
selector's outcome, which is counted with its word list's statistics. A stats request is
answered from the two counters, and any other action is refused with code 400. Only a
served match moves the counters. -/
theorem handle_cases (r : Request) :
    let s' : Session := { s with issued := s.issued + if r.id = [] then 1 else 0 }
    let rid := if r.id = [] then s.ids s.issued else r.id
    (r.AsksMatch ∧ Refused s.settings r ∧ ∃ m, s.handle r = (s', .failure rid m 400)) ∨
    (r.AsksMatch ∧ ¬Refused s.settings r ∧ ∃ o, freshOutcome s.settings r = .ok o ∧
      s.handle r = ({ s' with served := s.served + 1, last := r.stats }, .matched rid o)) ∨
    (r.action = Bytes.ofString "stats" ∧ s.handle r = (s', .stats rid s.last s.served)) ∨
    (¬r.AsksMatch ∧ r.action ≠ Bytes.ofString "stats" ∧ ∃ m, s.handle r = (s', .failure rid m 400)) := by
  intro s' rid
  have hstart : s.handle r =
      if r.AsksMatch then s'.serveMatch rid r
      else if r.action = Bytes.ofString "stats" then (s', .stats rid s.last s.served)
      else (s', .failure rid (Bytes.ofString "unknown action: " ++ r.action) 400) := by
    by_cases hid : r.id = [] <;> simp [handle, hid, s', rid, Request.AsksMatch]
  by_cases hm : r.AsksMatch
  · rw [if_pos hm] at hstart
    by_cases hw : Within s'.settings.server r
    · rw [hstart, serveMatch_of_within s' rid hw]
      cases ho : freshOutcome s'.settings r with
      | error e =>
        have hc := (freshOutcome_eq_error_iff _ r e).1 ho
        exact Or.inl ⟨hm, Or.inr ⟨e, hc⟩, _, rfl⟩
      | ok o =>
        refine Or.inr (Or.inl ⟨hm, ?_, o, rfl, rfl⟩)
        rintro (hw' | ⟨e, he⟩)
        · exact hw' hw
        · rw [← freshOutcome_eq_error_iff] at he
          exact absurd (ho.symm.trans he) (by simp)
    · obtain ⟨m, hsm⟩ := serveMatch_of_not_within s' rid hw
      exact Or.inl ⟨hm, Or.inl hw, m, hstart.trans hsm⟩
  · rw [if_neg hm] at hstart
    by_cases hst : r.action = Bytes.ofString "stats"
    · rw [if_pos hst] at hstart
      exact Or.inr (Or.inr (Or.inl ⟨hst, hstart⟩))
    · rw [if_neg hst] at hstart
      exact Or.inr (Or.inr (Or.inr ⟨hm, hst, _, hstart⟩))

end Session

/-! ### The session after some exchanges -/

/-- How many matches the exchanges served. -/
def servedCount (hist : List (Request × Reply)) : Nat := hist.countP fun e => e.2.served

/-- The statistics of the word list of the last match the exchanges served, all zero before any
was served. -/
def lastStats (hist : List (Request × Reply)) : Index.Stats :=
  hist.foldl (fun st e => if e.2.served then e.1.stats else st) ⟨0, 0, 0, 0⟩

/-- How many ids the server took from its source: one for each request that had none. -/
def issuedCount (hist : List (Request × Reply)) : Nat := hist.countP fun e => e.1.id = []

/-- The session a server with settings `cfg` and id source `ids` is in after the exchanges
`hist`, each request with its reply. -/
def sessionAfter (ids : Nat → Bytes) (cfg : Settings) (hist : List (Request × Reply)) : Session :=
  ⟨cfg, ids, servedCount hist, lastStats hist, issuedCount hist⟩

theorem sessionAfter_nil (ids : Nat → Bytes) (cfg : Settings) :
    sessionAfter ids cfg [] = { settings := cfg, ids := ids } :=
  rfl

/-- One more exchange moves the served counters only when its reply is a served match. -/
theorem sessionAfter_snoc (ids : Nat → Bytes) (cfg : Settings) (hist : List (Request × Reply))
    (r : Request) (reply : Reply) :
    sessionAfter ids cfg (hist ++ [(r, reply)]) =
      ⟨cfg, ids, servedCount hist + (if reply.served then 1 else 0),
        if reply.served then r.stats else lastStats hist,
        issuedCount hist + if r.id = [] then 1 else 0⟩ := by
  cases hs : reply.served <;> by_cases hid : r.id = [] <;>
    simp [sessionAfter, servedCount, lastStats, issuedCount, hs, hid]

/-- The reply a server with settings `cfg` and id source `ids` owes to the request `r` after the
exchanges `hist`. -/
structure Answers (ids : Nat → Bytes) (cfg : Settings) (hist : List (Request × Reply))
    (r : Request) (reply : Reply) : Prop where
  /-- The request's own id, or else the source's id at the position after those taken. -/
  id_eq : reply.id = if r.id = [] then ids (issuedCount hist) else r.id
  /-- A refused match request gets an error with code 400. -/
  refused : r.AsksMatch → Refused cfg r → ∃ m, reply = .failure reply.id m 400
  /-- Any other match request gets the outcome of a fresh selector, whatever came before. -/
  matched : r.AsksMatch → ¬Refused cfg r →
    ∃ o, freshOutcome cfg r = .ok o ∧ reply = .matched reply.id o
  /-- A stats request gets the statistics of the last served match and the number served. -/
  stats : r.action = Bytes.ofString "stats" →
    reply = .stats reply.id (lastStats hist) (servedCount hist)
  /-- Any other action gets an error with code 400. -/
  unknown : ¬r.AsksMatch → r.action ≠ Bytes.ofString "stats" → ∃ m, reply = .failure reply.id m 400

namespace Answers

variable {ids : Nat → Bytes} {cfg : Settings} {hist : List (Request × Reply)} {r : Request}
  {id : Bytes} (hid : id = if r.id = [] then ids (issuedCount hist) else r.id)
include hid

theorem of_refused (hm : r.AsksMatch) (hr : Refused cfg r) (m : Bytes) :
    Answers ids cfg hist r (.failure id m 400) where
  id_eq := hid
  refused _ _ := ⟨m, rfl⟩
  matched _ hr' := absurd hr hr'
  stats hs := absurd hm (Request.not_asksMatch_of_stats hs)
  unknown hm' := absurd hm hm'

theorem of_matched (hm : r.AsksMatch) (hr : ¬Refused cfg r) {o : Outcome}
    (ho : freshOutcome cfg r = .ok o) : Answers ids cfg hist r (.matched id o) where
  id_eq := hid
  refused _ hr' := absurd hr' hr
  matched _ _ := ⟨o, ho, rfl⟩
  stats hs := absurd hm (Request.not_asksMatch_of_stats hs)
  unknown hm' := absurd hm hm'

theorem of_stats (hs : r.action = Bytes.ofString "stats") :
    Answers ids cfg hist r (.stats id (lastStats hist) (servedCount hist)) where
  id_eq := hid
  refused hm := absurd hm (Request.not_asksMatch_of_stats hs)
  matched hm := absurd hm (Request.not_asksMatch_of_stats hs)
  stats _ := rfl
  unknown _ hs' := absurd hs hs'

theorem of_unknown (hm : ¬r.AsksMatch) (hs : r.action ≠ Bytes.ofString "stats") (m : Bytes) :
    Answers ids cfg hist r (.failure id m 400) where
  id_eq := hid
  refused hm' := absurd hm' hm
  matched hm' := absurd hm' hm
  stats hs' := absurd hs' hs
  unknown _ _ := ⟨m, rfl⟩

end Answers

/-- One request, from the session its earlier exchanges left: the reply is the one they call
for, and the session moves on to the one the exchanges with this reply leave. -/
theorem handle_sessionAfter (ids : Nat → Bytes) (cfg : Settings) (hist : List (Request × Reply))
    (r : Request) :
    (sessionAfter ids cfg hist).handle r =
        (sessionAfter ids cfg (hist ++ [(r, ((sessionAfter ids cfg hist).handle r).2)]),
          ((sessionAfter ids cfg hist).handle r).2) ∧
      Answers ids cfg hist r ((sessionAfter ids cfg hist).handle r).2 := by
  have hid : (if r.id = [] then (sessionAfter ids cfg hist).ids (sessionAfter ids cfg hist).issued
      else r.id) = if r.id = [] then ids (issuedCount hist) else r.id := rfl
  rcases Session.handle_cases (sessionAfter ids cfg hist) r with
    ⟨hm, hr, m, h⟩ | ⟨hm, hr, o, ho, h⟩ | ⟨hs, h⟩ | ⟨hm, hs, m, h⟩ <;> rw [h] <;>
    refine ⟨?_, ?_⟩
  · rw [sessionAfter_snoc]
    simp [Reply.served, sessionAfter]
  · exact Answers.of_refused hid hm hr m
  · rw [sessionAfter_snoc]
    simp [Reply.served, sessionAfter]
  · exact Answers.of_matched hid hm hr ho
  · rw [sessionAfter_snoc]
    simp [Reply.served, sessionAfter]
  · exact Answers.of_stats hid hs
  · rw [sessionAfter_snoc]
    simp [Reply.served, sessionAfter]
  · exact Answers.of_unknown hid hm hs m

/-! ### A whole stream -/

/-- Answers requests in order, each from the session the one before it left. -/
def Session.answerAll (s : Session) : List Request → List Reply
  | [] => []
  | r :: rs => (s.handle r).2 :: (s.handle r).1.answerAll rs

/-- Requests answered in order from the session some exchanges left: each reply is the one the
exchanges before it call for, from the session they leave. The induction is on the requests,
carrying the exchanges so far. -/
theorem answerAll_sessionAfter (ids : Nat → Bytes) (cfg : Settings) (rs : List Request) :
    ∀ hist : List (Request × Reply),
      ((sessionAfter ids cfg hist).answerAll rs).length = rs.length ∧
      ∀ i (hi : i < rs.length) (hr : i < ((sessionAfter ids cfg hist).answerAll rs).length),
        (sessionAfter ids cfg (hist ++ (rs.zip ((sessionAfter ids cfg hist).answerAll rs)).take i)).handle
            rs[i] =
          (sessionAfter ids cfg (hist ++ (rs.zip ((sessionAfter ids cfg hist).answerAll rs)).take (i + 1)),
            ((sessionAfter ids cfg hist).answerAll rs)[i]) ∧
        Answers ids cfg (hist ++ (rs.zip ((sessionAfter ids cfg hist).answerAll rs)).take i) rs[i]
          ((sessionAfter ids cfg hist).answerAll rs)[i] := by
  induction rs with
  | nil => intro hist; simp [Session.answerAll]
  | cons r rs ih =>
    intro hist
    obtain ⟨hstep, hans⟩ := handle_sessionAfter ids cfg hist r
    have hall : (sessionAfter ids cfg hist).answerAll (r :: rs) =
        ((sessionAfter ids cfg hist).handle r).2 ::
          (sessionAfter ids cfg (hist ++ [(r, ((sessionAfter ids cfg hist).handle r).2)])).answerAll rs := by
      rw [Session.answerAll, hstep]
    obtain ⟨hlen, hrest⟩ := ih (hist ++ [(r, ((sessionAfter ids cfg hist).handle r).2)])
    rw [hall]
    refine ⟨by simp [hlen], fun i hi hr => ?_⟩
    cases i with
    | zero => simpa using ⟨hstep, hans⟩
    | succ j =>
      have := hrest j (by simpa using hi) (by simpa using hr)
      simpa [List.take_succ_cons, List.append_assoc] using this

/-- The stream `input` holds the requests `rs` one after another and ends after the last: each
is what the server's reader reads where the one before it stopped. -/
inductive Reads : Bytes → List Request → Prop
  | nil : Reads [] []
  | cons {input rest : Bytes} {r : Request} {rs : List Request} :
      (Request.read (input.length + 1)).run input = .ok (r, rest) → Reads rest rs →
      Reads input (r :: rs)

theorem Request.read_run_nil (fuel : Nat) : (Request.read fuel).run [] = .error .ended := by
  rw [Request.read, StateT.run_bind, Msgpack.code_run_nil]
  rfl

/-- With a turn for every byte left, the server answers every request of the stream and stops
quietly at its end. -/
theorem serve_go_of_reads {input : Bytes} {rs : List Request} (h : Reads input rs) :
    ∀ (s : Session) {fuel : Nat}, input.length < fuel →
      Session.serve.go fuel s input = (s.answerAll rs, none) := by
  induction h with
  | nil =>
    intro s fuel hf
    obtain ⟨f, rfl⟩ : ∃ f, fuel = f + 1 := ⟨fuel - 1, by simp at hf; omega⟩
    rw [Session.serve.go, Request.read_run_nil]
    rfl
  | @cons input rest r rs hread _ ih =>
    intro s fuel hf
    obtain ⟨f, rfl⟩ : ∃ f, fuel = f + 1 := ⟨fuel - 1, by omega⟩
    -- the request takes a byte, so one turn fewer is enough for the rest
    have hless := Request.takes_read (input.length + 1) input r rest hread
    rw [Session.serve.go, hread]
    simp only [Session.answerAll, ih (s.handle r).1 (show rest.length < f by omega)]

theorem serve_of_reads {input : Bytes} {rs : List Request} (h : Reads input rs) (s : Session) :
    s.serve input = (s.answerAll rs, none) :=
  serve_go_of_reads h s (Nat.lt_succ_self _)

/-- A server with settings `cfg` and id source `ids` given a stream of requests that ends after
the last one answers each request once, in order, and stops without a fault. Before the `i`-th
request it is in the session the exchanges before it leave: its served counters count only the
matches it served, so a refused request, a stats request and an unknown action change neither.
Each reply carries the request's id, or the source's next id; a match request past a limit or
with a pattern that does not compile gets an error with code 400, and any other gets the
outcome of a fresh selector built from the settings and the request alone; a stats request gets
the statistics of the last served match and how many were served; an unknown action gets an
error with code 400. -/
theorem serve_answers_each (ids : Nat → Bytes) (cfg : Settings) {input : Bytes}
    {rs : List Request} (h : Reads input rs) :
    ∃ replies : List Reply,
      ({ settings := cfg, ids := ids } : Session).serve input = (replies, none) ∧
      replies.length = rs.length ∧
      ∀ i (hi : i < rs.length) (hr : i < replies.length),
        (sessionAfter ids cfg ((rs.zip replies).take i)).handle rs[i] =
            (sessionAfter ids cfg ((rs.zip replies).take (i + 1)), replies[i]) ∧
          Answers ids cfg ((rs.zip replies).take i) rs[i] replies[i] := by
  obtain ⟨hlen, heach⟩ := answerAll_sessionAfter ids cfg rs []
  rw [sessionAfter_nil] at hlen heach
  exact ⟨_, serve_of_reads h _, hlen, fun i hi hr => by simpa using heach i hi hr⟩

/-- A stream of two requests under the default settings, with ids numbered in decimal: a match
of `c.t` over the word `cat`, written as a map of its fields `w` and `p`, then a stats
request. -/
theorem serve_answers_each_cat_stats :
    let input : Bytes := [0x82, 0xa1, 0x77, 0x91, 0xa3, 0x63, 0x61, 0x74, 0xa1, 0x70, 0xa3, 0x63,
      0x2e, 0x74, 0x81, 0xa6, 0x61, 0x63, 0x74, 0x69, 0x6f, 0x6e, 0xa5, 0x73, 0x74, 0x61, 0x74, 0x73]
    let rs : List Request := [{ words := [[0x63, 0x61, 0x74]], pattern := [0x63, 0x2e, 0x74] },
      { action := Bytes.ofString "stats" }]
    let ids : Nat → Bytes := fun k => Bytes.ofString (toString k)
    Reads input rs ∧
    ∃ replies : List Reply,
      ({ settings := {}, ids := ids } : Session).serve input = (replies, none) ∧
      replies.length = rs.length ∧
      ∀ i (hi : i < rs.length) (hr : i < replies.length),
        (sessionAfter ids {} ((rs.zip replies).take i)).handle rs[i] =
            (sessionAfter ids {} ((rs.zip replies).take (i + 1)), replies[i]) ∧
          Answers ids {} ((rs.zip replies).take i) rs[i] replies[i] := by
  intro input rs ids
  have h : Reads input rs :=
    @Reads.cons _ [0x81, 0xa6, 0x61, 0x63, 0x74, 0x69, 0x6f, 0x6e, 0xa5, 0x73, 0x74, 0x61, 0x74, 0x73]
      _ _ (by decide +kernel) (@Reads.cons _ [] _ _ (by decide +kernel) .nil)
  exact ⟨h, serve_answers_each ids {} h⟩

/-! ### Fresh ids -/

/-- An exchange of a request without an id takes one more id from the source, so any later
point of the exchanges has taken more than the point before it. -/
theorem issuedCount_take_lt {hist : List (Request × Reply)} {i j : Nat} {e : Request × Reply}
    (hij : i < j) (he : hist[i]? = some e) (hid : e.1.id = []) :
    issuedCount (hist.take i) < issuedCount (hist.take j) := by
  have hstep : issuedCount (hist.take (i + 1)) = issuedCount (hist.take i) + 1 := by
    rw [List.take_add_one, he]
    simp [issuedCount, hid]
  have hmono : issuedCount (hist.take (i + 1)) ≤ issuedCount (hist.take j) :=
    (List.take_sublist_take_left hij).countP_le
  omega

/-- The server never takes two ids from the same position of its source, so with a source
without repeats its ids are new: of two requests of a stream that come without an id, the later
one gets a reply whose id the earlier one's reply does not carry. -/
theorem serve_fresh_ids_distinct (ids : Nat → Bytes) (hids : Function.Injective ids)
    (cfg : Settings) {input : Bytes} {rs : List Request} (h : Reads input rs) :
    ∃ replies : List Reply,
      ({ settings := cfg, ids := ids } : Session).serve input = (replies, none) ∧
      replies.length = rs.length ∧
      ∀ i j (hij : i < j) (hj : j < rs.length) (hr : j < replies.length),
        rs[i].id = [] → rs[j].id = [] → replies[i].id ≠ replies[j].id := by
  obtain ⟨hlen, heach⟩ := answerAll_sessionAfter ids cfg rs []
  rw [sessionAfter_nil] at hlen heach
  refine ⟨_, serve_of_reads h _, hlen, ?_⟩
  generalize (({ settings := cfg, ids := ids } : Session).answerAll rs) = replies at hlen heach ⊢
  intro i j hij hj hr hi hj'
  have hai := (heach i (by omega) (by omega)).2.id_eq
  have haj := (heach j hj hr).2.id_eq
  simp only [List.nil_append, hi, hj', if_true] at hai haj
  rw [hai, haj]
  -- the later request finds more ids taken than the earlier one did
  have hzip : (rs.zip replies)[i]? = some (rs[i], replies[i]) :=
    List.getElem?_zip_eq_some.mpr ⟨List.getElem?_eq_getElem _, List.getElem?_eq_getElem _⟩
  exact fun he => Nat.ne_of_lt (issuedCount_take_lt hij hzip hi) (hids he)

end WordSift.Server
