import WordSift.Server.Request
import WordSift.Server.Reply
import WordSift.Settings.Basic
import WordSift.WordList.Basic

/-!
# A server session

The server reads requests one after another and answers each with a fresh selector. A match
request is refused when it has more words than allowed, when one of its words (numbered from 1)
is longer than allowed, or when its pattern is; otherwise its words are normalized, the
pattern is compiled (a syntax error is refused) and the outcome is replied. Only a served
match counts, and its word list's statistics are what a stats request reports. A request
without an id is given the next id of the session's id source, which the program that runs
the session supplies.

The session stops quietly where the input ends between requests (or at a code byte inside
one); a request that cannot be read is answered by a malformed-request error and stops the
session with that fault.
-/

namespace WordSift.Server

/-- A server session: its settings, its id source, the matches served, the statistics of the
last one and how many ids it has taken from the source. -/
structure Session where
  settings : Settings
  /-- The `k`-th id the session gives to a request that comes without one. -/
  ids : Nat → Bytes
  served : Nat := 0
  last : Index.Stats := ⟨0, 0, 0, 0⟩
  issued : Nat := 0

namespace Session

/-- Answers a match request with the given id. -/
def serveMatch (s : Session) (id : Bytes) (r : Request) : Session × Reply :=
  let lim := s.settings.server
  let refuse := fun (m : String) => (s, Reply.failure id (Bytes.ofString m) 400)
  if (r.words.length : Int) > lim.maxWords then
    refuse ("too many words: " ++ toString r.words.length ++ " exceeds " ++ toString lim.maxWords)
  else match r.words.findIdx? fun w => (w.length : Int) > lim.maxWordLen with
  | some i => refuse ("word " ++ toString (i + 1) ++ " exceeds maximum length of " ++
      toString lim.maxWordLen)
  | none =>
    if (r.pattern.length : Int) > lim.maxPatternLen then
      refuse ("pattern exceeds maximum length of " ++ toString lim.maxPatternLen)
    else
      let compare := if r.compare > 0 then r.compare else s.settings.matching.compare
      let l := WordList.ofLines r.words r.pattern
      let sel := (Selector.new compare s.settings.matching.prune s.settings.matching.fold).load
        l.words |>.1
      match sel.select r.pattern with
      | .error e => (s, .failure id (Bytes.ofString e.message) 400)
      | .ok o => ({ s with served := s.served + 1, last := l.index.stats }, .matched id o)

/-- Answers one request. -/
def handle (s : Session) (r : Request) : Session × Reply :=
  let (s, id) := if r.id.isEmpty then ({ s with issued := s.issued + 1 }, s.ids s.issued)
    else (s, r.id)
  if r.action.isEmpty || r.action == Bytes.ofString "match" then s.serveMatch id r
  else if r.action == Bytes.ofString "stats" then (s, .stats id s.last s.served)
  else (s, .failure id (Bytes.ofString "unknown action: " ++ r.action) 400)

/-- The reply to a request that cannot be read. -/
def malformed : Reply := .failure [] (Bytes.ofString "malformed request") 400

/-- Serves the requests of an input: the replies, and the fault that stopped the session when
it did not stop quietly. -/
def serve (s : Session) (input : Bytes) : List Reply × Option String :=
  let rec go : Nat → Session → Bytes → List Reply × Option String
    | 0, _, _ => ([], none)
    | fuel + 1, s, rest =>
      match (Request.read (rest.length + 1)).run rest with
      | .ok (r, rest') =>
        let (s', reply) := s.handle r
        let (replies, e) := go fuel s' rest'
        (reply :: replies, e)
      | .error .ended => ([], none)
      | .error f => ([malformed], some ("failed to decode request: " ++ f.message))
  go (input.length + 1) s input

end Session

end WordSift.Server
