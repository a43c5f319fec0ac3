import WordSift.Selector
import WordSift.WordList.Index
import WordSift.Msgpack.Write

/-!
# Replies of the server

A reply carries the request's id and either the outcome of a match (the matched words, their
longest common subsequence, the output text, the status and the time taken), the statistics
of the last word list matched with the number of matches served, or an error message with its
code. Each is written as a MessagePack map with its fields in that order; the time is written
as a 64-bit integer and the other numbers in the fewest bytes.
-/

namespace WordSift.Server

/-- A reply. -/
inductive Reply where
  | matched (id : Bytes) (outcome : Outcome)
  | stats (id : Bytes) (stats : Index.Stats) (served : Nat)
  | failure (id : Bytes) (message : Bytes) (code : Nat)
deriving Repr

/-- Statistics as a map. -/
def statsRecord (st : Index.Stats) : Bytes :=
  Msgpack.record [("total", Msgpack.compactInt st.total), ("unique", Msgpack.compactInt st.unique),
    ("duplicates", Msgpack.compactInt st.duplicates), ("rejected", Msgpack.compactInt st.rejected)]

/-- A reply as MessagePack; matching takes no measurable time here. -/
def Reply.encode : Reply → Bytes
  | .matched id o => Msgpack.record [("id", Msgpack.str id),
      ("s", Msgpack.array (o.matched.map Msgpack.str)), ("l", Msgpack.str o.lcs),
      ("o", Msgpack.str o.output), ("st", Msgpack.str (Bytes.ofString o.status.name)),
      ("t", Msgpack.int64 0)]
  | .stats id st n => Msgpack.record [("id", Msgpack.str id), ("stats", statsRecord st),
      ("requests", Msgpack.compactInt n)]
  | .failure id m c => Msgpack.record [("id", Msgpack.str id), ("e", Msgpack.str m),
      ("c", Msgpack.compactInt c)]

end WordSift.Server
