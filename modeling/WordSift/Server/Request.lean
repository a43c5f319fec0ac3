import WordSift.Msgpack.Read

/-!
# Requests to the server

A request names an action (matching when none is named), a word list, a pattern and how many
matched words to compare (zero for the configured number). It is read from a MessagePack map
whose keys name its fields (`id`, `action`, `w`, `p`, `m`), unknown keys being passed over and
a repeated key overriding the earlier one; nil reads as the empty request. An array of exactly
the five fields in that order is read too, and an empty array is the empty request. Within a
field nil reads as empty or zero, and a nil word list leaves the list as it was.
-/

namespace WordSift.Server

open Msgpack

/-- A request. -/
structure Request where
  id : Bytes := []
  action : Bytes := []
  words : List Bytes := []
  pattern : Bytes := []
  compare : Int := 0
deriving DecidableEq, Repr

/-- Reads `n` strings. -/
def texts : Nat → Reader (List Bytes)
  | 0 => return []
  | n + 1 => do
    let t ← text
    return t :: (← texts n)

/-- Reads a word list into a request; nil leaves it as it was. -/
def wordsInto (r : Request) : Reader Request := do
  match ← arrayLength (← code) with
  | none => return r
  | some n => return { r with words := ← texts n }

/-- Reads the value of the field `name` into a request, passing over unknown fields. -/
def fieldInto (fuel : Nat) (r : Request) (name : Bytes) : Reader Request := do
  if name == Bytes.ofString "id" then return { r with id := ← text }
  else if name == Bytes.ofString "action" then return { r with action := ← text }
  else if name == Bytes.ofString "w" then wordsInto r
  else if name == Bytes.ofString "p" then return { r with pattern := ← text }
  else if name == Bytes.ofString "m" then return { r with compare := ← int }
  else do skip fuel; return r

/-- Reads `n` entries of a request map. -/
def entriesInto (fuel : Nat) : Nat → Request → Reader Request
  | 0, r => return r
  | n + 1, r => do
    let name ← text
    entriesInto fuel n (← fieldInto fuel r name)

/-- Reads a request written as an array of its five fields. -/
def ofFields : Reader Request := do
  let id ← text
  let action ← text
  let r ← wordsInto { id, action }
  let pattern ← text
  let compare ← int
  return { r with pattern, compare }

/-- Reads one request; `fuel` bounds the depth of values passed over. -/
def Request.read (fuel : Nat) : Reader Request := do
  let c ← code
  tryCatch
    (do
      match ← mapLength c with
      | none => return {}
      | some n => entriesInto fuel n {})
    (fun e => do
      let n ← tryCatch (arrayLength c) (fun _ => throw e)
      match n with
      | none | some 0 => return {}
      | some 5 => ofFields
      | some _ => throw .arrayRecord)

end WordSift.Server
