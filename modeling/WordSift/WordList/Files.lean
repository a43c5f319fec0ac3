import WordSift.WordList.Reading
import WordSift.Files.System

/-!
# Word lists in files

A word list is loaded from a file: a file that cannot be opened is unavailable, and any fault
met while reading it is reported with the file's path. A result is written to a file, which is
created or emptied first.
-/

namespace WordSift

open Files FileSystem

/-- Why a word list cannot be loaded from a file. -/
inductive LoadError where
  /-- The file cannot be opened. -/
  | unavailable (cause : Bytes)
  /-- Reading the opened file failed. -/
  | unreadable (path : Bytes) (cause : ReadError)
deriving DecidableEq, Repr

/-- The message of a load fault. -/
def LoadError.message : LoadError → Bytes
  | .unavailable c => Bytes.ofString "input unavailable: " ++ c
  | .unreadable p e => Bytes.ofString "failed to parse " ++ p ++ Bytes.ofString ": " ++ e.message

variable {m : Type → Type} [Monad m] [FileSystem m]

/-- Loads a word list from a file. -/
def WordList.load (path : Bytes) : m (Except LoadError WordList) := do
  let feed : Except LoadError Text.Feed := match ← readFile path with
    | .ok text => .ok ⟨text, none⟩
    | .error e => if e.op == "open" then .error (.unavailable e.message) else .ok ⟨[], some e.message⟩
  return feed.bind fun f => (WordList.read f).mapError (.unreadable path)

/-- Writes a result text to a file. -/
def writeResult (path text : Bytes) : m (Except Bytes Unit) := do
  return (← writeFile path text).mapError fun e => Bytes.ofString "output unavailable: " ++ e.message

end WordSift
