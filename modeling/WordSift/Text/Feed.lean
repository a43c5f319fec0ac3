import WordSift.Bytes

/-!
# Reading a byte stream line by line

A feed is the bytes a reader delivers, followed either by the end of the input or by a read
failure with its message. Reading a line takes the bytes up to and including the next line feed
and gives them without the line feed and then without one carriage return. The bytes after the
last line feed make one more, final line when the input ends there and they are not empty; when
the reader fails instead, that read (and every later one) fails, so a last line without a line
feed is lost. Once the input has ended every further read finds nothing.

`Feed.read k` is the `k`-th read (from 0) that a program makes on the feed.
-/

namespace WordSift.Text

/-- The outcome of one read of a line. -/
inductive Read where
  /-- A line, without its line feed and one carriage return. -/
  | line (text : Bytes)
  /-- The input has ended. -/
  | done
  /-- The reader failed with this message. -/
  | broken (cause : Bytes)
deriving DecidableEq, Repr

/-- The bytes a reader delivers, then the end of the input or a failure. -/
structure Feed where
  bytes : Bytes
  /-- The message of the failure that follows the bytes; `none` when the input just ends. -/
  failure : Option Bytes := none
deriving DecidableEq, Repr

/-- The line feed byte. -/
def lineFeed : UInt8 := 10

/-- Drops one trailing carriage return. -/
def dropReturn (s : Bytes) : Bytes :=
  if s.getLast? = some 13 then s.dropLast else s

/-- The segments of a byte string before each line feed, and the bytes after the last one. -/
def splitLines : Bytes → List Bytes × Bytes
  | [] => ([], [])
  | b :: rest =>
    let (ls, tail) := splitLines rest
    if b == lineFeed then ([] :: ls, tail)
    else match ls with
      | [] => ([], b :: tail)
      | l :: more => ((b :: l) :: more, tail)

namespace Feed

/-- The lines that end with a line feed, as they are delivered. -/
def lines (f : Feed) : List Bytes := (splitLines f.bytes).1

/-- The bytes after the last line feed. -/
def tail (f : Feed) : Bytes := (splitLines f.bytes).2

/-- What a read finds once every line feed has been consumed. -/
def final (f : Feed) : Read :=
  match f.failure with
  | some e => .broken e
  | none => if f.tail.isEmpty then .done else .line (dropReturn f.tail)

/-- What every read after the final one finds. -/
def after (f : Feed) : Read :=
  match f.failure with
  | some e => .broken e
  | none => .done

/-- The reads a program makes on the feed, up to the final one. -/
def reads (f : Feed) : List Read := f.lines.map (Read.line ∘ dropReturn) ++ [f.final]

/-- The `k`-th read. -/
def read (f : Feed) (k : Nat) : Read := f.reads.getD k f.after

end Feed

end WordSift.Text
