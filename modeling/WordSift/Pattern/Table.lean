import WordSift.Bytes

/-!
# The matching table of a word against a pattern

A pattern is a byte string in which `.` stands for any byte and `*` repeats the byte before it
zero or more times; every other byte stands for itself. Entry `(i, j)` of the table says
whether the first `i` bytes of the word match the first `j` bytes of the pattern. Row 0 is
seeded on its own (`firstRow`): the empty word matches the empty pattern, and a `*` at
column `j ≥ 2` copies entry `j - 2`. Each later row is computed from the row above and the
next byte of the word (`nextRow`), column by column, trying three cases in order:

1. the pattern byte equals the word byte, or is `.`: copy the entry diagonally above;
2. otherwise, the pattern byte is `*` at column `j ≥ 2`: take entry `j - 2` of this row, or,
   when the repeated byte equals the word byte or is `.`, the entry above;
3. otherwise the entry is false.

Because the literal case comes first, a `*` in the word is matched by a `*` in the pattern as
an ordinary byte. `table` keeps every row, each built afresh, an entry no case sets being
`false`.

`accepts` keeps only two buffers of `p.size + 1` entries: the row above and the one being
written. Each new row is written over the older buffer (at first a fresh one of `false`), entry
`0` reset and then entries `1 … p.size` in order, every case writing, the last one `false`; then
the two buffers swap.
-/

namespace WordSift.Pattern

/-- The byte `.`, which matches any byte. -/
def wildcard : UInt8 := 46

/-- The byte `*`, which repeats the byte before it. -/
def star : UInt8 := 42

/-- A pattern byte at index `k` covers the word byte `c`. -/
def covers (p : Array UInt8) (k : Nat) (c : UInt8) : Bool :=
  match p[k]? with
  | some t => t == c || t == wildcard
  | none => false

/-- The pattern byte at index `k` is `*`. -/
def isStarAt (p : Array UInt8) (k : Nat) : Bool := p[k]? == some star

/-- Entry `k + 1` of row 0, given entries `0 … k` in `row`. -/
def firstEntry (p : Array UInt8) (row : Array Bool) (k : Nat) : Bool :=
  decide (1 ≤ k) && isStarAt p k && row.getD (k - 1) false

/-- Row 0: the empty word against every prefix of the pattern. -/
def firstRow (p : Array UInt8) : Array Bool :=
  (List.range p.size).foldl (fun row k => row.push (firstEntry p row k)) #[true]

/-- Entry `k + 1` of the row for word byte `c`, given the row above and entries `0 … k` of
this row in `row`. -/
def nextEntry (p : Array UInt8) (above : Array Bool) (c : UInt8) (row : Array Bool) (k : Nat) :
    Bool :=
  if covers p k c then above.getD k false
  else if isStarAt p k && decide (1 ≤ k) then
    row.getD (k - 1) false || (covers p (k - 1) c && above.getD (k + 1) false)
  else false

/-- The row for word byte `c`, computed from the row above. -/
def nextRow (p : Array UInt8) (above : Array Bool) (c : UInt8) : Array Bool :=
  (List.range p.size).foldl (fun row k => row.push (nextEntry p above c row k)) #[false]

/-- All rows of the table, row 0 first. -/
def table (w pat : Bytes) : List (Array Bool) :=
  let p := pat.toArray
  w.scanl (nextRow p) (firstRow p)

/-- The last row of the table. -/
def lastRow (w pat : Bytes) : Array Bool :=
  let p := pat.toArray
  w.foldl (nextRow p) (firstRow p)

/-- Writes entry `k + 1` of the row for word byte `c` into the buffer `cur`, whose entries
`0 … k` already belong to this row, reading the row above from `prev`. A `*` first copies the
entry two columns back and then adds the entry above when the repeated byte covers `c`. -/
def writeEntry (p : Array UInt8) (prev : Array Bool) (c : UInt8) (cur : Array Bool) (k : Nat) :
    Array Bool :=
  if covers p k c then cur.setIfInBounds (k + 1) (prev.getD k false)
  else if isStarAt p k && decide (1 ≤ k) then
    let cur := cur.setIfInBounds (k + 1) (cur.getD (k - 1) false)
    if covers p (k - 1) c then
      cur.setIfInBounds (k + 1) (cur.getD (k + 1) false || prev.getD (k + 1) false)
    else cur
  else cur.setIfInBounds (k + 1) false

/-- The row for word byte `c`, below `prev`, written over the buffer `cur`. -/
def overwriteRow (p : Array UInt8) (prev : Array Bool) (c : UInt8) (cur : Array Bool) :
    Array Bool :=
  (List.range p.size).foldl (writeEntry p prev c) (cur.setIfInBounds 0 false)

/-- One word byte: its row is written over the older buffer, and the buffers swap, so the new
row comes first. -/
def matchStep (p : Array UInt8) (rows : Array Bool × Array Bool) (c : UInt8) :
    Array Bool × Array Bool :=
  (overwriteRow p rows.1 c rows.2, rows.1)

/-- The two buffers after reading the word `w`: the last row first. -/
def matchRows (w pat : Bytes) : Array Bool × Array Bool :=
  let p := pat.toArray
  w.foldl (matchStep p) (firstRow p, Array.replicate (p.size + 1) false)

/-- The whole word matches the whole pattern: the last entry of the last row. -/
def accepts (w pat : Bytes) : Bool := (matchRows w pat).1.getD pat.length false

/-- A row written as `1` for true and `0` for false. -/
def rowText (row : Array Bool) : String :=
  String.ofList (row.toList.map fun b => if b then '1' else '0')

theorem lastRow_eq_getLast_table (w pat : Bytes) :
    (table w pat).getLast? = some (lastRow w pat) := by
  simp [table, lastRow, List.getLast?_scanl]

end WordSift.Pattern
