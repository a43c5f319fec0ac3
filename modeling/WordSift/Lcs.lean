import WordSift.Bytes

/-!
# Longest common subsequences of two and three words

Entry `(i, j)` of the table of `a` and `b` is the length of a longest common subsequence of the
first `i` bytes of `a` and the first `j` bytes of `b`: one more than the entry diagonally above
when the bytes `a[i-1]` and `b[j-1]` agree, else the larger of the entries above and to the
left. The table of three words has the same shape one dimension up.

A subsequence is read off by walking back from the last entry. On agreeing bytes the byte is
kept and the walk steps back in all words. Otherwise, for two words, it steps back in `a` only
when the entry above is strictly larger than the one to the left, else in `b`; for three words
it steps back in `a` only when that neighbour is strictly larger than both others, else in `b`
when its neighbour beats the one in `c`, else in `c`.

`ofFirst` compares the first one, two or three words of a list.
-/

namespace WordSift.Lcs

/-- The most words `ofFirst` compares. -/
def maxWords : Nat := 3

/-- Entry `k + 1` of a row of the table of two words, for the byte `x` of the first word. -/
def entry2 (b : Array UInt8) (above : Array Nat) (x : UInt8) (row : Array Nat) (k : Nat) : Nat :=
  if b[k]? == some x then above.getD k 0 + 1
  else max (above.getD (k + 1) 0) (row.getD k 0)

/-- The row for byte `x` of the first word, from the row above. -/
def nextRow2 (b : Array UInt8) (above : Array Nat) (x : UInt8) : Array Nat :=
  (List.range b.size).foldl (fun row k => row.push (entry2 b above x row k)) #[0]

/-- The rows of the table of `a` and `b`, row 0 first. -/
def table2 (a b : Bytes) : Array (Array Nat) :=
  let bs := b.toArray
  (a.scanl (nextRow2 bs) (Array.replicate (bs.size + 1) 0)).toArray

/-- An entry of a table of two words. -/
def at2 (t : Array (Array Nat)) (i j : Nat) : Nat := (t.getD i #[]).getD j 0

/-- The length of a longest common subsequence of two words. -/
def length2 (a b : Bytes) : Nat := at2 (table2 a b) a.length b.length

/-- Walks the table of two words back from entry `(i, j)`, putting kept bytes before `acc`. -/
def back2 (t : Array (Array Nat)) (a b : Array UInt8) (i j : Nat) (acc : Bytes) : Bytes :=
  match i, j with
  | i + 1, j + 1 =>
    if a[i]? == b[j]? then back2 t a b i j (a.getD i 0 :: acc)
    else if at2 t i (j + 1) > at2 t (i + 1) j then back2 t a b i (j + 1) acc
    else back2 t a b (i + 1) j acc
  | _, _ => acc
termination_by i + j

/-- A longest common subsequence of two words. -/
def lcs2 (a b : Bytes) : Bytes :=
  back2 (table2 a b) a.toArray b.toArray a.length b.length []

/-- Entry `k + 1` of row `j + 1` of a plane of the table of three words, for the byte `x` of
the first word; `above` is the plane above and `left` row `j` of this plane. -/
def entry3 (b w : Array UInt8) (above : Array (Array Nat)) (x : UInt8) (j : Nat)
    (left row : Array Nat) (k : Nat) : Nat :=
  if b[j]? == some x && w[k]? == some x then (above.getD j #[]).getD k 0 + 1
  else max (max ((above.getD (j + 1) #[]).getD (k + 1) 0) (left.getD (k + 1) 0)) (row.getD k 0)

/-- Row `j + 1` of a plane, from the plane above and row `j` of this plane. -/
def nextLine3 (b w : Array UInt8) (above : Array (Array Nat)) (x : UInt8) (j : Nat)
    (left : Array Nat) : Array Nat :=
  (List.range w.size).foldl (fun row k => row.push (entry3 b w above x j left row k)) #[0]

/-- The plane for byte `x` of the first word, from the plane above. -/
def nextPlane3 (b w : Array UInt8) (above : Array (Array Nat)) (x : UInt8) : Array (Array Nat) :=
  (List.range b.size).foldl
    (fun pl j => pl.push (nextLine3 b w above x j (pl.getD j #[]))) #[Array.replicate (w.size + 1) 0]

/-- The planes of the table of `a`, `b` and `w`, plane 0 first. -/
def table3 (a b w : Bytes) : Array (Array (Array Nat)) :=
  let bs := b.toArray
  let cs := w.toArray
  (a.scanl (nextPlane3 bs cs)
    (Array.replicate (bs.size + 1) (Array.replicate (cs.size + 1) 0))).toArray

/-- An entry of a table of three words. -/
def at3 (t : Array (Array (Array Nat))) (i j k : Nat) : Nat :=
  ((t.getD i #[]).getD j #[]).getD k 0

/-- The length of a longest common subsequence of three words. -/
def length3 (a b w : Bytes) : Nat := at3 (table3 a b w) a.length b.length w.length

/-- Walks the table of three words back from entry `(i, j, k)`. -/
def back3 (t : Array (Array (Array Nat))) (a b w : Array UInt8) (i j k : Nat) (acc : Bytes) :
    Bytes :=
  match i, j, k with
  | i + 1, j + 1, k + 1 =>
    if a[i]? == b[j]? && b[j]? == w[k]? then back3 t a b w i j k (a.getD i 0 :: acc)
    else
      let di := at3 t i (j + 1) (k + 1)
      let dj := at3 t (i + 1) j (k + 1)
      let dk := at3 t (i + 1) (j + 1) k
      if di > dj && di > dk then back3 t a b w i (j + 1) (k + 1) acc
      else if dj > dk then back3 t a b w (i + 1) j (k + 1) acc
      else back3 t a b w (i + 1) (j + 1) k acc
  | _, _, _ => acc
termination_by i + j + k

/-- A longest common subsequence of three words. -/
def lcs3 (a b c : Bytes) : Bytes :=
  back3 (table3 a b c) a.toArray b.toArray c.toArray a.length b.length c.length []

/-- How many words are compared for a requested limit: the limit itself from 1 to 3, else 3. -/
def clampLimit (limit : Int) : Nat :=
  if 1 ≤ limit ∧ limit ≤ maxWords then limit.toNat else maxWords

/-- A longest common subsequence of the first words of a list: none gives the empty word and a
single word is its own. -/
def ofFirst (words : List Bytes) (limit : Int) : Bytes :=
  match words.take (clampLimit limit) with
  | [] => []
  | [w] => w
  | [a, b] => lcs2 a b
  | a :: b :: c :: _ => lcs3 a b c

end WordSift.Lcs
