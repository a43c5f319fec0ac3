import WordSift.Bytes
import Mathlib

/-!
# Rows built entry by entry

The tables of this library are filled one row at a time, and a row one entry at a time: entry
`k` is computed from the entries already pushed and appended. When an entry only reads entries
before it, the finished row satisfies the same equation, so a table's recurrence can be stated
on finished rows alone (`getElem?_pushRow`).

A row may also be written over a buffer that still holds an older row (`writeRow`). Entry `k` is
then computed from the buffer, whose entries past the ones written so far are stale; when `f`
reads only the entries before it, none of them is ever read, and the buffer ends as the pushed
row (`writeRow_eq_pushRow`).
-/

namespace WordSift.Rows

variable {α : Type} (f : Array α → Nat → α) (init : Array α)

/-- The row `init` extended by entries `0 … n - 1` of `f`, each computed from the row so far. -/
def pushRow (n : Nat) : Array α := (List.range n).foldl (fun row k => row.push (f row k)) init

theorem pushRow_succ (n : Nat) :
    pushRow f init (n + 1) = (pushRow f init n).push (f (pushRow f init n) n) := by
  simp [pushRow, List.range_succ, List.foldl_append]

@[simp] theorem size_pushRow (n : Nat) : (pushRow f init n).size = init.size + n := by
  induction n with
  | zero => rfl
  | succ n ih => rw [pushRow_succ, Array.size_push, ih, Nat.add_assoc]

/-- Pushing more entries keeps the ones already there. -/
theorem getElem?_pushRow_of_lt {m n i : Nat} (hmn : m ≤ n) (hi : i < init.size + m) :
    (pushRow f init n)[i]? = (pushRow f init m)[i]? := by
  induction n with
  | zero => rw [Nat.le_zero.1 hmn]
  | succ n ih =>
    rcases Nat.lt_or_ge n m with hlt | hle
    · rw [show m = n + 1 by omega]
    · rw [pushRow_succ, Array.getElem?_push, if_neg (by simp; omega), ih hle]

theorem getElem?_pushRow_init (n : Nat) {i : Nat} (hi : i < init.size) :
    (pushRow f init n)[i]? = init[i]? :=
  getElem?_pushRow_of_lt f init (Nat.zero_le n) (by simpa using hi)

/-- The buffer `buf` with entries `init.size … init.size + n - 1` written in turn by `f`, each
computed from the buffer so far. -/
def writeRow (buf : Array α) (n : Nat) : Array α :=
  (List.range n).foldl (fun row k => row.setIfInBounds (init.size + k) (f row k)) buf

theorem writeRow_succ (buf : Array α) (n : Nat) :
    writeRow f init buf (n + 1) =
      (writeRow f init buf n).setIfInBounds (init.size + n) (f (writeRow f init buf n) n) := by
  simp [writeRow, List.range_succ, List.foldl_append]

@[simp] theorem size_writeRow (buf : Array α) (n : Nat) : (writeRow f init buf n).size = buf.size := by
  induction n with
  | zero => rfl
  | succ n ih => rw [writeRow_succ, Array.size_setIfInBounds, ih]

variable {f init}

/-- Entry `k` of a finished row is `f` of the finished row itself, when `f` reads only the
entries before it. -/
theorem getElem?_pushRow {n k : Nat}
    (reads : ∀ row row' : Array α, (∀ i < init.size + k, row[i]? = row'[i]?) →
      f row k = f row' k)
    (hk : k < n) : (pushRow f init n)[init.size + k]? = some (f (pushRow f init n) k) := by
  have agree : ∀ i < init.size + k, (pushRow f init k)[i]? = (pushRow f init n)[i]? :=
    fun i hi => (getElem?_pushRow_of_lt f init (by omega) hi).symm
  rw [getElem?_pushRow_of_lt f init (Nat.succ_le_of_lt hk) (by omega), pushRow_succ,
    Array.getElem?_push, if_pos (by simp), reads _ _ agree]

section Overwrite

variable {buf : Array α} {n : Nat}
  (reads : ∀ k < n, ∀ row row' : Array α, (∀ i < init.size + k, row[i]? = row'[i]?) →
    f row k = f row' k)
  (hinit : ∀ i < init.size, buf[i]? = init[i]?)
include reads hinit

/-- On the entries written so far, a buffer written over agrees with the pushed row. -/
theorem getElem?_writeRow (hbuf : init.size + n ≤ buf.size) :
    ∀ i < init.size + n, (writeRow f init buf n)[i]? = (pushRow f init n)[i]? := by
  induction n with
  | zero => simpa [writeRow, pushRow] using hinit
  | succ n ih =>
    have agree := ih (fun k hk => reads k (by omega)) (by omega)
    -- the new entry reads only entries already written, where the two rows agree
    have hval : f (writeRow f init buf n) n = f (pushRow f init n) n :=
      reads n (by omega) _ _ agree
    intro i hi
    rw [writeRow_succ, pushRow_succ, Array.getElem?_setIfInBounds, Array.getElem?_push, hval]
    by_cases hin : i = init.size + n
    · rw [if_pos hin.symm, if_pos (by rw [size_writeRow]; omega), if_pos (by simp [hin])]
    · rw [if_neg (Ne.symm hin), if_neg (by simp; omega), agree i (by omega)]

/-- A buffer of the row's size, written over entry by entry, ends as the pushed row, whatever it
held past `init`. -/
theorem writeRow_eq_pushRow (hbuf : buf.size = init.size + n) :
    writeRow f init buf n = pushRow f init n := by
  apply Array.ext_getElem?
  intro i
  rcases Nat.lt_or_ge i (init.size + n) with hi | hi
  · exact getElem?_writeRow reads hinit (by omega) i hi
  · rw [Array.getElem?_eq_none (by rw [size_writeRow]; omega),
      Array.getElem?_eq_none (by rw [size_pushRow]; omega)]

end Overwrite

end WordSift.Rows
