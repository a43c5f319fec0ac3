/-!
# Byte strings

Words, patterns and texts are handled as byte strings: every comparison, length and cut in
this library is by bytes, never by characters. This file fixes the type and the few ASCII
notions the rest of the library shares: the letters `a` to `z`, lowering `A` to `Z`, and
lowercase hexadecimal digits.
-/

namespace WordSift

/-- A byte string. -/
abbrev Bytes := List UInt8

namespace Bytes

/-- The UTF-8 bytes of a string. -/
def ofString (s : String) : Bytes := s.toUTF8.toList

/-- A byte is one of the letters `a` to `z`. -/
def isLetter (b : UInt8) : Bool := decide (97 ≤ b.toNat) && decide (b.toNat ≤ 122)

/-- A byte is one of the capitals `A` to `Z`. -/
def isCapital (b : UInt8) : Bool := decide (65 ≤ b.toNat) && decide (b.toNat ≤ 90)

/-- Lowers a capital `A` to `Z`; every other byte is kept. -/
def lowerByte (b : UInt8) : UInt8 := if isCapital b then b + 32 else b

/-- Lowers the ASCII capitals of a byte string and keeps every other byte. -/
def lowerAscii (s : Bytes) : Bytes := s.map lowerByte

/-- A word: not empty and made of the letters `a` to `z` only. -/
def isWord (s : Bytes) : Bool := !s.isEmpty && s.all isLetter

/-- The lowercase hexadecimal digit of a value below 16. -/
def hexDigit (n : Nat) : Char :=
  if n < 10 then Char.ofNat (48 + n) else Char.ofNat (87 + n)

/-- `n` in lowercase hexadecimal with at least `width` digits. -/
def hexPadded (width n : Nat) : String :=
  let ds := (Nat.toDigits 16 n).map fun d => hexDigit (d.toNat - if d.isDigit then 48 else 87)
  String.ofList (List.replicate (width - ds.length) '0' ++ ds)

/-- The bytes in lowercase hexadecimal, two digits each. -/
def toHex (s : Bytes) : String := String.join (s.map fun b => hexPadded 2 b.toNat)

/-- Shortens a byte string to at most `n` bytes, marking the cut with `...`; nothing is cut when
`n` is at most 3. The cut may fall inside a character. -/
def shorten (s : Bytes) (n : Int) : Bytes :=
  if n ≤ 3 ∨ (s.length : Int) ≤ n then s else s.take (n - 3).toNat ++ [46, 46, 46]

/-- Byte strings in lexicographic order: `s` comes no later than `t`. -/
def lexLe : Bytes → Bytes → Bool
  | [], _ => true
  | _ :: _, [] => false
  | a :: s, b :: t => a.toNat < b.toNat || (a.toNat == b.toNat && lexLe s t)

@[simp] theorem length_lowerAscii (s : Bytes) : (lowerAscii s).length = s.length := by
  simp [lowerAscii]

theorem isWord_iff {s : Bytes} : isWord s = true ↔ s ≠ [] ∧ ∀ b ∈ s, isLetter b = true := by
  simp [isWord]

end Bytes

end WordSift
