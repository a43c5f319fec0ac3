import WordSift.Bytes

/-!
# Base64

Text in the standard base64 alphabet (`A`–`Z`, `a`–`z`, `0`–`9`, `+`, `/`) stands for bytes,
four characters for three bytes. The last group may end in `=` or `==` for two or one bytes;
a group cut short without them is not base64, and nothing may follow the padding. Line breaks
(carriage returns and line feeds) anywhere are ignored.

Encoding writes the groups the same way, so decoding what `encode` gives returns the bytes.
-/

namespace WordSift.Text.Base64

/-- The six bits a character of the alphabet stands for. -/
def sextet? (c : Char) : Option Nat :=
  if 'A' ≤ c && c ≤ 'Z' then some (c.toNat - 65)
  else if 'a' ≤ c && c ≤ 'z' then some (c.toNat - 71)
  else if '0' ≤ c && c ≤ '9' then some (c.toNat + 4)
  else if c == '+' then some 62
  else if c == '/' then some 63
  else none

/-- The bytes of one group of two, three or four characters. -/
def group (vs : List Nat) : Bytes :=
  let n := vs.foldl (fun acc v => 64 * acc + v) 0 * Nat.pow 64 (4 - vs.length)
  let all := [(n / 65536 % 256).toUInt8, (n / 256 % 256).toUInt8, (n % 256).toUInt8]
  all.take (vs.length - 1)

/-- Decodes groups of characters, line breaks removed. -/
def decodeGroups : List Char → Option Bytes
  | [] => some []
  | [a, b, '=', '='] => do
    return group [← sextet? a, ← sextet? b]
  | [a, b, c, '='] => do
    return group [← sextet? a, ← sextet? b, ← sextet? c]
  | a :: b :: c :: d :: rest => do
    let g := group [← sextet? a, ← sextet? b, ← sextet? c, ← sextet? d]
    return g ++ (← decodeGroups rest)
  | _ => none

/-- The bytes a base64 text stands for, if it is base64. -/
def decode? (s : String) : Option Bytes :=
  decodeGroups (s.toList.filter fun c => c != '\r' && c != '\n')

/-- The character of the alphabet for six bits. -/
def sextetChar (v : Nat) : Char :=
  if v < 26 then Char.ofNat (65 + v)
  else if v < 52 then Char.ofNat (71 + v)
  else if v < 62 then Char.ofNat (v - 4)
  else if v == 62 then '+'
  else '/'

/-- The first `k` characters of a group of three bytes held in 24 bits. -/
def groupText (k n : Nat) : String :=
  String.ofList ([n / 262144 % 64, n / 4096 % 64, n / 64 % 64, n % 64].take k |>.map sextetChar)

/-- Bytes as base64: three bytes to four characters, the last group padded with `=`. -/
def encode : Bytes → String
  | [] => ""
  | [a] => groupText 2 (a.toNat * 65536) ++ "=="
  | [a, b] => groupText 3 (a.toNat * 65536 + b.toNat * 256) ++ "="
  | a :: b :: c :: rest => groupText 4 (a.toNat * 65536 + b.toNat * 256 + c.toNat) ++ encode rest

end WordSift.Text.Base64
