import WordSift.Bytes

/-!
# Writing MessagePack

The MessagePack forms this library writes. Integers are written in the fewest bytes
(`compactInt`), or always as a signed 64-bit integer (`int64`); strings, arrays and maps take
the shortest header their length allows. Multi-byte numbers are big-endian.
-/

namespace WordSift.Msgpack

/-- `n` as `k` big-endian bytes (reduced modulo `256 ^ k`). -/
def bigEndian (k n : Nat) : Bytes :=
  (List.range k).reverse.map fun i => (n / Nat.pow 256 i % 256).toUInt8

/-- A code byte followed by `k` big-endian bytes of `n`. -/
def coded (code : UInt8) (k n : Nat) : Bytes := code :: bigEndian k n

/-- The nil value. -/
def nil : Bytes := [0xc0]

/-- A boolean. -/
def bool (b : Bool) : Bytes := [if b then 0xc3 else 0xc2]

/-- An integer in the fewest bytes: a fixed number, or the smallest unsigned form for a
non-negative one and the smallest signed form for a negative one. -/
def compactInt (n : Int) : Bytes :=
  if 0 ≤ n then
    let u := n.toNat
    if u < 128 then [u.toUInt8]
    else if u < Nat.pow 2 8 then coded 0xcc 1 u
    else if u < Nat.pow 2 16 then coded 0xcd 2 u
    else if u < Nat.pow 2 32 then coded 0xce 4 u
    else coded 0xcf 8 u
  else
    let t := fun (k : Nat) => (n + (Nat.pow 2 (8 * k) : Int)).toNat
    if -32 ≤ n then [(t 1).toUInt8]
    else if -(Nat.pow 2 7 : Int) ≤ n then coded 0xd0 1 (t 1)
    else if -(Nat.pow 2 15 : Int) ≤ n then coded 0xd1 2 (t 2)
    else if -(Nat.pow 2 31 : Int) ≤ n then coded 0xd2 4 (t 4)
    else coded 0xd3 8 (t 8)

/-- An integer as a signed 64-bit integer, always nine bytes. -/
def int64 (n : Int) : Bytes := coded 0xd3 8 (n % (Nat.pow 2 64 : Int)).toNat

/-- A double-precision float by its bits. -/
def float64 (bits : Nat) : Bytes := coded 0xcb 8 bits

/-- A string of bytes. -/
def str (s : Bytes) : Bytes :=
  let n := s.length
  (if n < 32 then [(0xa0 + n).toUInt8]
    else if n < Nat.pow 2 8 then coded 0xd9 1 n
    else if n < Nat.pow 2 16 then coded 0xda 2 n
    else coded 0xdb 4 n) ++ s

/-- The header of an array of `n` items. -/
def arrayHeader (n : Nat) : Bytes :=
  if n < 16 then [(0x90 + n).toUInt8] else if n < Nat.pow 2 16 then coded 0xdc 2 n else coded 0xdd 4 n

/-- The header of a map of `n` entries. -/
def mapHeader (n : Nat) : Bytes :=
  if n < 16 then [(0x80 + n).toUInt8] else if n < Nat.pow 2 16 then coded 0xde 2 n else coded 0xdf 4 n

/-- An array of written items. -/
def array (items : List Bytes) : Bytes := arrayHeader items.length ++ items.flatten

/-- A map with string keys and written values, in the given order. -/
def record (fields : List (String × Bytes)) : Bytes :=
  mapHeader fields.length ++ fields.flatMap fun (k, v) => str (Bytes.ofString k) ++ v

end WordSift.Msgpack
