import WordSift.Bytes

/-!
# The characters of a YAML stream

A stream is read as UTF-8, or as UTF-16 when it starts with a UTF-16 byte-order mark; a
byte-order mark at the very start is not part of the text. Every character must be one that
YAML allows: tab, line feed, carriage return, printable ASCII, NEL, and the rest of Unicode
apart from the C1 controls, the surrogates and U+FFFE, U+FFFF. An empty stream reads as a single
line break.

The bytes are decoded in pieces, as reading needs them: the first 512 bytes when reading starts,
and the next 512, from the first byte not yet decoded, each time reading looks past the
characters decoded so far. A character cut by the end of a piece is decoded with the next piece.
A fault (bytes that are no character, or a character YAML does not allow) is met when reading
looks into the piece that holds it, so a fault beyond all that is ever read does no harm. A
stream that ends inside a character fails once reading looks past its last whole character,
and at once when the stream is shorter than three bytes.
-/

namespace WordSift.Yaml

/-- A character that may stand in a YAML stream. -/
def isAllowedChar (c : Nat) : Bool :=
  c == 0x09 || c == 0x0A || c == 0x0D || (0x20 ≤ c && c ≤ 0x7E) || c == 0x85 ||
    (0xA0 ≤ c && c ≤ 0xD7FF) || (0xE000 ≤ c && c ≤ 0xFFFD) || (0x10000 ≤ c && c ≤ 0x10FFFF)

/-- The length of a UTF-8 sequence by its first byte, or 0 for a byte that cannot start one. -/
def leadWidth (b : UInt8) : Nat :=
  if b &&& 0x80 == 0 then 1
  else if b &&& 0xE0 == 0xC0 then 2
  else if b &&& 0xF0 == 0xE0 then 3
  else if b &&& 0xF8 == 0xF0 then 4
  else 0

/-- The value bits a UTF-8 sequence of a width keeps of its first byte. -/
def leadBits (w : Nat) (b : UInt8) : Nat :=
  if w == 1 then b.toNat else if w == 2 then (b &&& 0x1F).toNat
  else if w == 3 then (b &&& 0x0F).toNat else (b &&& 0x07).toNat

/-- Checks a decoded code point: its range, then whether YAML allows it. -/
def checkPoint (v : Nat) : Except String Char :=
  if (0xD800 ≤ v && v ≤ 0xDFFF) || 0x10FFFF < v then .error "invalid Unicode character"
  else if !isAllowedChar v then .error "control characters are not allowed"
  else .ok (Char.ofNat v)

/-- The characters of a stream as far as they decode: `chars` are those before the first fault,
`fault` says what is wrong, and `ready` counts the characters of the pieces before the one that
holds the fault, which reading may take before it meets the fault. A stream without a fault has
all its characters ready. -/
structure Chars where
  chars : Array Char
  ready : Nat
  fault : Option String := none
deriving Repr, Inhabited

/-- How many bytes are decoded at once. -/
def pieceSize : Nat := 512

/-- Where decoding stands: the characters so far, how many of them came from earlier pieces,
the position of the next byte, where the current piece ends, and the length of the stream. -/
structure Decoding where
  chars : Array Char := #[]
  ready : Nat := 0
  pos : Nat
  stop : Nat := pieceSize
  total : Nat

namespace Decoding

/-- Starts the next piece at the position when the current one ends before `width` more bytes
and the stream goes on past it. -/
def reach (d : Decoding) (width : Nat) : Decoding :=
  if d.stop < d.pos + width && d.stop < d.total then
    { d with ready := d.chars.size, stop := d.pos + pieceSize }
  else d

/-- A fault in the current piece. -/
def fail (d : Decoding) (why : String) : Chars :=
  { chars := d.chars, ready := d.ready, fault := some why }

/-- The stream ends inside a character: reading meets this once it looks past the whole
characters, or at once for a stream shorter than three bytes. -/
def cut (d : Decoding) (why : String) : Chars :=
  { chars := d.chars, ready := if d.total < 3 then d.ready else d.chars.size, fault := some why }

/-- Adds a character `width` bytes long. -/
def push (d : Decoding) (c : Char) (width : Nat) : Decoding :=
  { d with chars := d.chars.push c, pos := d.pos + width }

/-- The whole stream decoded. -/
def finish (d : Decoding) : Chars := { chars := d.chars, ready := d.chars.size }

end Decoding

/-- Decodes UTF-8 bytes, the next of them at `d.pos`. -/
def utf8Chars (d : Decoding) : Bytes → Chars
  | [] => d.finish
  | b :: rest =>
    let d := d.reach 1
    let w := leadWidth b
    if w == 0 then d.fail "invalid leading UTF-8 octet"
    else
      let d := d.reach w
      if rest.length < w - 1 then d.cut "incomplete UTF-8 octet sequence"
      else
        let trail := rest.take (w - 1)
        if trail.any (fun t => t &&& 0xC0 != 0x80) then d.fail "invalid trailing UTF-8 octet"
        else
          let v := trail.foldl (fun n t => n * 64 + (t &&& 0x3F).toNat) (leadBits w b)
          if !(w == 1 || (w == 2 && 0x80 ≤ v) || (w == 3 && 0x800 ≤ v) || (w == 4 && 0x10000 ≤ v))
          then d.fail "invalid length of a UTF-8 sequence"
          else match checkPoint v with
            | .error e => d.fail e
            | .ok c => utf8Chars (d.push c w) (rest.drop (w - 1))
termination_by s => s.length
decreasing_by simp only [List.length_cons, List.length_drop]; omega

/-- Decodes UTF-16 bytes, the next of them at `d.pos`. -/
def utf16Chars (bigEndian : Bool) (d : Decoding) : Bytes → Chars
  | [] => d.finish
  | [_] => (d.reach 2).cut "incomplete UTF-16 character"
  | a :: b :: rest =>
    let unit := fun (x y : UInt8) => if bigEndian then x.toNat * 256 + y.toNat else y.toNat * 256 + x.toNat
    let d := d.reach 2
    let v := unit a b
    if v &&& 0xFC00 == 0xDC00 then d.fail "unexpected low surrogate area"
    else if v &&& 0xFC00 == 0xD800 then
      let d := d.reach 4
      match rest with
      | c :: e :: more =>
        let v2 := unit c e
        if v2 &&& 0xFC00 != 0xDC00 then d.fail "expected low surrogate area"
        else match checkPoint (0x10000 + (v &&& 0x3FF) * 1024 + (v2 &&& 0x3FF)) with
          | .error why => d.fail why
          | .ok ch => utf16Chars bigEndian (d.push ch 4) more
      | _ => d.cut "incomplete UTF-16 surrogate pair"
    else match checkPoint v with
      | .error why => d.fail why
      | .ok ch => utf16Chars bigEndian (d.push ch 2) rest
termination_by s => s.length

/-- The characters of a stream. -/
def decodeStream (s : Bytes) : Chars :=
  let s := if s.isEmpty then [10] else s
  let start := fun (skip : Nat) => ({ pos := skip, total := s.length } : Decoding)
  match s with
  | 0xFF :: 0xFE :: rest => utf16Chars false (start 2) rest
  | 0xFE :: 0xFF :: rest => utf16Chars true (start 2) rest
  | 0xEF :: 0xBB :: 0xBF :: rest => utf8Chars (start 3) rest
  | _ => utf8Chars (start 0) s

end WordSift.Yaml
