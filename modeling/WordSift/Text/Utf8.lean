import WordSift.Bytes

/-!
# UTF-8 decoding, one stray byte at a time

A byte string reads as a list of `Piece`s. A piece is either the well-formed encoding of a
scalar value (shortest form, no surrogate, at most U+10FFFF) or a single byte that begins no
such encoding. After a stray byte, reading goes on at the very next byte, so a sequence cut
short yields one stray piece per byte. `encode` writes a scalar value back, and `repair`
replaces every stray byte by U+FFFD.
-/

namespace WordSift.Text

/-- One unit of a byte string read as UTF-8. -/
inductive Piece where
  /-- The well-formed encoding of a scalar value. -/
  | scalar (c : Nat)
  /-- A byte that begins no well-formed encoding. -/
  | stray (b : UInt8)
deriving DecidableEq, Repr

/-- The replacement character, written for a byte that is not UTF-8. -/
def replacement : Nat := 0xFFFD

/-- A continuation byte, `0x80` to `0xBF`. -/
def isTrail (b : UInt8) : Bool := decide (0x80 ≤ b.toNat) && decide (b.toNat ≤ 0xBF)

/-- The allowed range of the second byte after a lead byte of a three or four byte encoding;
it excludes overlong forms, surrogates and values above U+10FFFF. -/
def secondRange (lead : UInt8) : Nat × Nat :=
  match lead.toNat with
  | 0xE0 => (0xA0, 0xBF)
  | 0xED => (0x80, 0x9F)
  | 0xF0 => (0x90, 0xBF)
  | 0xF4 => (0x80, 0x8F)
  | _ => (0x80, 0xBF)

/-- The second byte fits its lead byte. -/
def secondFits (lead b : UInt8) : Bool :=
  decide ((secondRange lead).1 ≤ b.toNat) && decide (b.toNat ≤ (secondRange lead).2)

/-- The low six bits of a continuation byte. -/
def low6 (b : UInt8) : Nat := b.toNat % 64

/-- The piece that begins with the byte `b`, followed by `rest`, and how many bytes of `rest`
it takes beside `b`. -/
def front (b : UInt8) (rest : Bytes) : Piece × Nat :=
  if b.toNat < 0x80 then (.scalar b.toNat, 0)
  else if 0xC2 ≤ b.toNat ∧ b.toNat ≤ 0xDF then
    match rest with
    | c1 :: _ =>
      if isTrail c1 then (.scalar ((b.toNat % 32) * 64 + low6 c1), 1) else (.stray b, 0)
    | [] => (.stray b, 0)
  else if 0xE0 ≤ b.toNat ∧ b.toNat ≤ 0xEF then
    match rest with
    | c1 :: c2 :: _ =>
      if secondFits b c1 && isTrail c2 then
        (.scalar ((b.toNat % 16) * 4096 + low6 c1 * 64 + low6 c2), 2)
      else (.stray b, 0)
    | _ => (.stray b, 0)
  else if 0xF0 ≤ b.toNat ∧ b.toNat ≤ 0xF4 then
    match rest with
    | c1 :: c2 :: c3 :: _ =>
      if secondFits b c1 && isTrail c2 && isTrail c3 then
        (.scalar ((b.toNat % 8) * 262144 + low6 c1 * 4096 + low6 c2 * 64 + low6 c3), 3)
      else (.stray b, 0)
    | _ => (.stray b, 0)
  else (.stray b, 0)

/-- Reads a byte string as UTF-8 pieces. -/
def decode : Bytes → List Piece
  | [] => []
  | b :: rest => (front b rest).1 :: decode (rest.drop (front b rest).2)
termination_by s => s.length
decreasing_by simp only [List.length_drop, List.length_cons]; omega

/-- The UTF-8 encoding of a scalar value. -/
def encode (c : Nat) : Bytes :=
  if c < 0x80 then [c.toUInt8]
  else if c < 0x800 then [(0xC0 + c / 64).toUInt8, (0x80 + c % 64).toUInt8]
  else if c < 0x10000 then
    [(0xE0 + c / 4096).toUInt8, (0x80 + c / 64 % 64).toUInt8, (0x80 + c % 64).toUInt8]
  else
    [(0xF0 + c / 262144).toUInt8, (0x80 + c / 4096 % 64).toUInt8,
      (0x80 + c / 64 % 64).toUInt8, (0x80 + c % 64).toUInt8]

/-- The scalar value a piece stands for, U+FFFD for a stray byte. -/
def Piece.value : Piece → Nat
  | .scalar c => c
  | .stray _ => replacement

/-- The text with every stray byte replaced by U+FFFD, as scalar values. -/
def repair (s : Bytes) : List Nat := (decode s).map Piece.value

/-- Writes scalar values as UTF-8. -/
def encodeAll (cs : List Nat) : Bytes := cs.flatMap encode

/-- The bytes are well-formed UTF-8. -/
def isValid (s : Bytes) : Bool :=
  (decode s).all fun | .scalar _ => true | .stray _ => false

/-- The string the bytes spell, every stray byte read as U+FFFD. -/
def lossy (s : Bytes) : String := String.ofList ((repair s).map Char.ofNat)

/-- The string the bytes spell, when they are well-formed UTF-8. -/
def toString? (s : Bytes) : Option String :=
  if isValid s then some (String.ofList ((repair s).map Char.ofNat)) else none

@[simp] theorem decode_nil : decode [] = [] := by
  simp [decode]

end WordSift.Text
