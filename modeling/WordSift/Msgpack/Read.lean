import WordSift.Bytes

/-!
# Reading MessagePack

A reader consumes bytes from the front of a stream. Reading a code byte where the stream has
ended gives `ended`, as does reading a run of bytes of which none is left; a run cut short gives
`cut`. So a stream that ends between values, or even inside one at a code byte, has merely
ended, while one that ends inside a number or a string is cut.

`skip` passes over one whole value and `value` reads one into `Value`. Both recurse into arrays
and maps with a fuel that the caller sets to the bytes left: every value takes at least its
code byte, so the fuel never runs out first.
-/

namespace WordSift.Msgpack

/-- Why reading stopped. -/
inductive Fault where
  /-- The stream ended where a read began. -/
  | ended
  /-- The stream ended inside a run of bytes. -/
  | cut
  /-- A code that cannot start what was expected, named by `hint`. -/
  | unexpectedCode (code : UInt8) (hint : String)
  /-- A code that cannot start what was expected, named by `hint`. -/
  | invalidCode (code : UInt8) (hint : String)
  /-- A code that starts no value. -/
  | unknownCode (code : UInt8)
  /-- An array-encoded record with the wrong number of fields. -/
  | arrayRecord
deriving DecidableEq, Repr

/-- The lowercase hexadecimal digits of a byte, without padding. -/
def hexByte (b : UInt8) : String := String.ofList (Nat.toDigits 16 b.toNat)

/-- The message of a fault. -/
def Fault.message : Fault → String
  | .ended => "EOF"
  | .cut => "unexpected EOF"
  | .unexpectedCode c h => "msgpack: unexpected code=" ++ hexByte c ++ " decoding " ++ h
  | .invalidCode c h => "msgpack: invalid code=" ++ hexByte c ++ " decoding " ++ h
  | .unknownCode c => "msgpack: unknown code " ++ hexByte c
  | .arrayRecord => "msgpack: number of fields in array-encoded struct has changed"

/-- A reader of a byte stream. -/
abbrev Reader := StateT Bytes (Except Fault)

/-- Reads a code byte. -/
def code : Reader UInt8 := do
  match ← get with
  | [] => throw .ended
  | b :: rest => set rest; return b

/-- Reads a run of `n` bytes. -/
def take (n : Nat) : Reader Bytes := do
  let s ← get
  if n = 0 then return []
  else if s.isEmpty then throw .ended
  else if s.length < n then throw .cut
  else set (s.drop n); return s.take n

/-- Reads an unsigned big-endian number of `k` bytes. -/
def unsigned (k : Nat) : Reader Nat := do
  return (← take k).foldl (fun n b => 256 * n + b.toNat) 0

/-- Reads a signed big-endian number of `k` bytes. -/
def signed (k : Nat) : Reader Int := do
  let u ← unsigned k
  return if u ≥ Nat.pow 2 (8 * k - 1) then (u : Int) - (Nat.pow 2 (8 * k) : Int) else u

/-- A fixed positive or negative number. -/
def isFixedNum (c : UInt8) : Bool := c ≤ 0x7f || 0xe0 ≤ c

/-- The value of a fixed number. -/
def fixedValue (c : UInt8) : Int := if c ≤ 0x7f then c.toNat else (c.toNat : Int) - 256

/-- A fixed string. -/
def isFixedStr (c : UInt8) : Bool := 0xa0 ≤ c && c ≤ 0xbf

/-- A fixed array. -/
def isFixedArray (c : UInt8) : Bool := 0x90 ≤ c && c ≤ 0x9f

/-- A fixed map. -/
def isFixedMap (c : UInt8) : Bool := 0x80 ≤ c && c ≤ 0x8f

/-- The length a map code announces; `none` for nil. -/
def mapLength (c : UInt8) : Reader (Option Nat) :=
  if c == 0xc0 then return none
  else if isFixedMap c then return some (c.toNat - 0x80)
  else if c == 0xde then some <$> unsigned 2
  else if c == 0xdf then some <$> unsigned 4
  else throw (.unexpectedCode c "map length")

/-- The length an array code announces; `none` for nil. -/
def arrayLength (c : UInt8) : Reader (Option Nat) :=
  if c == 0xc0 then return none
  else if isFixedArray c then return some (c.toNat - 0x90)
  else if c == 0xdc then some <$> unsigned 2
  else if c == 0xdd then some <$> unsigned 4
  else throw (.invalidCode c "array length")

/-- The length a string or binary code announces; `none` for nil. -/
def bytesLength (c : UInt8) : Reader (Option Nat) :=
  if c == 0xc0 then return none
  else if isFixedStr c then return some (c.toNat - 0xa0)
  else if c == 0xd9 || c == 0xc4 then some <$> unsigned 1
  else if c == 0xda || c == 0xc5 then some <$> unsigned 2
  else if c == 0xdb || c == 0xc6 then some <$> unsigned 4
  else throw (.invalidCode c "string/bytes length")

/-- Reads a string or binary value after its code; nil reads as empty. -/
def textAfter (c : UInt8) : Reader Bytes := do
  match ← bytesLength c with
  | none => return []
  | some n => take n

/-- Reads a string or binary value; nil reads as empty. -/
def text : Reader Bytes := do textAfter (← code)

/-- Reads an integer after its code; nil reads as zero, and an unsigned 64-bit number wraps to
a signed one. -/
def intAfter (c : UInt8) : Reader Int :=
  if c == 0xc0 then return 0
  else if isFixedNum c then return fixedValue c
  else if c == 0xcc then Int.ofNat <$> unsigned 1
  else if c == 0xd0 then signed 1
  else if c == 0xcd then Int.ofNat <$> unsigned 2
  else if c == 0xd1 then signed 2
  else if c == 0xce then Int.ofNat <$> unsigned 4
  else if c == 0xd2 then signed 4
  else if c == 0xcf || c == 0xd3 then signed 8
  else throw (.invalidCode c "int64")

/-- Reads an integer; nil reads as zero. -/
def int : Reader Int := do intAfter (← code)

/-- The length of the data of an extension value, after its code. -/
def extLength (c : UInt8) : Reader Nat :=
  if c == 0xd4 then return 1
  else if c == 0xd5 then return 2
  else if c == 0xd6 then return 4
  else if c == 0xd7 then return 8
  else if c == 0xd8 then return 16
  else if c == 0xc7 then unsigned 1
  else if c == 0xc8 then unsigned 2
  else unsigned 4

/-- The fixed width of the data after a code, for codes followed by nothing but data. -/
def fixedWidth (c : UInt8) : Option Nat :=
  if c == 0xc0 || c == 0xc2 || c == 0xc3 then some 0
  else if c == 0xcc || c == 0xd0 then some 1
  else if c == 0xcd || c == 0xd1 then some 2
  else if c == 0xce || c == 0xd2 || c == 0xca then some 4
  else if c == 0xcf || c == 0xd3 || c == 0xcb then some 8
  else none

/-- An extension code. -/
def isExt (c : UInt8) : Bool := (0xd4 ≤ c && c ≤ 0xd8) || (0xc7 ≤ c && c ≤ 0xc9)

mutual
/-- Passes over one value. -/
def skip : Nat → Reader Unit
  | 0 => throw .ended
  | fuel + 1 => do
    let c ← code
    if isFixedNum c then return ()
    else if isFixedMap c || c == 0xde || c == 0xdf then
      match ← mapLength c with
      | some n => skipMany fuel (2 * n)
      | none => return ()
    else if isFixedArray c || c == 0xdc || c == 0xdd then
      match ← arrayLength c with
      | some n => skipMany fuel n
      | none => return ()
    else if isFixedStr c || (0xc4 ≤ c && c ≤ 0xc6) || (0xd9 ≤ c && c ≤ 0xdb) then
      let _ ← textAfter c
    else if isExt c then
      let n ← extLength c
      let _ ← take (n + 1)
    else match fixedWidth c with
      | some w => let _ ← take w
      | none => throw (.unknownCode c)

/-- Passes over `n` values. -/
def skipMany : Nat → Nat → Reader Unit
  | 0, _ => throw .ended
  | _, 0 => return ()
  | fuel + 1, n + 1 => do
    skip fuel
    skipMany fuel n
end

/-- A value as read. -/
inductive Value where
  | nil
  | bool (b : Bool)
  | int (n : Int)
  | float (bits : Nat) (width : Nat)
  | str (s : Bytes)
  | bin (s : Bytes)
  | array (items : List Value)
  | map (entries : List (Value × Value))
  | ext (kind : Int) (data : Bytes)
deriving Repr, Inhabited

mutual
/-- Reads one value. -/
def value : Nat → Reader Value
  | 0 => throw .ended
  | fuel + 1 => do
    let c ← code
    if isFixedNum c then return .int (fixedValue c)
    else if isFixedMap c || c == 0xde || c == 0xdf then
      match ← mapLength c with
      | some n => return .map (← entries fuel n)
      | none => return .nil
    else if isFixedArray c || c == 0xdc || c == 0xdd then
      match ← arrayLength c with
      | some n => return .array (← items fuel n)
      | none => return .nil
    else if isFixedStr c || (0xd9 ≤ c && c ≤ 0xdb) then return .str (← textAfter c)
    else if 0xc4 ≤ c && c ≤ 0xc6 then return .bin (← textAfter c)
    else if c == 0xc0 then return .nil
    else if c == 0xc2 || c == 0xc3 then return .bool (c == 0xc3)
    else if c == 0xca then return .float (← unsigned 4) 32
    else if c == 0xcb then return .float (← unsigned 8) 64
    else if c == 0xcc || c == 0xcd || c == 0xce || c == 0xcf then
      return .int (← unsigned (if c == 0xcc then 1 else if c == 0xcd then 2 else if c == 0xce then 4 else 8))
    else if c == 0xd0 || c == 0xd1 || c == 0xd2 || c == 0xd3 then
      return .int (← signed (if c == 0xd0 then 1 else if c == 0xd1 then 2 else if c == 0xd2 then 4 else 8))
    else if isExt c then
      let n ← extLength c
      let k ← signed 1
      return .ext k (← take n)
    else throw (.unknownCode c)

/-- Reads `n` values. -/
def items : Nat → Nat → Reader (List Value)
  | 0, _ => throw .ended
  | _, 0 => return []
  | fuel + 1, n + 1 => do
    let v ← value fuel
    return v :: (← items fuel n)

/-- Reads `n` key and value pairs. -/
def entries : Nat → Nat → Reader (List (Value × Value))
  | 0, _ => throw .ended
  | _, 0 => return []
  | fuel + 1, n + 1 => do
    let k ← value fuel
    let v ← value fuel
    return (k, v) :: (← entries fuel n)
end

/-- Reads the values of a stream one after another: the values read, and the fault that
stopped the reading (`ended` when the stream ended between values). -/
def values (s : Bytes) : List Value × Fault :=
  let rec go : Nat → Bytes → List Value × Fault
    | 0, _ => ([], .ended)
    | fuel + 1, s =>
      match (value (s.length + 1)).run s with
      | .ok (v, rest) => let (vs, f) := go fuel rest; (v :: vs, f)
      | .error f => ([], f)
  go (s.length + 1) s

end WordSift.Msgpack
