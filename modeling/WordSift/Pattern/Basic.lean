import WordSift.Pattern.Table
import WordSift.Text.Quoted

/-!
# Compiled patterns

A pattern text is accepted when every `*` repeats something: it may neither begin the text nor
follow another `*`. The first `*` that breaks this rule is reported with its offset and a
reason. An accepted pattern keeps its text, and, when it folds case, matches with the ASCII
capitals of both the pattern and the word lowered.

`literalPrefix` is the run of leading bytes that every matching word starts with: it stops at
the first `.` or `*`, and one byte early when that byte is repeated by the `*` after it.
-/

namespace WordSift

/-- Why a pattern text is refused. -/
inductive Pattern.Fault where
  /-- A `*` begins the text. -/
  | nothingToRepeat
  /-- A `*` follows another `*`. -/
  | repeatedStar
deriving DecidableEq, Repr

/-- The reason as it is written in messages. -/
def Pattern.Fault.reason : Pattern.Fault → String
  | .nothingToRepeat => "nothing to repeat"
  | .repeatedStar => "repeated '*'"

/-- A refused pattern text, with the offset of the first `*` that repeats nothing. -/
structure Pattern.SyntaxError where
  source : Bytes
  offset : Nat
  fault : Pattern.Fault
deriving DecidableEq, Repr

/-- The message of a refused pattern. -/
def Pattern.SyntaxError.message (e : Pattern.SyntaxError) : String :=
  "invalid pattern " ++ Text.quote e.source ++ " at offset " ++ toString e.offset ++ ": " ++
    e.fault.reason

/-- An accepted pattern. -/
structure Pattern where
  /-- The text as it was given. -/
  source : Bytes
  /-- Whether ASCII case is folded. -/
  fold : Bool
  /-- The text that is matched: the source, with capitals lowered when folding. -/
  expr : Bytes
deriving DecidableEq, Repr

namespace Pattern

/-- The first `*` at or after offset `i` that repeats nothing, given the byte before it. -/
def faultFrom (before : Option UInt8) (i : Nat) : Bytes → Option (Nat × Fault)
  | [] => none
  | b :: rest =>
    if b == star then
      match before with
      | none => some (i, .nothingToRepeat)
      | some q => if q == star then some (i, .repeatedStar) else faultFrom (some b) (i + 1) rest
    else faultFrom (some b) (i + 1) rest

/-- The first `*` of a text that repeats nothing, with its offset. -/
def firstFault (s : Bytes) : Option (Nat × Fault) := faultFrom none 0 s

/-- Accepts a pattern text, or reports its first misplaced `*`. -/
def compile (source : Bytes) (fold : Bool := true) : Except SyntaxError Pattern :=
  match firstFault source with
  | some (i, f) => .error ⟨source, i, f⟩
  | none => .ok ⟨source, fold, if fold then Bytes.lowerAscii source else source⟩

/-- The leading bytes every matching word starts with. -/
def prefixOf : Bytes → Bytes
  | [] => []
  | c :: rest =>
    if c == wildcard || c == star then []
    else match rest with
      | d :: _ => if d == star then [] else c :: prefixOf rest
      | [] => [c]

/-- The literal prefix of an accepted pattern, read from its matched text. -/
def literalPrefix (p : Pattern) : Bytes := prefixOf p.expr

/-- A word matches an accepted pattern. -/
def admits (p : Pattern) (w : Bytes) : Bool :=
  accepts (if p.fold then Bytes.lowerAscii w else w) p.expr

/-- The empty word matches. -/
def matchesEmpty (p : Pattern) : Bool := accepts [] p.expr

theorem compile_ok_source {s : Bytes} {fold : Bool} {p : Pattern}
    (h : compile s fold = .ok p) : p.source = s := by
  unfold compile at h
  split at h <;> cases h
  rfl

theorem compile_ok_eq {s : Bytes} {fold : Bool} {p : Pattern} (h : compile s fold = .ok p) :
    p = ⟨s, fold, if fold then Bytes.lowerAscii s else s⟩ := by
  unfold compile at h
  split at h <;> cases h
  rfl

end Pattern

end WordSift
