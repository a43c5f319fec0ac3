import WordSift.Bytes

/-!
# Slash-separated paths

Paths are byte strings whose elements are separated by `/`; a path that starts with `/` is
absolute. `clean` gives the shortest equivalent path by purely lexical rules: repeated slashes
become one, `.` elements go, and a `..` element removes the element before it (at the root it is
dropped; at the start of a relative path it stays). The clean form of the empty path is `.`.
`join` puts a slash between its non-empty arguments and cleans the result; `dir` is the clean
path without its last element; `ext` is the suffix from the last `.` of the last element.
-/

namespace WordSift.Path

/-- The byte `/`. -/
def slash : UInt8 := 47

/-- The byte `.`. -/
def dot : UInt8 := 46

/-- The path starts at the root. -/
def isAbs (p : Bytes) : Bool := p.head? == some slash

/-- The elements between slashes, empty ones included. -/
def pieces (p : Bytes) : List Bytes := p.splitOn slash

/-- Applies the lexical rules to the elements of a path, kept in reverse order in `acc`. -/
def resolve (abs : Bool) : List Bytes → List Bytes → List Bytes
  | acc, [] => acc
  | acc, e :: rest =>
    if e.isEmpty || e == [dot] then resolve abs acc rest
    else if e == [dot, dot] then
      match acc with
      | top :: below =>
        if top == [dot, dot] then resolve abs (e :: acc) rest else resolve abs below rest
      | [] => if abs then resolve abs [] rest else resolve abs [e] rest
    else resolve abs (e :: acc) rest

/-- The shortest path equivalent to `p` by lexical rules. -/
def clean (p : Bytes) : Bytes :=
  let abs := isAbs p
  let body := [slash].intercalate (resolve abs [] (pieces p)).reverse
  if abs then slash :: body else if body.isEmpty then [dot] else body

/-- Joins path elements with slashes, skipping empty ones, and cleans the result; no
non-empty element gives the empty path. -/
def join (ps : List Bytes) : Bytes :=
  match ps.filter (!·.isEmpty) with
  | [] => []
  | qs => clean ([slash].intercalate qs)

/-- The path without its last element, cleaned. -/
def dir (p : Bytes) : Bytes :=
  let keep := (p.reverse.dropWhile (· != slash)).reverse
  clean keep

/-- The last element of a path. -/
def base (p : Bytes) : Bytes := (p.reverse.takeWhile (· != slash)).reverse

/-- The suffix of the last element from its last `.`, or nothing when it has none. -/
def ext (p : Bytes) : Bytes :=
  let b := base p
  if b.contains dot then dot :: (b.reverse.takeWhile (· != dot)).reverse else []

end WordSift.Path
