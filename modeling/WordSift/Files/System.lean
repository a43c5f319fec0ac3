import WordSift.Files.Path

/-!
# File operations

The file operations a program needs, as a class over the monad it runs in: what stands at a
path, reading and writing whole files, making one directory, removing an entry, and where the
working, home and program directories are. A failure names the operation, the path as given
and the cause, in the words the operating system uses.

On top of them: `makeDirs` makes a directory with all missing parents (succeeding when a
directory is already there), `checkDir` finds whether a directory exists or can be made, and
whether a file can be created in it, and `absolute` gives the absolute form of a path.
-/

namespace WordSift.Files

/-- Why a file operation failed. -/
inductive Cause where
  | notFound
  | isDirectory
  | notDirectory
  | alreadyExists
  | notEmpty
  | tooManyLinks
  | permissionDenied
  /-- Any other cause, in the system's words. -/
  | other (text : String)
deriving DecidableEq, Repr

/-- The words the system uses for a cause. -/
def Cause.text : Cause → String
  | .notFound => "no such file or directory"
  | .isDirectory => "is a directory"
  | .notDirectory => "not a directory"
  | .alreadyExists => "file exists"
  | .notEmpty => "directory not empty"
  | .tooManyLinks => "too many levels of symbolic links"
  | .permissionDenied => "permission denied"
  | .other t => t

/-- A failed operation on a path. -/
structure Failure where
  op : String
  path : Bytes
  cause : Cause
deriving DecidableEq, Repr

/-- The message of a failure: the operation, the path as given and the cause. -/
def Failure.message (f : Failure) : Bytes :=
  Bytes.ofString (f.op ++ " ") ++ f.path ++ Bytes.ofString (": " ++ f.cause.text)

/-- What stands at a path. -/
inductive Kind where
  | file
  | directory
deriving DecidableEq, Repr

/-- The file operations of a monad. -/
class FileSystem (m : Type → Type) where
  /-- What stands at a path, links followed; fails as `stat`. -/
  stat : Bytes → m (Except Failure Kind)
  /-- The content of a file; fails as `open`, or as `read` for a directory. -/
  readFile : Bytes → m (Except Failure Bytes)
  /-- Creates a file, or empties the one there, and writes to it; fails as `open`. -/
  writeFile : Bytes → Bytes → m (Except Failure Unit)
  /-- Makes one directory; fails as `mkdir`. -/
  makeDir : Bytes → m (Except Failure Unit)
  /-- Removes a file or an empty directory; fails as `remove`. -/
  remove : Bytes → m (Except Failure Unit)
  /-- A directory stands at the path itself, a link not followed. -/
  isDirHere : Bytes → m Bool
  /-- The working directory. -/
  workDir : m Bytes
  /-- The home directory, when one is set. -/
  home : m (Option Bytes)
  /-- The directory of the running program, or why it is unknown. -/
  programDir : m (Except String Bytes)

variable {m : Type → Type} [Monad m] [FileSystem m]

open FileSystem

/-- The path without its last element and the slashes before it, as a directory is made from
its parent. -/
def parentOf (p : Bytes) : Bytes :=
  let r := (p.reverse.dropWhile (· == Path.slash)).dropWhile (· != Path.slash)
  (r.drop 1).reverse

theorem parentOf_length_lt (p : Bytes) (h : p ≠ []) : (parentOf p).length < p.length := by
  unfold parentOf
  -- each cut drops a prefix of what it is given: the suffix that is left is no longer
  have h1 : (p.reverse.dropWhile (· == Path.slash)).length ≤ p.reverse.length :=
    (List.dropWhile_suffix _).length_le
  have h2 : ((p.reverse.dropWhile (· == Path.slash)).dropWhile (· != Path.slash)).length ≤
      (p.reverse.dropWhile (· == Path.slash)).length :=
    (List.dropWhile_suffix _).length_le
  have h3 : 0 < p.length := List.length_pos_iff.mpr h
  simp only [List.length_reverse, List.length_drop] at *
  omega

/-- Makes a directory and its missing parents; a directory already there is no failure. -/
def makeDirs (p : Bytes) : m (Except Failure Unit) := do
  match ← stat p with
  | .ok .directory => return .ok ()
  | .ok .file => return .error ⟨"mkdir", p, .notDirectory⟩
  | .error _ =>
    let parent := parentOf p
    if h : parent ≠ [] then
      have : parent.length < p.length := parentOf_length_lt p (by
        intro hp; apply h; simp [parent, hp, parentOf])
      match ← makeDirs parent with
      | .error e => return .error e
      | .ok () => pure ()
    match ← makeDir p with
    | .ok () => return .ok ()
    | .error e => if ← isDirHere p then return .ok () else return .error e
termination_by p.length

/-- What is known of a directory: it exists (or was made), a file can be created in it, or why
it could not be made. -/
structure DirStatus where
  present : Bool
  writable : Bool
  failure : Option Failure
deriving Repr

/-- A file named `.write_test` can be created in the directory (and is removed again). -/
def canWrite (d : Bytes) : m Bool := do
  let probe := Path.join [d, Bytes.ofString ".write_test"]
  match ← writeFile probe [] with
  | .ok () =>
    let _ ← remove probe
    return true
  | .error _ => return false

/-- Finds whether a directory exists, making it when it does not, and whether it is writable. -/
def checkDir (d : Bytes) : m DirStatus := do
  match ← stat d with
  | .ok _ => return ⟨true, ← canWrite d, none⟩
  | .error _ =>
    match ← makeDirs d with
    | .error e => return ⟨false, false, some e⟩
    | .ok () => return ⟨true, ← canWrite d, none⟩

/-- Something stands at the path. -/
def fileExists (p : Bytes) : m Bool := do
  match ← stat p with
  | .ok _ => return true
  | .error _ => return false

/-- The absolute form of a path: the working directory joined to a relative path; an absolute
path is kept as given and the empty path is `unknown`. -/
def absolute (p : Bytes) : m Bytes := do
  if p.isEmpty then return Bytes.ofString "unknown"
  else if Path.isAbs p then return p
  else return Path.join [← workDir, p]

end WordSift.Files
