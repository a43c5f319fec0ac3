import WordSift.Files.System

/-!
# A disk in memory

A disk holds files, directories and symbolic links under absolute paths, together with the
working, home and program directories. The root is always a directory. A path is followed
element by element from the root: a missing element ends the walk (the last element may be
missing, for an operation that creates it), a file may only be the last element, and a link is
replaced by its target (relative targets from the link's directory), up to forty times. The
operations of `FileSystem` run on it in `StateM Disk`.
-/

namespace WordSift.Files

/-- What stands at a path of a disk. -/
inductive Entry where
  | file (content : Bytes)
  | dir
  | link (target : Bytes)
deriving DecidableEq, Repr

/-- A disk: its entries by absolute clean path, and its special directories. -/
structure Disk where
  entries : List (Bytes × Entry) := []
  cwd : Bytes := [Path.slash]
  home : Option Bytes := none
  programDir : Bytes := [Path.slash]
deriving Repr

namespace Disk

/-- The entry at an absolute clean path. -/
def entry? (d : Disk) (p : Bytes) : Option Entry :=
  if p == [Path.slash] then some .dir else (d.entries.find? (·.1 == p)).map (·.2)

/-- Sets the entry at a path. -/
def put (d : Disk) (p : Bytes) (e : Entry) : Disk :=
  { d with entries := (d.entries.filter (·.1 != p)) ++ [(p, e)] }

/-- Removes the entry at a path. -/
def drop (d : Disk) (p : Bytes) : Disk :=
  { d with entries := d.entries.filter (·.1 != p) }

/-- The absolute clean form of a path, from the working directory. -/
def absolute (d : Disk) (p : Bytes) : Bytes :=
  if Path.isAbs p then Path.clean p else Path.join [d.cwd, p]

/-- The elements of an absolute clean path. -/
def elements (p : Bytes) : List Bytes := (Path.pieces p).filter (!·.isEmpty)

/-- Follows the elements `rest` from the real directory `dir`: the real path they lead to, with
every link followed (the last one only when `last`). -/
def follow (d : Disk) (last : Bool) : Nat → Bytes → List Bytes → Except Cause Bytes
  | _, dir, [] => .ok dir
  | 0, _, _ => .error .tooManyLinks
  | fuel + 1, dir, e :: rest =>
    let next := Path.join [dir, e]
    match d.entry? next with
    | none => if rest.isEmpty then .ok next else .error .notFound
    | some .dir => follow d last (fuel + 1) next rest
    | some (.file _) => if rest.isEmpty then .ok next else .error .notDirectory
    | some (.link t) =>
      if rest.isEmpty && !last then .ok next
      else
        let target := if Path.isAbs t then Path.clean t else Path.join [dir, t]
        follow d last fuel [Path.slash] (elements target ++ rest)
termination_by fuel _ rest => (fuel, rest.length)

/-- The real path a path leads to. -/
def realPath (d : Disk) (last : Bool) (p : Bytes) : Except Cause Bytes :=
  if p.isEmpty then .error .notFound
  else follow d last 40 [Path.slash] (elements (d.absolute p))

/-- What stands at a path, links followed. -/
def stat (d : Disk) (p : Bytes) : Except Failure Kind :=
  match d.realPath true p with
  | .error c => .error ⟨"stat", p, c⟩
  | .ok r =>
    match d.entry? r with
    | some .dir => .ok .directory
    | some (.file _) => .ok .file
    | _ => .error ⟨"stat", p, .notFound⟩

/-- The content of a file. -/
def readFile (d : Disk) (p : Bytes) : Except Failure Bytes :=
  match d.realPath true p with
  | .error c => .error ⟨"open", p, c⟩
  | .ok r =>
    match d.entry? r with
    | some (.file c) => .ok c
    | some .dir => .error ⟨"read", p, .isDirectory⟩
    | _ => .error ⟨"open", p, .notFound⟩

/-- Creates or empties a file and writes to it. -/
def writeFile (d : Disk) (p c : Bytes) : Except Failure Disk :=
  match d.realPath true p with
  | .error cause => .error ⟨"open", p, cause⟩
  | .ok r =>
    match d.entry? r with
    | some .dir => .error ⟨"open", p, .isDirectory⟩
    | some (.link _) => .error ⟨"open", p, .tooManyLinks⟩
    | _ => .ok (d.put r (.file c))

/-- Makes one directory. -/
def makeDir (d : Disk) (p : Bytes) : Except Failure Disk :=
  match d.realPath false p with
  | .error c => .error ⟨"mkdir", p, c⟩
  | .ok r =>
    match d.entry? r with
    | some _ => .error ⟨"mkdir", p, .alreadyExists⟩
    | none => .ok (d.put r .dir)

/-- The entries strictly below a directory. -/
def below (d : Disk) (r : Bytes) : List (Bytes × Entry) :=
  d.entries.filter fun e => (r ++ [Path.slash]).isPrefixOf e.1

/-- Removes a file, a link or an empty directory. -/
def remove (d : Disk) (p : Bytes) : Except Failure Disk :=
  match d.realPath false p with
  | .error c => .error ⟨"remove", p, c⟩
  | .ok r =>
    match d.entry? r with
    | none => .error ⟨"remove", p, .notFound⟩
    | some .dir => if (d.below r).isEmpty then .ok (d.drop r) else .error ⟨"remove", p, .notEmpty⟩
    | some _ => .ok (d.drop r)

/-- A directory stands at the path itself. -/
def isDirHere (d : Disk) (p : Bytes) : Bool :=
  match d.realPath false p with
  | .ok r => d.entry? r == some .dir
  | .error _ => false

/-- Adds the missing directories on the way to an absolute clean path. -/
def withParents (d : Disk) (p : Bytes) : Disk :=
  let es := elements p
  (List.range es.length).foldl (fun d k =>
    let q := Path.join ([Path.slash] :: es.take k)
    match d.entry? q with
    | none => d.put q .dir
    | some _ => d) d

/-- Places an entry at a path, with the directories on the way. -/
def place (d : Disk) (p : Bytes) (e : Entry) : Disk :=
  let a := d.absolute p
  (d.withParents a).put a e

/-- The entries under a directory, by their paths relative to it, in order of path. -/
def listing (d : Disk) (root : Bytes) : List (Bytes × Entry) :=
  let pre := root ++ [Path.slash]
  let rel := (d.entries.filter fun e => pre.isPrefixOf e.1).map fun e => (e.1.drop pre.length, e.2)
  rel.mergeSort fun a b => Bytes.lexLe a.1 b.1

end Disk

/-- Runs a disk operation that may change the disk. -/
def onDisk (f : Disk → Except Failure Disk) : StateM Disk (Except Failure Unit) :=
  modifyGet fun d =>
    match f d with
    | .ok d' => (.ok (), d')
    | .error e => (.error e, d)

instance : FileSystem (StateM Disk) where
  stat p := do return (← get).stat p
  readFile p := do return (← get).readFile p
  writeFile p c := onDisk (·.writeFile p c)
  makeDir p := onDisk (·.makeDir p)
  remove p := onDisk (·.remove p)
  isDirHere p := do return (← get).isDirHere p
  workDir := do return (← get).cwd
  home := do return (← get).home
  programDir := do return .ok (← get).programDir

end WordSift.Files
