import WordSift.Command.Program

/-!
# The command line

The program on the real file system and standard streams. File operations are the system's,
their failures named by the system's error numbers. The chosen session is then run on standard
input as it arrives: the prompt answers each line as soon as it is read, and the server answers
each request as soon as its bytes are complete, so both work interactively. Everything they
decide is the pure code of `WordSift.Command`; this layer only moves bytes, and draws the
random ids a server gives to requests that come without one.
-/

namespace WordSift.Shell

open Files

/-- A path as the system takes it. -/
def pathText (p : Bytes) : String := Text.lossy p

/-- The system's error number of a failure, when it has one. -/
def errorNumber : IO.Error → Option UInt32
  | .alreadyExists _ n _ | .otherError n _ | .resourceBusy n _ | .resourceVanished n _
  | .unsupportedOperation n _ | .hardwareFault n _ | .unsatisfiedConstraints n _
  | .illegalOperation n _ | .protocolError n _ | .timeExpired n _ | .interrupted _ n _
  | .noFileOrDirectory _ n _ | .invalidArgument _ n _ | .permissionDenied _ n _
  | .resourceExhausted _ n _ | .inappropriateType _ n _ | .noSuchThing _ n _ => some n
  | _ => none

/-- The cause of a failure of the system. -/
def causeOf (e : IO.Error) : Cause :=
  match errorNumber e with
  | some 2 => .notFound
  | some 13 => .permissionDenied
  | some 17 => .alreadyExists
  | some 20 => .notDirectory
  | some 21 => .isDirectory
  | some 39 => .notEmpty
  | some 40 => .tooManyLinks
  | _ => .other (toString e)

/-- Bytes as the system writes them. -/
def byteArray (b : Bytes) : ByteArray := ⟨b.toArray⟩

/-- What stands at a path: a file opens for reading, and reading a directory fails. -/
def kindAt (p : Bytes) : IO Kind := do
  let h ← IO.FS.Handle.mk (pathText p) .read
  try
    let _ ← h.read 1
    return .file
  catch e =>
    if errorNumber e == some 21 then return .directory else return .file

/-- The file operations of the system. -/
instance : FileSystem IO where
  stat p := do
    try return .ok (← kindAt p)
    catch e => return .error ⟨"stat", p, causeOf e⟩
  readFile p := do
    match ← (try pure (Except.ok (← IO.FS.Handle.mk (pathText p) .read))
        catch e => pure (Except.error e)) with
    | .error e => return .error ⟨"open", p, causeOf e⟩
    | .ok h =>
      try return .ok (← h.readBinToEnd).toList
      catch e => return .error ⟨"read", p, causeOf e⟩
  writeFile p content := do
    match ← (try pure (Except.ok (← IO.FS.Handle.mk (pathText p) .write))
        catch e => pure (Except.error e)) with
    | .error e => return .error ⟨"open", p, causeOf e⟩
    | .ok h =>
      try
        h.write (byteArray content)
        h.flush
        return .ok ()
      catch e => return .error ⟨"write", p, causeOf e⟩
  makeDir p := do
    try
      IO.FS.createDir (pathText p)
      return .ok ()
    catch e => return .error ⟨"mkdir", p, causeOf e⟩
  remove p := do
    try
      IO.FS.removeFile (pathText p)
      return .ok ()
    catch e =>
      try
        IO.FS.removeDir (pathText p)
        return .ok ()
      catch _ => return .error ⟨"remove", p, causeOf e⟩
  isDirHere p := do
    try return (← kindAt p) == .directory
    catch _ => return false
  workDir := do return Bytes.ofString (toString (← IO.currentDir))
  home := do
    match ← IO.getEnv "HOME" with
    | some h => return if h.isEmpty then none else some (Bytes.ofString h)
    | none => return none
  programDir := do
    try return .ok (Path.dir (Bytes.ofString (toString (← IO.appPath))))
    catch e => return .error (toString e)

/-- Writes bytes to standard output at once. -/
def emit (b : Bytes) : IO Unit := do
  let out ← IO.getStdout
  out.write (byteArray b)
  out.flush

/-- Reports diagnostics on standard error. -/
def report (b : Bytes) : IO Unit := do
  let err ← IO.getStderr
  err.write (byteArray b)
  err.flush

/-- More bytes of standard input; none at its end. -/
def more : IO Bytes := do
  return (← (← IO.getStdin).read 4096).toList

/-- The next line of standard input after the bytes already read: the line without its line
feed and whether one ended it, and the bytes after it; `none` at the end of the input. -/
partial def nextLine (pending : Bytes) : IO (Option (Bytes × Bool × Bytes)) := do
  match pending.idxOf? Text.lineFeed with
  | some i => return some (pending.take i, true, pending.drop (i + 1))
  | none =>
    let got ← more
    if got.isEmpty then
      return if pending.isEmpty then none else some (pending, false, [])
    else nextLine (pending ++ got)

/-- Answers lines until the input ends or one asks to quit. -/
partial def promptLoop (p : Prompt) (pending : Bytes) : IO UInt32 := do
  emit Prompt.cue
  match ← nextLine pending with
  | none => return 0
  | some (line, ended, rest) =>
    let (p', out, stop) := p.answer (Text.dropReturn line)
    emit out
    if stop || !ended then return 0 else promptLoop p' rest

/-- The text of a version 4 UUID whose random bits are those of the 16 bytes `b`. -/
def uuidText (b : Bytes) : Bytes :=
  let b := (b.set 6 ((b.getD 6 0 &&& 0x0f) ||| 0x40)).set 8 ((b.getD 8 0 &&& 0x3f) ||| 0x80)
  let hex := (Bytes.toHex b).toList
  let group := fun (i n : Nat) => String.ofList ((hex.drop i).take n)
  Bytes.ofString (String.intercalate "-" [group 0 8, group 8 4, group 12 4, group 16 4, group 20 12])

/-- The ids of a serving run: random UUIDs, from a seed drawn for the run with the number of the
id laid over its last bytes, so that the ids of a run differ from one another. -/
def randomIds : IO (Nat → Bytes) := do
  let seed := (← IO.getRandomBytes 16).toList
  return fun k => uuidText (seed.zipWith (· ^^^ ·)
    ((List.range 16).map fun i => UInt8.ofNat (k >>> (8 * (15 - i)))))

/-- Serves requests until the input ends, or a request cannot be read. -/
partial def serveLoop (s : Server.Session) (pending : Bytes) : IO UInt32 := do
  match (Server.Request.read (pending.length + 1)).run pending with
  | .ok (r, rest) =>
    let (s', reply) := s.handle r
    emit reply.encode
    serveLoop s' rest
  | .error .ended | .error .cut =>
    let got ← more
    if got.isEmpty then
      let (replies, e) := s.serve pending
      emit (replies.flatMap Server.Reply.encode)
      match e with
      | none => return 0
      | some msg =>
        report (Command.fatal (Bytes.ofString ("Server error: " ++ msg))).diagnostics
        return 1
    else serveLoop s (pending ++ got)
  | .error f =>
    emit Server.Session.malformed.encode
    report (Command.fatal (Bytes.ofString
      ("Server error: failed to decode request: " ++ f.message))).diagnostics
    return 1

/-- Runs the program with its arguments. -/
def run (args : List String) : IO UInt32 := do
  match ← (Command.prepare args : IO Command.Plan) with
  | .exit e =>
    emit e.out
    report e.diagnostics
    return e.code.toUInt32
  | .prompt p =>
    emit p.greeting
    try promptLoop p []
    catch e =>
      report (Command.fatal (Bytes.ofString ("CLI error: " ++ toString e))).diagnostics
      return 1
  | .serve s => serveLoop { settings := s, ids := ← randomIds } []

end WordSift.Shell

/-- The program's entry point. -/
def main (args : List String) : IO UInt32 := WordSift.Shell.run args
