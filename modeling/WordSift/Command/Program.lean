import WordSift.Command.Options
import WordSift.Settings.Files
import WordSift.WordList.Files
import WordSift.Prompt
import WordSift.Server.Session
import WordSift.Files.Disk

/-!
# The program

A run reads its options, then its settings (the given file, else the file of the settings
directory), lays the options that were given over them, and checks them. It then serves
requests on its input (`-s`), or loads the word list and answers patterns typed on its input
(`-c`), or by default loads the word list, selects with its pattern and writes the result to
the output file. `-version` prints the banner before anything else happens.

A run ends with code 0 on success, also for `-version` and a request for help, with 2 when
the options do not read, and with 1 for any other failure: settings out of range, a word list
that cannot be loaded, a pattern that does not compile, an output file that cannot be written,
or a request that cannot be read. Everything up to the choice of the session is `prepare`,
which works on any file system; `finish` runs the session over the whole input. The ids a
server gives to requests without one come from a source the caller of `finish` supplies.
-/

namespace WordSift.Command

open Files

/-- The version of the program. -/
def version : String := "0.3.0"

/-- Where the program's sources are published. -/
def homePage : String := "https://github.com/bastiangx/wordmatch"

/-- The text `-version` prints. -/
def banner : Bytes :=
  logLine none [] ++
  logLine none (Bytes.ofString "[ WordMatch ] Pattern matching and LCS over a word trie") ++
  logLine none [] [("version", version)] ++
  logLine none [] ++
  logLine none (Bytes.ofString "use -h or --help to see available options") ++
  logLine none (Bytes.ofString "Github Repo") [("gh", homePage)]

/-- A summary of the options, printed with a request for help or a bad option. -/
def usage : Bytes := Bytes.ofString <|
  "Usage of wordmatch:\n" ++
  "  -c\tRun CLI to try patterns interactively\n" ++
  "  -config string\n    \tConfig file path (TOML or YAML)\n" ++
  "  -d\tToggle debug mode\n" ++
  "  -in string\n    \tInput artifact: word count, words, pattern (default \"input.txt\")\n" ++
  "  -max int\n    \tNumber of matched words compared for the LCS (1 to 3) (default 3)\n" ++
  "  -out string\n    \tOutput artifact for the LCS (default \"output.txt\")\n" ++
  "  -prune\n    \tStop the trie walk once enough words matched\n" ++
  "  -s\tRun the msgpack IPC server on stdin/stdout\n" ++
  "  -version\n    \tShow current version\n"

/-- How a run ends: its exit code, what it printed, and the diagnostics it reported. -/
structure Exit where
  code : Nat
  out : Bytes := []
  diagnostics : Bytes := []
deriving DecidableEq, Repr

/-- The end of a run that failed with a message. -/
def fatal (msg : Bytes) : Exit := ⟨1, [], logLine (some .fatal) msg⟩

/-- What a run does once its settings are known. -/
inductive Plan where
  /-- Ends at once. -/
  | exit (e : Exit)
  /-- Answers patterns typed on the input. -/
  | prompt (p : Prompt)
  /-- Serves requests read from the input, with these settings. -/
  | serve (s : Settings)

/-- The settings with the options that were given laid over them. -/
def Options.over (o : Options) (s : Settings) : Settings :=
  { s with
    io := { input := o.input.getD s.io.input, output := o.output.getD s.io.output }
    matching := { s.matching with
      compare := o.compare.getD s.matching.compare
      prune := o.prune.getD s.matching.prune } }

/-- A selector with the matching settings. -/
def selectorOf (s : Settings) : Selector :=
  Selector.new s.matching.compare s.matching.prune s.matching.fold

variable {m : Type → Type} [Monad m] [FileSystem m]

/-- The default session: loads the word list, selects with its pattern and writes the result. -/
def batch (s : Settings) : m Exit := do
  match ← WordList.load s.io.input with
  | .error e => return fatal e.message
  | .ok l =>
    match ((selectorOf s).load l.words).1.select l.pattern with
    | .error e => return fatal (Bytes.ofString e.message)
    | .ok r =>
      match ← writeResult s.io.output r.output with
      | .error e => return fatal e
      | .ok () => return ⟨0, [], []⟩

/-- Reads the options and settings of a run and chooses its session; the default session is
run here, since it needs only the files. -/
def prepare (args : List String) : m Plan := do
  match parse args with
  | .help => return .exit ⟨0, [], usage⟩
  | .bad msg => return .exit ⟨2, [], Bytes.ofString (msg ++ "\n") ++ usage⟩
  | .run o =>
    if o.version then return .exit ⟨0, banner, []⟩
    else
      let s := o.over (← Settings.loadPreferred o.config).1
      match Settings.check s with
      | _ :: _ => return .exit (fatal (Bytes.ofString
        ("Invalid configuration:\n" ++ Settings.Problem.report (Settings.check s))))
      | [] =>
        if o.serve then return .serve s
        else if o.prompt then
          match ← WordList.load s.io.input with
          | .error e => return .exit (fatal (Bytes.ofString "CLI error: " ++ e.message))
          | .ok l =>
            let sel := ((selectorOf s).load l.words).1
            return .prompt ⟨sel, some l.index, s.server.maxPatternLen, 0⟩
        else return .exit (← batch s)

/-- Runs the chosen session over the whole input; a server takes its ids from `ids`. -/
def finish (ids : Nat → Bytes) (plan : Plan) (input : Bytes) : Exit :=
  match plan with
  | .exit e => e
  | .prompt p =>
    match p.run ⟨input, none⟩ with
    | (out, none) => ⟨0, out, []⟩
    | (out, some e) => { fatal (Bytes.ofString "CLI error: " ++ e) with out := out }
  | .serve s =>
    let (replies, e) := ({ settings := s, ids := ids } : Server.Session).serve input
    let out := replies.flatMap Server.Reply.encode
    match e with
    | none => ⟨0, out, []⟩
    | some msg => { fatal (Bytes.ofString ("Server error: " ++ msg)) with out := out }

/-- A whole run on a modelled disk, a server taking its ids from `ids`: how it ended and the
disk after it. -/
def runOnDisk (ids : Nat → Bytes) (d : Disk) (args : List String) (input : Bytes) : Exit × Disk :=
  let (plan, d') := (prepare args : StateM Disk Plan).run d
  (finish ids plan input, d')

end WordSift.Command
