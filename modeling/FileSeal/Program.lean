import FileSeal.Files
import FileSeal.Filter
import FileSeal.Help

namespace FileSeal

/-- What a run of the program meets. -/
structure Surroundings where
  arguments : List String
  /-- The variable that can name a key file. -/
  keyFileVariable : Option String := none
  /-- The variable that can say what is logged. -/
  logVariable : Option String := none
  input : List Chunk := []
  files : FileSystem
  circumstances : Circumstances
  freshKey : Key
  stamp : String

/-- What a run of the program leaves. -/
structure Outcome where
  exit : UInt32
  output : String
  errors : String
  files : FileSystem
  journal : List Effect

/-- The failure of options that select no key source. -/
def noKeyFault : Fault :=
  .new .user .keyUnavailable "no key given; use --key-file, FILECIPHER_KEY_FILE or --key-stdin"

namespace Invocation

/-- The key source that the options select. The standard input comes first. -/
def keySource (invocation : Invocation) (input : List Chunk) : Except Fault BasicSource :=
  if invocation.keyStdin then .ok (.stream input)
  else match invocation.keyFile with
    | some path => .ok (.file path)
    | none => .error noKeyFault

/-- Whether the run takes its key from the standard input. -/
def readsInput (invocation : Invocation) : Bool :=
  match invocation.command with
  | .keygen _ | .verify .. => false
  | _ => invocation.keyStdin

/-- The paths of all files that the run can look at or change. -/
def paths (invocation : Invocation) : List String :=
  let files := match invocation.command with
    | .keygen output => [output]
    | .encrypt a b | .decrypt a b | .update a b | .verify a b => [a, b]
  files ++ invocation.keyFile.toList

end Invocation

/-- What a command comes to: the text that it prints or its failure, and what it leaves behind. -/
structure Completion where
  result : Except Fault String
  files : FileSystem
  journal : List Effect := []
  events : List Event := []

namespace Completion

/-- Runs a job, which prints a text if it succeeds. -/
def ofJob {σ : Type} (files : FileSystem) (source : σ) (job : Job σ Unit) (printed : String) :
    Completion :=
  let (result, w) := job.run { files, source }
  { result := result.map fun _ => printed, files := w.files, journal := w.journal,
    events := w.events }

end Completion

namespace Surroundings

/-- Runs a job with the key source that the options select. Without one nothing is done. -/
def withKeySource (s : Surroundings) (invocation : Invocation) (job : Job BasicSource Unit) :
    Completion :=
  match invocation.keySource s.input with
  | .ok source => .ofJob s.files source job ""
  | .error fault => { result := .error fault, files := s.files }

def execute (s : Surroundings) (invocation : Invocation) : Completion :=
  let c := s.circumstances
  match invocation.command with
  | .keygen output => .ofJob s.files () (Files.writeKey c.limit output s.freshKey) ""
  | .encrypt input output => s.withKeySource invocation (Files.encrypt c input output)
  | .decrypt input output => s.withKeySource invocation (Files.decrypt c input output)
  | .update input output => s.withKeySource invocation (Files.update c input output)
  | .verify input crypt => .ofJob s.files () (Files.verify input crypt) "digests match\n"

/-- A run that ends without touching any file. -/
def idle (s : Surroundings) (exit : UInt32) (output errors : String) : Outcome :=
  { exit, output, errors, files := s.files, journal := [] }

/-- The end of a run whose command line does not lead to a command. -/
def halt (s : Surroundings) : Halt → Outcome
  | .usage error => s.idle 2 "" s!"error: {error.message}\n\nFor more information, try '--help'.\n"
  | .showVersion => s.idle 0 "filecipher 0.1.0\n" ""
  | .showHelp verb => s.idle 0 (helpText verb) ""
  | .showHelpAsError => s.idle 2 "" (helpText none)

def logLines (s : Surroundings) (invocation : Invocation) (events : List Event) : List String :=
  let filter := Filter.choose s.logVariable invocation.verbosity
  (events.filter filter.allows).map (·.line s.stamp)

/-- Runs the program. The log goes to the standard error output, and a failure after it. -/
def run (s : Surroundings) : Outcome :=
  match Invocation.ofArguments s.keyFileVariable s.arguments with
  | .error halt => s.halt halt
  | .ok invocation =>
    let completion := s.execute invocation
    let lines := s.logLines invocation completion.events
    let files := completion.files
    let journal := completion.journal
    match completion.result with
    | .ok printed =>
      { exit := 0, output := printed, errors := String.join (lines.map (· ++ "\n")), files,
        journal }
    | .error fault =>
      let lines := lines ++ [s!"Error: {fault.description}"]
      { exit := 1, output := "", errors := String.join (lines.map (· ++ "\n")), files, journal }

end Surroundings

end FileSeal
