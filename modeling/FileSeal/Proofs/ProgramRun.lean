import FileSeal.Program
import FileSeal.Proofs.CommandLine
import FileSeal.Proofs.FileRoundTrip

namespace FileSeal

/-- What a command does that needs a key. -/
def Command.keyed? (c : Circumstances) : Command → Option (Job BasicSource Unit)
  | encrypt input output => some (Files.encrypt c input output)
  | decrypt input output => some (Files.decrypt c input output)
  | update input output => some (Files.update c input output)
  | keygen _ | verify .. => none

namespace CommandLine

/-- The source of the key: the standard input, or the key file of the options, or the key file that
the environment names. -/
def source? (line : CommandLine) (environment : Option String) (input : List Chunk) :
    Option BasicSource :=
  if line.keyStdin then some (.stream input)
  else match line.keyFile? with
    | some path => some (.file path)
    | none => (environment.filter (· ≠ "")).map .file

theorem lookup_of_keyFile?_eq_none {line : CommandLine} (h : line.keyFile? = none) :
    line.outer.lookup .keyFile = none ∧ line.inner.lookup .keyFile = none := by
  rw [keyFile?, List.lookup_append, Option.or_eq_none_iff] at h
  exact h.symm

theorem keySource_invocation {line : CommandLine} {environment : Option String}
    (admits : line.Admits environment) (input : List Chunk) :
    (line.invocation environment).keySource input =
      match line.source? environment input with
      | some source => .ok source
      | none => .error noKeyFault := by
  unfold Invocation.keySource source?
  cases stdin : line.keyStdin with
  | true => simp [invocation, stdin]
  | false =>
    cases file : line.keyFile? with
    | some path => simp [invocation, stdin, file]
    | none =>
      rcases environment with _ | path
      · simp [invocation, stdin, file]
      · have filled : path ≠ "" := by
          rintro rfl
          exact admits.2 rfl (lookup_of_keyFile?_eq_none file).2
        have kept : (some path).filter (· ≠ "") = some path := by
          rw [Option.filter_some, if_pos (decide_eq_true filled)]
        rw [kept]
        simp [invocation, stdin, file]

end CommandLine

namespace Surroundings

open Invocation

variable {s : Surroundings} {line : CommandLine} {invocation : Invocation}

theorem run_of_ok (parsed : ofArguments s.keyFileVariable s.arguments = .ok invocation) :
    s.run =
      let completion := s.execute invocation
      let lines := s.logLines invocation completion.events
      match completion.result with
      | .ok printed =>
        { exit := 0
          output := printed
          errors := String.join (lines.map (· ++ "\n"))
          files := completion.files
          journal := completion.journal }
      | .error fault =>
        { exit := 1
          output := ""
          errors := String.join (lines.map (· ++ "\n")) ++ "Error: " ++ fault.description ++ "\n"
          files := completion.files
          journal := completion.journal } := by
  rw [run, parsed]
  dsimp only
  cases (s.execute invocation).result with
  | ok printed => rfl
  | error fault =>
    dsimp only
    rw [List.map_append, String.join_append, String.append_assoc, String.append_assoc]
    rfl

/-- A run of the program ends as a job does. -/
structure EndsAs {σ : Type} (s : Surroundings) (source : σ) (job : Job σ Unit)
    (printed : String) : Prop where
  files : s.run.files = (job.run { files := s.files, source }).2.files
  journal : s.run.journal = (job.run { files := s.files, source }).2.journal
  succeeds : (job.run { files := s.files, source }).1 = .ok () →
    s.run.exit = 0 ∧ s.run.output = printed
  fails : ∀ fault, (job.run { files := s.files, source }).1 = .error fault →
    s.run.exit = 1 ∧ s.run.output = "" ∧
      ∃ log, s.run.errors = log ++ "Error: " ++ fault.description ++ "\n"

theorem endsAs_of_execute {σ : Type} {source : σ} {job : Job σ Unit} {printed : String}
    (parsed : ofArguments s.keyFileVariable s.arguments = .ok invocation)
    (executed : s.execute invocation = .ofJob s.files source job printed) :
    s.EndsAs source job printed := by
  have ended := run_of_ok parsed
  rw [executed, Completion.ofJob] at ended
  rcases ran : job.run { files := s.files, source } with ⟨fault | done, w⟩
  · rw [ran] at ended
    refine ⟨by rw [ended, ran]; rfl, by rw [ended, ran]; rfl, ?_, ?_⟩
    · intro succeeded
      rw [ran] at succeeded
      cases succeeded
    · intro fault' failed
      rw [ran] at failed
      cases failed
      rw [ended]
      exact ⟨rfl, rfl, _, rfl⟩
  · rw [ran] at ended
    refine ⟨by rw [ended, ran]; rfl, by rw [ended, ran]; rfl, fun _ => ?_, ?_⟩
    · rw [ended]
      exact ⟨rfl, rfl⟩
    · intro fault failed
      rw [ran] at failed
      cases failed

theorem run_of_usage {error : UsageError}
    (refused : ofArguments s.keyFileVariable s.arguments = .error (.usage error)) :
    s.run = s.halt (.usage error) := by
  rw [run, refused]

theorem execute_of_keyed {job : Job BasicSource Unit}
    (keyed : invocation.command.keyed? s.circumstances = some job) :
    s.execute invocation = s.withKeySource invocation job := by
  unfold execute
  cases command : invocation.command <;> rw [command] at keyed <;> cases keyed <;> rfl

/-- A command that needs a key works with the source that the options select. -/
theorem execute_invocation_of_keyed {job : Job BasicSource Unit}
    (admits : line.Admits s.keyFileVariable)
    (keyed : line.command.keyed? s.circumstances = some job) :
    s.execute (line.invocation s.keyFileVariable) =
      match line.source? s.keyFileVariable s.input with
      | some source => .ofJob s.files source job ""
      | none => { result := .error noKeyFault, files := s.files } := by
  have executed : s.execute (line.invocation s.keyFileVariable) = s.withKeySource _ job :=
    execute_of_keyed keyed
  rw [executed, withKeySource, CommandLine.keySource_invocation admits]
  cases line.source? s.keyFileVariable s.input <;> rfl

theorem run_of_noKeyFault (parsed : ofArguments s.keyFileVariable s.arguments = .ok invocation)
    (executed : s.execute invocation = { result := .error noKeyFault, files := s.files }) :
    s.run = s.idle 1 ""
      "Error: no key given; use --key-file, FILECIPHER_KEY_FILE or --key-stdin\n" := by
  rw [run_of_ok parsed, executed]
  rfl

/-- A run on one file that everyone may read, with a key on the standard input. -/
def oneFileRun (arguments : List String) (named : Option String) : Surroundings where
  arguments
  keyFileVariable := named
  input := [.data (List.replicate 32 17)]
  files := { nodes := [(["p"], .file 0o644 [104, 105])], working := [] }
  circumstances := { iv := Octets.replicate 16 1, endings := [] }
  freshKey := ⟨Octets.replicate 32 0⟩
  stamp := ""

/-- A command line that is to encrypt one file into another. -/
def encryptLine (outer : List (Switch × String)) (compatible : Compatible outer) :
    CommandLine where
  outer
  command := .encrypt "p" "q"
  inner := [(.input, "p"), (.output, "q")]
  outer_compatible := compatible
  inner_compatible := ⟨by intro switch; cases switch <;> decide, by decide⟩
  named := List.Subset.refl _

theorem reads_encryptLine {front : List String} {outer : List (Switch × String)}
    (compatible : Compatible outer) (spells : Spells none front outer) :
    (encryptLine outer compatible).Reads (front ++ ["e", "-i", "p", "--output=q"]) := by
  have free : IsFree "p" := by
    intro letter rest same
    simp at same
  let line := encryptLine outer compatible
  have inner : Spells (some line.command.verb) ["-i", "p", "--output=q"] line.inner :=
    .apart (.head _) rfl (.short rfl) free (.attached (.tail _ (.head _)) rfl .long .nil)
  have name : "e" ∈ line.command.verb.names := .tail _ (.head _)
  exact .intro spells name inner (.inl rfl)

theorem compatible_keyStdin : Compatible [(.keyStdin, "")] :=
  ⟨by intro switch; cases switch <;> decide, by decide⟩

theorem reads_keyStdin : (encryptLine _ compatible_keyStdin).Reads
    ["--key-stdin", "e", "-i", "p", "--output=q"] :=
  reads_encryptLine compatible_keyStdin (.flag (by decide) (.inl rfl) .long .nil)

theorem encrypt_oneFileRun (arguments : List String) (named : Option String) :
    let s := oneFileRun arguments named
    ((Files.encrypt s.circumstances "p" "q").run
      { files := s.files, source := BasicSource.stream s.input }).1 = .ok () := by
  intro s
  have answered : ({ files := s.files, source := .stream s.input } : Workspace BasicSource).answer =
      .ok ⟨Octets.replicate 32 17⟩ := rfl
  exact Files.encrypt_succeeds rfl answered rfl rfl

/-- The program does what the library does with the key that the options select. Its options can
stand before the command and after it. A key file that the environment names by the empty string is
an error of usage where the options name none. -/
theorem run_follows_options (s : Surroundings) :
    (Accepts (ofArguments s.keyFileVariable s.arguments) ↔
      ∃ line : CommandLine, line.Reads s.arguments ∧ line.Admits s.keyFileVariable) ∧
    ∀ line : CommandLine, line.Reads s.arguments →
      (line.keyStdin ∧ line.keyFile?.isSome ∨ ¬ line.Admits s.keyFileVariable →
        s.run.exit = 2 ∧ s.run.output = "" ∧ s.run.files = s.files ∧ s.run.journal = []) ∧
      (¬ (line.keyStdin ∧ line.keyFile?.isSome) → line.Admits s.keyFileVariable →
        (∀ job, line.command.keyed? s.circumstances = some job →
          (∀ source, line.source? s.keyFileVariable s.input = some source →
            s.EndsAs source job "") ∧
          (line.source? s.keyFileVariable s.input = none →
            s.run = s.idle 1 ""
              "Error: no key given; use --key-file, FILECIPHER_KEY_FILE or --key-stdin\n")) ∧
        (∀ output, line.command = .keygen output →
          s.EndsAs () (Files.writeKey s.circumstances.limit output s.freshKey) "") ∧
        (∀ input crypt, line.command = .verify input crypt →
          s.EndsAs () (Files.verify input crypt) "digests match\n")) := by
  refine ⟨CommandLine.accepts_iff, fun line reads => ⟨?_, ?_⟩⟩
  · intro refused
    obtain ⟨error, failed⟩ :
        ∃ error, ofArguments s.keyFileVariable s.arguments = .error (.usage error) := by
      by_cases admits : line.Admits s.keyFileVariable
      · rcases refused with conflict | refuses
        · exact ⟨_, ((CommandLine.ofArguments_of_reads reads).1 admits).trans (if_pos conflict)⟩
        · exact absurd admits refuses
      · exact ⟨_, (CommandLine.ofArguments_of_reads reads).2 admits⟩
    rw [run_of_usage failed]
    exact ⟨rfl, rfl, rfl, rfl⟩
  · intro noConflict admits
    have parsed := ((CommandLine.ofArguments_of_reads reads).1 admits).trans (if_neg noConflict)
    refine ⟨fun job keyed => ?_, fun output command => ?_, fun input crypt command => ?_⟩
    · have executed := execute_invocation_of_keyed admits keyed
      refine ⟨fun source selected => ?_, fun selected => ?_⟩
      · rw [selected] at executed
        exact endsAs_of_execute parsed executed
      · rw [selected] at executed
        exact run_of_noKeyFault parsed executed
    · apply endsAs_of_execute parsed
      simp only [execute, CommandLine.invocation, command]
    · apply endsAs_of_execute parsed
      simp only [execute, CommandLine.invocation, command]

/-- With the key on the standard input a file is encrypted, whatever file the environment names. A
key file as well makes the run fail, and so does no key at all. -/
theorem run_follows_options_oneFile :
    (oneFileRun ["--key-stdin", "e", "-i", "p", "--output=q"] (some "k")).run.exit = 0 ∧
    (oneFileRun ["--key-file=k", "--key-stdin", "e", "-i", "p", "--output=q"] none).run.exit = 2 ∧
    (oneFileRun ["e", "-i", "p", "--output=q"] none).run.exit = 1 := by
  refine ⟨?_, ?_, ?_⟩
  · have admits : (encryptLine _ compatible_keyStdin).Admits (some "k") := by
      constructor <;> exact fun same => absurd same (by decide)
    obtain ⟨-, follows⟩ := run_follows_options
      (oneFileRun ["--key-stdin", "e", "-i", "p", "--output=q"] (some "k"))
    obtain ⟨keyed, -, -⟩ := (follows _ reads_keyStdin).2 (fun both => nomatch both.2) admits
    obtain ⟨selected, -⟩ := keyed _ rfl
    exact ((selected _ rfl).succeeds (encrypt_oneFileRun _ _)).1
  · have compatible : Compatible [(.keyFile, "k"), (.keyStdin, "")] :=
      ⟨by intro switch; cases switch <;> decide, by decide⟩
    have reads := reads_encryptLine compatible
      (.attached (by decide) rfl .long (.flag (by decide) (.inl rfl) .long .nil))
    obtain ⟨-, follows⟩ := run_follows_options
      (oneFileRun ["--key-file=k", "--key-stdin", "e", "-i", "p", "--output=q"] none)
    exact ((follows _ reads).1 (.inl ⟨rfl, rfl⟩)).1
  · have reads := reads_encryptLine .nil .nil
    have admits : (encryptLine [] .nil).Admits none := by
      constructor <;> exact nofun
    obtain ⟨-, follows⟩ := run_follows_options
      (oneFileRun ["e", "-i", "p", "--output=q"] none)
    obtain ⟨keyed, -, -⟩ := (follows _ reads).2 (fun both => nomatch both.2) admits
    rw [(keyed _ rfl).2 rfl]
    rfl

theorem execute_of_stdin (stdin : invocation.keyStdin) (keyFile : Option String) :
    s.execute { invocation with keyFile } = s.execute invocation := by
  unfold execute
  cases invocation.command <;> simp [withKeySource, keySource, stdin]

theorem exit_of_ok (parsed : ofArguments s.keyFileVariable s.arguments = .ok invocation) :
    s.run.exit ≠ 2 := by
  rw [run_of_ok parsed]
  dsimp only
  cases (s.execute invocation).result with
  | ok printed => exact (by decide : (0 : UInt32) ≠ 2)
  | error fault => exact (by decide : (1 : UInt32) ≠ 2)

/-- The key file that the environment names makes no difference to a run that takes its key from the
standard input. -/
theorem run_eq_of_stdin (stdin : line.keyStdin) (noFile : line.keyFile? = none)
    {first second : Option String}
    (parsed : ofArguments first s.arguments = .ok (line.invocation first))
    (parsed' : ofArguments second s.arguments = .ok (line.invocation second)) :
    { s with keyFileVariable := first }.run = { s with keyFileVariable := second }.run := by
  let s' : Surroundings := { s with keyFileVariable := first }
  let s'' : Surroundings := { s with keyFileVariable := second }
  have same : line.invocation first = { line.invocation second with keyFile := first } := by
    simp [CommandLine.invocation, noFile]
  have executed : s'.execute (line.invocation first) = s''.execute (line.invocation second) := by
    rw [same]
    exact execute_of_stdin stdin first
  have lines : s'.logLines (line.invocation first) = s''.logLines (line.invocation second) := by
    rw [same]
    rfl
  have ended : s'.run = _ := run_of_ok parsed
  have ended' : s''.run = _ := run_of_ok parsed'
  show s'.run = s''.run
  rw [ended, ended', executed, lines]

/-- Two runs on one command line that take the key from the standard input are the same, unless just
one of them has a variable that is set to the empty string. That one fails before it has begun. -/
theorem run_of_stdin (s : Surroundings) (line : CommandLine) (reads : line.Reads s.arguments)
    (stdin : line.keyStdin) (noFile : line.keyFile? = none) :
    (∀ first second : Option String,
      { s with keyFileVariable := first }.run = { s with keyFileVariable := second }.run ↔
        (first = some "" ↔ second = some "")) ∧
    { s with keyFileVariable := some "" }.run =
      s.idle 2 "" ("error: a value is required for '--key-file <FILE>' but none was supplied\n\n" ++
        "For more information, try '--help'.\n") := by
  have noConflict : ¬ (line.keyStdin ∧ line.keyFile?.isSome) := by simp [noFile]
  have parsed : ∀ named, named ≠ some "" →
      ofArguments named s.arguments = .ok (line.invocation named) := by
    intro named filled
    have admits : line.Admits named :=
      ⟨fun empty => absurd empty filled, fun empty => absurd empty filled⟩
    exact ((CommandLine.ofArguments_of_reads reads).1 admits).trans (if_neg noConflict)
  have empty : { s with keyFileVariable := some "" }.run =
      s.idle 2 "" ("error: a value is required for '--key-file <FILE>' but none was supplied\n\n" ++
        "For more information, try '--help'.\n") := by
    have refuses : ¬ line.Admits (some "") := by
      intro admits
      exact admits.1 rfl (CommandLine.lookup_of_keyFile?_eq_none noFile).1
    have failed := (CommandLine.ofArguments_of_reads reads).2 refuses
    rw [run_of_usage failed]
    rfl
  have exits : ∀ named, { s with keyFileVariable := named }.run.exit = 2 ↔ named = some "" := by
    intro named
    constructor
    · intro refused
      by_cases blank : named = some ""
      · exact blank
      · have accepted : { s with keyFileVariable := named }.run.exit ≠ 2 :=
          exit_of_ok (parsed named blank)
        exact absurd refused accepted
    · rintro rfl
      exact congrArg Outcome.exit empty
  refine ⟨fun first second => ⟨fun same => ?_, fun same => ?_⟩, empty⟩
  · rw [← exits first, ← exits second, same]
  · by_cases blank : first = some ""
    · rw [blank, same.mp blank]
    · exact run_eq_of_stdin stdin noFile (parsed first blank)
        (parsed second fun blank' => blank (same.mpr blank'))

/-- It makes no difference that the environment names a file that is not there. -/
theorem run_of_stdin_oneFile :
    let arguments := ["--key-stdin", "e", "-i", "p", "--output=q"]
    (oneFileRun arguments (some "k")).run = (oneFileRun arguments none).run ∧
      (oneFileRun arguments (some "")).run.output = "" := by
  intro arguments
  obtain ⟨alike, empty⟩ := run_of_stdin (oneFileRun arguments none) _ reads_keyStdin rfl rfl
  exact ⟨(alike (some "k") none).mpr (by decide), congrArg Outcome.output empty⟩

/-- A variable that is set to the empty string is not ignored. -/
theorem empty_variable_not_ignored :
    ¬ ∀ (s : Surroundings) (line : CommandLine), line.Reads s.arguments → line.keyStdin →
      line.keyFile? = none → ∀ first second : Option String,
        { s with keyFileVariable := first }.run = { s with keyFileVariable := second }.run := by
  intro ignored
  let arguments := ["--key-stdin", "e", "-i", "p", "--output=q"]
  have same : (oneFileRun arguments (some "")).run = (oneFileRun arguments none).run :=
    ignored (oneFileRun arguments none) _ reads_keyStdin rfl rfl (some "") none
  have ends : (oneFileRun arguments none).EndsAs _ _ "" :=
    endsAs_of_execute (rfl : ofArguments none arguments = .ok ⟨.encrypt "p" "q", none, true, 0⟩) rfl
  have succeeds : (oneFileRun arguments none).run.exit = 0 :=
    (ends.succeeds (encrypt_oneFileRun arguments none)).1
  have fails : (oneFileRun arguments (some "")).run.exit = 2 := rfl
  rw [same, succeeds] at fails
  exact absurd fails (by decide)

end Surroundings

end FileSeal
