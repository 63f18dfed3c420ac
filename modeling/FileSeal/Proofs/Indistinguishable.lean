import FileSeal.Proofs.LengthsOnly
import FileSeal.Proofs.ProgramRun

namespace FileSeal

open FileSystem Invocation

/-- Two sources that options select from streams of one length. -/
theorem Invocation.agree_keySource (invocation : Invocation) {input input' : List Chunk}
    (length : SameLength (readToEnd input).1 (readToEnd input').1) :
    Agree BasicSource.Same (invocation.keySource input) (invocation.keySource input') := by
  unfold keySource
  cases invocation.keyStdin with
  | true => exact .ok (.stream length)
  | false =>
    cases invocation.keyFile with
    | none => exact .error _
    | some path => exact .ok (.file path)

namespace Completion

/-- The exit code of a run that comes to a completion. -/
def exit (completion : Completion) : UInt32 :=
  match completion.result with
  | .ok _ => 0
  | .error _ => 1

def output (completion : Completion) : String :=
  match completion.result with
  | .ok printed => printed
  | .error _ => ""

/-- The line about a failure, after the log. -/
def complaint (completion : Completion) : String :=
  match completion.result with
  | .ok _ => ""
  | .error fault => "Error: " ++ fault.description ++ "\n"

end Completion

/-- Two completions of a command that differ in the bytes of files at most. -/
structure Completion.Alike (first second : Completion) : Prop where
  result : first.result = second.result
  events : first.events = second.events
  files : SameShape first.files second.files

theorem Completion.alike_ofJob {fs fs' : FileSystem} {source source' : BasicSource}
    {job job' : Job BasicSource Unit} (printed : String)
    (ends : Files.EndAlike (job.run { files := fs, source })
      (job'.run { files := fs', source := source' })) :
    Completion.Alike (.ofJob fs source job printed) (.ofJob fs' source' job' printed) where
  result := by
    show Except.map _ (job.run _).1 = Except.map _ (job'.run _).1
    rw [ends.result]
  events := ends.events
  files := ends.files

theorem Workspace.alike_of_same {fs fs' : FileSystem} (shape : SameShape fs fs')
    {source source' : BasicSource} (same : BasicSource.Same source source') :
    Workspace.Alike { files := fs, source } { files := fs', source := source' } where
  files := shape
  answer := same.failAlike shape
  asking := same.events shape
  events := rfl

namespace Surroundings

/-- Two runs that are told the same and find trees of one shape. The bytes of keys and files may
differ, and so may initialization vectors, random names and the time. -/
structure Alike (s s' : Surroundings) : Prop where
  arguments : s.arguments = s'.arguments
  keyFileVariable : s.keyFileVariable = s'.keyFileVariable
  logVariable : s.logVariable = s'.logVariable
  input : SameLength (readToEnd s.input).1 (readToEnd s'.input).1
  files : SameShape s.files s'.files
  limit : s.circumstances.limit = s'.circumstances.limit

/-- Whatever sources the options select, the runs open their records alike. -/
def OpensAlike (s s' : Surroundings) (invocation : Invocation) (path : String) : Prop :=
  ∀ source source', invocation.keySource s.input = .ok source →
    invocation.keySource s'.input = .ok source' →
      Files.OpensAlike path ({ files := s.files, source } : Workspace BasicSource)
        { files := s'.files, source := source' }

/-- What is asked of two runs besides that they are alike: nothing of an encryption, but in a
decryption and in an update both keys have to open the records. -/
def Comparable (s s' : Surroundings) (invocation : Invocation) : Prop :=
  match invocation.command with
  | .encrypt .. => True
  | .decrypt input _ => OpensAlike s s' invocation input
  | .update plain crypt => OpensAlike s s' invocation crypt ∧
    Files.NamesAlike s.circumstances s'.circumstances plain crypt s.files s'.files
  | .keygen _ | .verify .. => False

/-- Two runs that cannot be told apart by what they print and by the shape of what they leave,
except by the time. -/
structure Indistinguishable (s s' : Surroundings) : Prop where
  exit : s.run.exit = s'.run.exit
  output : s.run.output = s'.run.output
  errors : { s with stamp := s'.stamp }.run.errors = s'.run.errors
  files : SameShape s.run.files s'.run.files

variable {s s' : Surroundings} {invocation : Invocation}

theorem withKeySource_alike (alike : s.Alike s') {job job' : Job BasicSource Unit}
    (ends : ∀ source source', invocation.keySource s.input = .ok source →
      invocation.keySource s'.input = .ok source' → BasicSource.Same source source' →
        Files.EndAlike (job.run { files := s.files, source })
          (job'.run { files := s'.files, source := source' })) :
    Completion.Alike (s.withKeySource invocation job) (s'.withKeySource invocation job') := by
  have sources := invocation.agree_keySource alike.input
  unfold withKeySource
  generalize invocation.keySource s.input = x, invocation.keySource s'.input = y at sources ends
  cases sources with
  | error fault => exact ⟨rfl, rfl, alike.files⟩
  | ok same => exact Completion.alike_ofJob "" (ends _ _ rfl rfl same)

theorem execute_alike (alike : s.Alike s') (comparable : Comparable s s' invocation) :
    Completion.Alike (s.execute invocation) (s'.execute invocation) := by
  unfold Comparable at comparable
  unfold execute
  cases command : invocation.command with
  | encrypt input output =>
    refine withKeySource_alike alike fun source source' _ _ same => ?_
    exact Files.encrypt_alike (Workspace.alike_of_same alike.files same) alike.limit input output
  | decrypt input output =>
    rw [command] at comparable
    refine withKeySource_alike alike fun source source' selected selected' same => ?_
    exact Files.decrypt_alike (Workspace.alike_of_same alike.files same) alike.limit
      (comparable source source' selected selected') output
  | update plain crypt =>
    rw [command] at comparable
    refine withKeySource_alike alike fun source source' selected selected' same => ?_
    exact Files.update_alike (Workspace.alike_of_same alike.files same) alike.limit
      (comparable.1 source source' selected selected') comparable.2
  | keygen output =>
    rw [command] at comparable
    exact comparable.elim
  | verify input crypt =>
    rw [command] at comparable
    exact comparable.elim

theorem indistinguishable_of_halt {halt : Halt}
    (parsed : ofArguments s.keyFileVariable s.arguments = .error halt)
    (parsed' : ofArguments s'.keyFileVariable s'.arguments = .error halt)
    (shape : SameShape s.files s'.files) : Indistinguishable s s' := by
  let later : Surroundings := { s with stamp := s'.stamp }
  have ended : s.run = s.halt halt := by rw [run, parsed]
  have ended' : s'.run = s'.halt halt := by rw [run, parsed']
  have endedLater : later.run = later.halt halt := by
    rw [run, show ofArguments later.keyFileVariable later.arguments = .error halt from parsed]
  constructor
  · rw [ended, ended']
    cases halt <;> rfl
  · rw [ended, ended']
    cases halt <;> rfl
  · rw [endedLater, ended']
    cases halt <;> rfl
  · rw [ended, ended']
    cases halt <;> exact shape

theorem run_of_execute (parsed : ofArguments s.keyFileVariable s.arguments = .ok invocation) :
    s.run =
      let completion := s.execute invocation
      let lines := s.logLines invocation completion.events
      { exit := completion.exit
        output := completion.output
        errors := String.join (lines.map (· ++ "\n")) ++ completion.complaint
        files := completion.files
        journal := completion.journal } := by
  rw [run_of_ok parsed]
  dsimp only [Completion.exit, Completion.output, Completion.complaint]
  cases (s.execute invocation).result with
  | ok printed => simp
  | error fault => simp [String.append_assoc]

theorem indistinguishable_of_execute
    (parsed : ofArguments s.keyFileVariable s.arguments = .ok invocation)
    (parsed' : ofArguments s'.keyFileVariable s'.arguments = .ok invocation)
    (logged : s.logVariable = s'.logVariable)
    (alike : Completion.Alike (s.execute invocation) (s'.execute invocation)) :
    Indistinguishable s s' := by
  have ended := run_of_execute parsed
  have ended' := run_of_execute parsed'
  constructor
  · rw [ended, ended']
    dsimp only [Completion.exit]
    rw [alike.result]
  · rw [ended, ended']
    dsimp only [Completion.output]
    rw [alike.result]
  · let later : Surroundings := { s with stamp := s'.stamp }
    have endedLater : later.run = _ := run_of_execute parsed
    have executed : later.execute invocation = s.execute invocation := rfl
    rw [endedLater, ended', executed]
    dsimp only [Completion.complaint, logLines]
    rw [alike.result, alike.events, show later.logVariable = s'.logVariable from logged]
  · rw [ended, ended']
    exact alike.files

/-- What a run prints and the shape of what it leaves depend on the lengths of keys and of files
alone. Two runs on the same command line that find the same paths, permission bits and sizes end
alike, whatever keys, contents and initialization vectors they work with; a decryption and an update
do so as long as both keys open the records, to messages of one length. -/
theorem run_depends_on_lengths (alike : s.Alike s')
    (comparable : ∀ invocation, ofArguments s.keyFileVariable s.arguments = .ok invocation →
      Comparable s s' invocation) : Indistinguishable s s' := by
  cases parsed : ofArguments s.keyFileVariable s.arguments with
  | error halt =>
    have parsed' := parsed
    rw [alike.keyFileVariable, alike.arguments] at parsed'
    exact indistinguishable_of_halt parsed parsed' alike.files
  | ok invocation =>
    have parsed' := parsed
    rw [alike.keyFileVariable, alike.arguments] at parsed'
    exact indistinguishable_of_execute parsed parsed' alike.logVariable
      (execute_alike alike (comparable invocation parsed))

/-- A run that is to put the contents of one file into the record in another, with a key from a
third one, and logs all that it can. -/
def updatingRun (key : Key) (stored contents : Bytes) (iv : Block) (ending : String) :
    Surroundings where
  arguments := ["-vvv", "update", "-i", "p", "-o", "q", "--key-file", "k"]
  files := (((FileSystem.mk [] []).put ["p"] (.file 0o644 contents)).put ["q"]
    (.file 0o640 stored)).put ["k"] (.file 0o600 key.toBytes)
  circumstances := { iv, endings := [ending] }
  freshKey := key
  stamp := ending

section Updating

variable (key : Key) (record : Record) (contents : Bytes) (iv : Block) (ending : String)

/-- The place where the run begins its work. -/
def updatingStart : Workspace BasicSource where
  files := (updatingRun key record.toBytes contents iv ending).files
  source := .file "k"

theorem answer_updatingStart :
    (updatingStart key record contents iv ending).answer = .ok key := by
  have read : (updatingStart key record contents iv ending).files.read "k" = .ok key.toBytes := rfl
  have answered := BasicSource.result_read_file_of_ok read
  rw [key.ofBytes_toBytes] at answered
  exact answered

theorem recordAndKey_updatingStart :
    Files.recordAndKey "q" (updatingStart key record contents iv ending) = .ok (record, key) := by
  have read : (updatingStart key record contents iv ending).files.read "q" =
    .ok record.toBytes := rfl
  exact Files.recordAndKey_eq_ok_iff.mpr ⟨record.toBytes, read, record.ofBytes_toBytes,
    answer_updatingStart key record contents iv ending⟩

theorem unguessed_updatingRun {temporary : Location}
    (place : Files.TemporaryFor (updatingStart key record contents iv ending).files "q" [ending]
      temporary)
    (unnamed : temporaryStem ++ ending ≠ "p") :
    Files.Unguessed { iv, endings := [ending] } "p" "q"
      (updatingStart key record contents iv ending).files where
  left := by
    have found : Files.temporaryPlace { iv, endings := [ending] } "q"
        (updatingStart key record contents iv ending).files = .ok temporary :=
      Files.temporaryPlace_eq_ok_iff.mpr place
    rw [found]
    exact nofun
  unnamed := by
    intro tried mem path parsed
    cases List.mem_singleton.mp mem
    have named : Path.ofText "p" = .ok ⟨false, [], some "p", false⟩ := rfl
    cases parsed.symm.trans named
    exact ⟨List.not_mem_nil, fun same => unnamed (Option.some.inj same).symm⟩

theorem updatable_updatingStart {old : Bytes} {temporary : Location}
    (opens : key.tryDecrypt record = .ok old)
    (place : Files.TemporaryFor (updatingStart key record contents iv ending).files "q" [ending]
      temporary) :
    Files.Updatable { iv, endings := [ending] } "p" "q"
      (updatingStart key record contents iv ending) ["q"] key contents where
  opens :=
    { leads := by
        have found : (updatingStart key record contents iv ending).files.find "q" =
          .ok (["q"], 0o640, record.toBytes) := rfl
        exact (FileSystem.find_eq_ok_iff.mp found).1
      answered := answer_updatingStart key record contents iv ending
      accepted := ⟨record.toBytes, old, rfl, by
        simp [Key.decrypt, Key.decryptRecord, Record.ofBytes_toBytes, opens, bind, Except.bind]⟩ }
  temporary := ⟨temporary, place⟩
  contents := rfl
  room := rfl

theorem exit_updatingRun {old : Bytes} {temporary : Location}
    (opens : key.tryDecrypt record = .ok old)
    (place : Files.TemporaryFor (updatingStart key record contents iv ending).files "q" [ending]
      temporary) :
    (updatingRun key record.toBytes contents iv ending).run.exit = 0 := by
  let s := updatingRun key record.toBytes contents iv ending
  have parsed : ofArguments s.keyFileVariable s.arguments =
    .ok ⟨.update "p" "q", some "k", false, 3⟩ := rfl
  have executed : s.execute ⟨.update "p" "q", some "k", false, 3⟩ =
    .ofJob s.files (BasicSource.file "k") (Files.update s.circumstances "p" "q") "" := rfl
  have done := Files.update_of_updatable
    (updatable_updatingStart key record contents iv ending opens place)
  exact ((endsAs_of_execute parsed executed).succeeds done).1

end Updating

theorem comparable_updatingRun {key key' : Key} {record record' : Record} {old old' : Bytes}
    (contents contents' : Bytes) (iv iv' : Block)
    (opens : key.tryDecrypt record = .ok old) (opens' : key'.tryDecrypt record' = .ok old')
    (length : old.length = old'.length) (invocation : Invocation)
    (parsed : ofArguments none ["-vvv", "update", "-i", "p", "-o", "q", "--key-file", "k"] =
      .ok invocation) :
    Comparable (updatingRun key record.toBytes contents iv "aBcDeF")
      (updatingRun key' record'.toBytes contents' iv' "gHiJkL") invocation := by
  have asked : ofArguments none ["-vvv", "update", "-i", "p", "-o", "q", "--key-file", "k"] =
    .ok ⟨.update "p" "q", some "k", false, 3⟩ := rfl
  cases parsed.symm.trans asked
  refine ⟨fun source source' selected selected' => ?_, .inr ⟨?_, ?_⟩⟩
  · cases selected
    cases selected'
    intro found found' first second
    cases first.symm.trans (recordAndKey_updatingStart key record contents iv "aBcDeF")
    cases second.symm.trans (recordAndKey_updatingStart key' record' contents' iv' "gHiJkL")
    exact ⟨old, old', opens, opens', length⟩
  · exact unguessed_updatingRun key record contents iv "aBcDeF" ⟨"", rfl, rfl⟩ (by decide)
  · exact unguessed_updatingRun key' record' contents' iv' "gHiJkL" ⟨"", rfl, rfl⟩ (by decide)

/-- An update with one key and an update with another one, of different records and from different
contents, under different random names, both succeed and cannot be told apart. -/
theorem run_depends_on_lengths_update :
    let key : Key := ⟨Octets.replicate 32 0⟩
    let key' : Key := ⟨Octets.replicate 32 1⟩
    let first := updatingRun key (key.sealed (Octets.replicate 16 0) [1, 2]).toBytes [104, 105]
      (Octets.replicate 16 1) "aBcDeF"
    let second := updatingRun key' (key'.sealed (Octets.replicate 16 2) [3, 4]).toBytes [106, 107]
      (Octets.replicate 16 3) "gHiJkL"
    first.Alike second ∧ first.files ≠ second.files ∧ first.run.exit = 0 ∧
      Indistinguishable first second := by
  intro key key'
  have opens := key.tryDecrypt_sealed (Octets.replicate 16 0) [1, 2]
  have opens' := key'.tryDecrypt_sealed (Octets.replicate 16 2) [3, 4]
  have length := key.length_sealed (Octets.replicate 16 0) [1, 2]
  have length' := key'.length_sealed (Octets.replicate 16 2) [3, 4]
  -- From here on the records are just records that the keys open: nothing has to compute them.
  generalize key.sealed (Octets.replicate 16 0) [1, 2] = record at opens length ⊢
  generalize key'.sealed (Octets.replicate 16 2) [3, 4] = record' at opens' length' ⊢
  intro first second
  have alike : first.Alike second :=
    { arguments := rfl
      keyFileVariable := rfl
      logVariable := rfl
      input := .ok rfl
      files := by
        have empty := SameShape.refl ⟨[], []⟩
        refine ((empty.put ?_ 0o644 ?_).put ?_ 0o640 ?_).put ?_ 0o600 ?_
        · decide
        · rfl
        · decide
        · exact length.trans length'.symm
        · decide
        · rfl
      limit := rfl }
  refine ⟨alike, ?_, ?_, ?_⟩
  · intro same
    have read : first.files.read "p" = .ok [104, 105] := rfl
    have read' : second.files.read "p" = .ok [106, 107] := rfl
    rw [same, read'] at read
    cases read
  · exact exit_updatingRun key record [104, 105] (Octets.replicate 16 1) "aBcDeF" opens
      ⟨"", rfl, rfl⟩
  · exact run_depends_on_lengths alike
      (comparable_updatingRun _ _ _ _ opens opens' rfl)

end Surroundings

end FileSeal
