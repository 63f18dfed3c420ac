import FileSeal.Proofs.OutputStage
import FileSeal.Proofs.Update

namespace FileSeal

/-- One stage of a file operation: how it fails, if it does, and what it logs in either case. -/
structure Stage where
  failure : Option Fault
  events : List Event := []

namespace Stage

/-- A stage that comes to a result. -/
def of {α : Type} (result : Except Fault α) (events : List Event := []) : Stage where
  failure := match result with
    | .ok _ => none
    | .error fault => some fault
  events

/-- A stage that only logs. -/
def noting (event : Event) : Stage where
  failure := none
  events := [event]

/-- Stages that build on an earlier result. There are none where that is missing. -/
def given {ε α : Type} (earlier : Except ε α) (stages : α → List Stage) : List Stage :=
  match earlier with
  | .ok a => stages a
  | .error _ => []

/-- How stages end that follow one another: the first that fails decides. -/
def outcome : List Stage → Except Fault Unit
  | [] => .ok ()
  | stage :: rest =>
    match stage.failure with
    | some fault => .error fault
    | none => outcome rest

/-- What is logged up to the first stage that fails, and by that one. -/
def log : List Stage → List Event
  | [] => []
  | stage :: rest =>
    stage.events ++ match stage.failure with
      | some _ => []
      | none => log rest

variable {stage : Stage} {rest : List Stage}

theorem outcome_of {α : Type} (result : Except Fault α) (events : List Event) :
    outcome [.of result events] = result.map fun _ => () := by
  cases result <;> rfl

theorem log_of {α : Type} (result : Except Fault α) (events : List Event) :
    log [.of result events] = events := by
  cases result <;> exact List.append_nil events

theorem outcome_of_failure {fault : Fault} (failed : stage.failure = some fault) :
    outcome (stage :: rest) = .error fault := by
  rw [outcome, failed]

theorem outcome_of_none (passed : stage.failure = none) :
    outcome (stage :: rest) = outcome rest := by
  rw [outcome, passed]

theorem log_of_failure {fault : Fault} (failed : stage.failure = some fault) :
    log (stage :: rest) = stage.events := by
  rw [log, failed, List.append_nil]

theorem log_of_none (passed : stage.failure = none) :
    log (stage :: rest) = stage.events ++ log rest := by
  rw [log, passed]

/-- A failure is that of a stage with none that fails before it. Nothing is asked of the stages
after it. -/
theorem outcome_eq_error_iff {stages : List Stage} {fault : Fault} :
    outcome stages = .error fault ↔
      ∃ earlier stage later, stages = earlier ++ stage :: later ∧
        (∀ other ∈ earlier, other.failure = none) ∧ stage.failure = some fault := by
  induction stages with
  | nil => simp [outcome]
  | cons first rest ih =>
    cases failed : first.failure with
    | some fault' =>
      rw [outcome_of_failure failed]
      constructor
      · rintro ⟨⟩
        exact ⟨[], first, rest, rfl, by simp, failed⟩
      · rintro ⟨_ | ⟨other, earlier⟩, stage, later, same, passed, failed'⟩
        · cases same
          rw [Option.some.inj (failed.symm.trans failed')]
        · cases same
          simp [passed first List.mem_cons_self] at failed
    | none =>
      rw [outcome_of_none failed, ih]
      constructor
      · rintro ⟨earlier, stage, later, rfl, passed, failed'⟩
        exact ⟨first :: earlier, stage, later, rfl, by simpa [failed] using passed, failed'⟩
      · rintro ⟨_ | ⟨other, earlier⟩, stage, later, same, passed, failed'⟩
        · cases same
          simp [failed] at failed'
        · cases same
          exact ⟨earlier, stage, later, rfl, fun x mem => passed x (List.mem_cons_of_mem _ mem),
            failed'⟩

theorem outcome_append (stages others : List Stage) :
    outcome (stages ++ others) = outcome stages >>= fun _ => outcome others := by
  induction stages with
  | nil => rfl
  | cons stage rest ih =>
    cases failed : stage.failure with
    | some fault =>
      rw [List.cons_append, outcome_of_failure failed, outcome_of_failure failed]
      rfl
    | none => rw [List.cons_append, outcome_of_none failed, outcome_of_none failed, ih]

theorem log_append_of_ok {stages : List Stage} (passed : outcome stages = .ok ())
    (others : List Stage) : log (stages ++ others) = log stages ++ log others := by
  induction stages with
  | nil => rfl
  | cons stage rest ih =>
    cases failed : stage.failure with
    | some fault =>
      rw [outcome_of_failure failed] at passed
      cases passed
    | none =>
      rw [outcome_of_none failed] at passed
      rw [List.cons_append, log_of_none failed, log_of_none failed, ih passed, List.append_assoc]

theorem log_append_of_error {stages : List Stage} {fault : Fault}
    (failed : outcome stages = .error fault) (others : List Stage) :
    log (stages ++ others) = log stages := by
  induction stages with
  | nil => cases failed
  | cons stage rest ih =>
    cases first : stage.failure with
    | some fault' => rw [List.cons_append, log_of_failure first, log_of_failure first]
    | none =>
      rw [outcome_of_none first] at failed
      rw [List.cons_append, log_of_none first, log_of_none first, ih failed]

end Stage

open Job

variable {σ : Type}

/-- A job that takes some stages from where it starts: it ends as they do, and logs what they
log. -/
structure Takes {α : Type} (job : Job σ α) (w : Workspace σ) (stages : List Stage) : Prop where
  result : (job.run w).1.map (fun _ => ()) = Stage.outcome stages
  events : (job.run w).2.events = w.events ++ Stage.log stages

namespace Takes

variable {α β : Type} {job : Job σ α} {w w' : Workspace σ}

/-- A job that is a single stage. -/
theorem single {result : Except Fault α} {events : List Event}
    (ran : job.run w = (result, w')) (logged : w'.events = w.events ++ events) :
    Takes job w [.of result events] where
  result := by rw [ran, Stage.outcome_of]
  events := by rw [ran, Stage.log_of, logged]

/-- A job that is no stage of its own. -/
theorem none {a : α} (ran : job.run w = (.ok a, w')) (quiet : w'.events = w.events) :
    Takes job w [] where
  result := by rw [ran]; rfl
  events := by rw [ran, Stage.log, List.append_nil, quiet]

/-- A job goes through the stages of its first part, and through those of the rest if it comes to
that. -/
theorem bind {next : α → Job σ β} {stages others : List Stage} (first : Takes job w stages)
    (rest : ∀ a w', job.run w = (.ok a, w') → Takes (next a) w' others) :
    Takes (job >>= next) w (stages ++ others) := by
  have ended := first.result
  have logged := first.events
  rcases ran : job.run w with ⟨fault | a, w'⟩
  · rw [ran] at ended logged
    have failed : Stage.outcome stages = .error fault := ended.symm
    constructor
    · rw [run_bind_of_error ran, Stage.outcome_append, failed]
      rfl
    · rw [run_bind_of_error ran, Stage.log_append_of_error failed]
      exact logged
  · rw [ran] at ended logged
    have passed : Stage.outcome stages = .ok () := ended.symm
    have second := rest a w' ran
    constructor
    · rw [run_bind_of_ok ran, second.result, Stage.outcome_append, passed]
      rfl
    · rw [run_bind_of_ok ran, second.events, logged, Stage.log_append_of_ok passed,
        List.append_assoc]

theorem ends {job : Job σ Unit} {stages : List Stage} (h : Takes job w stages) :
    (job.run w).1 = Stage.outcome stages := by
  rw [← h.result]
  cases (job.run w).1 <;> rfl

theorem bind_none {next : α → Job σ β} {stages : List Stage} (first : Takes job w stages)
    (rest : ∀ a w', job.run w = (.ok a, w') → Takes (next a) w' []) :
    Takes (job >>= next) w stages := by
  have whole := first.bind rest
  rwa [List.append_nil] at whole

end Takes

namespace Files

/-- Looks for the contents of a file. -/
def reading (fs : FileSystem) (path : String) : Stage :=
  .of ((fs.read path).mapError (readFault path))

/-- Takes the contents of a file for a record. -/
def parsing (path : String) (stored : Bytes) : Stage :=
  .of ((Record.ofBytes stored).mapError (recordFault path)) [.recordRead path stored.length]

/-- Asks the key source, and adds nothing to its failure. -/
def keying [KeySource σ] (fs : FileSystem) (source : σ) : Stage :=
  .of (KeySource.read fs source).result (KeySource.read fs source).events

/-- Tries the key on the record. -/
def checking (key : Key) (record : Record) : Stage :=
  .of ((key.tryDecrypt record).mapError decryptFault) [decryptEvent key record]

/-- Writes some number of bytes to an output. -/
def writing (limit : Option Nat) (output : String) (fs : FileSystem) (length : Nat) : Stage :=
  .of (deliveryResult limit output fs length)

/-- The place of the temporary file of an update, or what keeps it from being created. -/
def temporaryPlace (c : Circumstances) (crypt : String) (fs : FileSystem) :
    Except Fault Location :=
  match Path.parentText? crypt with
  | none => .error parentlessFault
  | some parent =>
    (fs.findTemporary (Path.directoryText parent) c.endings).mapError createTemporaryFault

theorem temporaryPlace_eq_ok_iff {c : Circumstances} {crypt : String} {fs : FileSystem}
    {temporary : Location} :
    temporaryPlace c crypt fs = .ok temporary ↔ TemporaryFor fs crypt c.endings temporary := by
  unfold temporaryPlace TemporaryFor
  cases Path.parentText? crypt with
  | none => simp
  | some parent =>
    simp only [Option.some.injEq, exists_eq_left']
    generalize fs.findTemporary _ c.endings = found
    cases found <;> simp

/-- Fills the temporary file with some number of bytes. -/
def filling (limit : Option Nat) (length : Nat) : Stage :=
  .of (if fits limit length then .ok () else .error (writeTemporaryFault .tooLarge))

/-- The length of the ciphertext of a message of some length. -/
def cipherLength (length : Nat) : Nat := 16 * (length / 16 + 1)

/-- Encrypts a message of some length, which cannot fail. -/
def sealing (length : Nat) : Stage :=
  .noting (.encrypted length (cipherLength length))

/-- The stages up to a record. -/
def seeking (fs : FileSystem) (path : String) : List Stage :=
  reading fs path :: Stage.given (fs.read path) fun stored => [parsing path stored]

/-- The record in a file and the key that the source has for it. -/
def recordAndKey [KeySource σ] (path : String) (w : Workspace σ) :
    Except Fault (Record × Key) := do
  let stored ← (w.files.read path).mapError (readFault path)
  let record ← (Record.ofBytes stored).mapError (recordFault path)
  let key ← w.answer
  return (record, key)

/-- The stages of an encryption after the key. -/
def encryptStages (c : Circumstances) (input output : String) (fs : FileSystem) : List Stage :=
  Stage.given (fs.read input) fun message =>
    [sealing message.length,
      writing c.limit output fs (Record.overhead + cipherLength message.length),
      .noting (.fileEncrypted input output message.length)]

/-- The stages of a decryption after the key. -/
def decryptStages [KeySource σ] (c : Circumstances) (input output : String) (w : Workspace σ) :
    List Stage :=
  Stage.given (recordAndKey input w) fun (record, key) =>
    checking key record :: Stage.given (key.tryDecrypt record) fun message =>
      [writing c.limit output w.files message.length,
        .noting (.fileDecrypted input output message.length)]

/-- The stages that fill a temporary file. -/
def fillStages (limit : Option Nat) (plain : String) (fs : FileSystem) : List Stage :=
  reading fs plain :: Stage.given (fs.read plain) fun message =>
    [sealing message.length, filling limit (Record.overhead + cipherLength message.length)]

/-- The stages that put a new record in the place of an old one. -/
def replaceStages (c : Circumstances) (plain crypt : String) (fs : FileSystem) : List Stage :=
  .of (temporaryPlace c crypt fs) :: Stage.given (temporaryPlace c crypt fs) fun temporary =>
    let started := fs.put temporary (.file ownerOnly [])
    fillStages c.limit plain started ++ Stage.given (started.read plain) fun message =>
      [.noting (.fileUpdated plain crypt message.length)]

/-- The stages of an update after the key. -/
def updateStages [KeySource σ] (c : Circumstances) (plain crypt : String) (w : Workspace σ) :
    List Stage :=
  (Stage.given (recordAndKey crypt w) fun (record, key) => [checking key record]) ++
    replaceStages c plain crypt w.files

variable {w w' : Workspace σ}

theorem takes_log (event : Event) : Takes (log [event]) w [.noting event] :=
  ⟨rfl, rfl⟩

theorem takes_examine {α : Type} (look : FileSystem → Except IoFailure α)
    (report : IoFailure → Fault) :
    Takes (examine look report) w [.of ((look w.files).mapError report)] :=
  .single (run_examine look report) (List.append_nil _).symm

theorem look_of_examine {α : Type} {look : FileSystem → Except IoFailure α}
    {report : IoFailure → Fault} {a : α} (h : (examine look report).run w = (.ok a, w')) :
    look w.files = .ok a ∧ w' = w := by
  rw [run_examine] at h
  cases looked : look w.files with
  | error failure =>
    rw [looked] at h
    cases h
  | ok found =>
    rw [looked] at h
    cases h
    exact ⟨rfl, rfl⟩

theorem takes_readBytes (path : String) : Takes (readBytes path) w [reading w.files path] :=
  takes_examine _ _

theorem takes_readRecord (path : String) : Takes (readRecord path) w (seeking w.files path) := by
  refine (takes_readBytes path).bind fun stored w' ran => ?_
  obtain ⟨read, rfl⟩ := look_of_examine ran
  rw [read]
  dsimp only
  unfold parsing
  cases Record.ofBytes stored with
  | error fault => exact .single rfl rfl
  | ok record => exact .single rfl rfl

theorem ofBytes_of_readRecord {path : String} {record : Record}
    (h : (readRecord path).run w = (.ok record, w')) :
    ∃ stored, w.files.read path = .ok stored ∧ Record.ofBytes stored = .ok record ∧
      w' = w.logged [.recordRead path stored.length] := by
  cases read : w.files.read path with
  | error failure =>
    rw [run_readRecord_of_error read] at h
    cases h
  | ok stored =>
    rw [run_readRecord_of_ok read] at h
    cases parsed : Record.ofBytes stored with
    | error fault =>
      rw [parsed] at h
      cases h
    | ok record' =>
      rw [parsed] at h
      cases h
      exact ⟨stored, rfl, parsed, rfl⟩

theorem takes_readKey [KeySource σ] : Takes readKey w [keying w.files w.source] :=
  .single run_readKey rfl

theorem answer_of_readKey [KeySource σ] {key : Key}
    (h : (readKey : Job σ Key).run w = (.ok key, w')) : w.answer = .ok key ∧ w' = w.asked := by
  rw [run_readKey] at h
  exact ⟨congrArg Prod.fst h, (congrArg Prod.snd h).symm⟩

theorem takes_decryptMessage (key : Key) (record : Record) :
    Takes (decryptMessage key record) w [checking key record] :=
  .single (run_decryptMessage key record) rfl

theorem tryDecrypt_of_decryptMessage {key : Key} {record : Record} {message : Bytes}
    (h : (decryptMessage key record).run w = (.ok message, w')) :
    key.tryDecrypt record = .ok message ∧ w' = w.logged [decryptEvent key record] := by
  rw [run_decryptMessage] at h
  cases opened : key.tryDecrypt record with
  | error rejection =>
    rw [opened] at h
    cases h
  | ok message' =>
    rw [opened] at h
    cases h
    exact ⟨rfl, rfl⟩

theorem takes_encryptMessage (key : Key) (iv : Block) (message : Bytes) (context : String) :
    Takes (encryptMessage key iv message context) w [sealing message.length] := by
  have ran := run_encryptMessage (w := w) key iv message context
  rw [key.length_encipher, Nat.mul_comm] at ran
  exact .single ran rfl

theorem takes_writeOutput (limit : Option Nat) (path : String) {bytes : Bytes} {length : Nat}
    (size : bytes.length = length) :
    Takes (writeOutput limit path bytes) w [writing limit path w.files length] := by
  unfold writing deliveryResult
  subst size
  cases opened : w.files.findWritable path with
  | error failure => exact .single (run_writeOutput_of_error opened) (List.append_nil _).symm
  | ok place => exact .single (run_writeOutput_of_ok opened) (List.append_nil _).symm

theorem takes_encrypt [KeySource σ] (c : Circumstances) (input output : String) :
    Takes (encrypt c input output) w
      (reading w.files input :: keying w.files w.source ::
        encryptStages c input output w.files) := by
  refine (takes_readBytes input).bind fun message w' ran => ?_
  obtain ⟨read, rfl⟩ := look_of_examine ran
  refine takes_readKey.bind fun key w₁ ran => ?_
  obtain ⟨-, rfl⟩ := answer_of_readKey ran
  rw [read]
  refine (takes_encryptMessage key c.iv message _).bind fun record w₂ ran => ?_
  rw [run_encryptMessage] at ran
  cases ran
  exact (takes_writeOutput c.limit output (key.length_sealed c.iv message)).bind
    fun _ w₃ _ => takes_log _

theorem recordAndKey_eq_ok_iff [KeySource σ] {path : String} {record : Record} {key : Key} :
    recordAndKey path w = .ok (record, key) ↔
      ∃ stored, w.files.read path = .ok stored ∧ Record.ofBytes stored = .ok record ∧
        w.answer = .ok key := by
  unfold recordAndKey
  cases w.files.read path with
  | error failure => simp [bind, Except.bind]
  | ok stored =>
    cases parsed : Record.ofBytes stored with
    | error fault => simp [parsed, bind, Except.bind]
    | ok found =>
      cases w.answer with
      | error fault => simp [parsed, bind, Except.bind]
      | ok key' => simp [parsed, bind, Except.bind, pure, Except.pure]

/-- Work on a record with its key begins with the same stages everywhere. -/
theorem takes_keyed [KeySource σ] {path : String} {next : Record → Key → Job σ Unit}
    {stages : List Stage}
    (rest : ∀ record key w', recordAndKey path w = .ok (record, key) → w'.files = w.files →
      Takes (next record key) w' stages) :
    Takes (readRecord path >>= fun record => readKey >>= next record) w
      (seeking w.files path ++ keying w.files w.source :: stages) := by
  refine (takes_readRecord path).bind fun record w₁ ran => ?_
  obtain ⟨stored, read, parsed, rfl⟩ := ofBytes_of_readRecord ran
  refine takes_readKey.bind fun key w₂ ran => ?_
  obtain ⟨answered, rfl⟩ := answer_of_readKey ran
  rw [Workspace.answer_logged] at answered
  exact rest record key _ (recordAndKey_eq_ok_iff.mpr ⟨stored, read, parsed, answered⟩) rfl

theorem takes_decrypt [KeySource σ] (c : Circumstances) (input output : String) :
    Takes (decrypt c input output) w
      (seeking w.files input ++ keying w.files w.source :: decryptStages c input output w) := by
  refine takes_keyed fun record key w₁ found files => ?_
  unfold decryptStages
  rw [found, ← files]
  refine (takes_decryptMessage key record).bind fun message w₂ ran => ?_
  obtain ⟨opened, rfl⟩ := tryDecrypt_of_decryptMessage ran
  rw [opened]
  exact (takes_writeOutput c.limit output rfl).bind fun _ w₃ _ => takes_log _

theorem takes_perform (effect : Effect) : Takes (perform effect) w [] :=
  .none (run_perform effect) rfl

theorem takes_pure {α : Type} (a : α) : Takes (pure a) w [] :=
  .none (run_pure a) rfl

theorem takes_examine_of_ok {α : Type} {look : FileSystem → Except IoFailure α}
    {report : IoFailure → Fault} {a : α} (found : look w.files = .ok a) :
    Takes (examine look report) w [] :=
  .none ((run_examine look report).trans (by rw [found, mapError_ok])) rfl

theorem takes_fill (limit : Option Nat) (location : Location) {bytes : Bytes} {length : Nat}
    (size : bytes.length = length) :
    Takes (fill limit location bytes writeTemporaryFault) w [filling limit length] := by
  subst size
  exact .single (run_fill limit location bytes _) (List.append_nil _).symm

theorem performed_of_fill {limit : Option Nat} {location : Location} {bytes : Bytes}
    {report : IoFailure → Fault} (h : (fill limit location bytes report).run w = (.ok (), w')) :
    w' = w.performed [.append location bytes] := by
  rw [run_fill] at h
  cases room : fits limit bytes.length with
  | false =>
    rw [room] at h
    cases h
  | true =>
    rw [kept_of_fits room] at h
    exact (congrArg Prod.snd h).symm

/-- A file that was there before the temporary file is found as before. -/
theorem find_beside {fs : FileSystem} {temporary target : Location} {crypt : String} {mode : Nat}
    {old : Bytes} (below : temporary ≠ []) (vacant : fs.node? temporary = none)
    (found : fs.find crypt = .ok (target, mode, old)) (bytes : Bytes) :
    (fs.put temporary (.file ownerOnly bytes)).find crypt = .ok (target, mode, old) := by
  have apart : target ≠ temporary := by
    rintro rfl
    simp [(FileSystem.find_eq_ok_iff.mp found).2] at vacant
  exact (FileSystem.find_put_of_ne below (by simp [vacant]) apart _ _).mpr found

/-- A replacement that has filled its temporary file succeeds: the file to be replaced is still
there. -/
theorem takes_replaceThrough {fs : FileSystem} (c : Circumstances) (key : Key)
    (plain : String) {temporary target : Location} {crypt : String} {mode : Nat} {old : Bytes}
    (below : temporary ≠ []) (vacant : fs.node? temporary = none)
    (started : w.files = fs.put temporary (.file ownerOnly []))
    (found : fs.find crypt = .ok (target, mode, old)) :
    Takes (replaceThrough c key temporary plain crypt) w (fillStages c.limit plain w.files) := by
  refine (takes_readBytes plain).bind fun message w₁ ran => ?_
  obtain ⟨contents, rfl⟩ := look_of_examine ran
  rw [contents]
  refine (takes_encryptMessage key c.iv message _).bind fun record w₂ ran => ?_
  rw [run_encryptMessage] at ran
  cases ran
  have size := key.length_sealed c.iv message
  refine (takes_fill c.limit temporary size).bind_none fun _ w₃ ran => ?_
  cases performed_of_fill ran
  refine (takes_perform _).bind fun _ w₄ ran => ?_
  cases ran
  refine (takes_perform _).bind fun _ w₅ ran => ?_
  have secured :
      w₅.files = fs.put temporary (.file ownerOnly (key.sealed c.iv message).toBytes) := by
    cases ran
    rw [← replay_secureEffects fs below, ← started]
    rfl
  have found' : w₅.files.find crypt = .ok (target, mode, old) := by
    rw [secured]
    exact find_beside below vacant found _
  exact (takes_examine_of_ok found').bind fun _ w₆ _ =>
    (takes_perform _).bind fun _ w₇ _ => takes_pure _

theorem length_of_replaceThrough {c : Circumstances} {key : Key} {temporary : Location}
    {plain crypt : String} {length : Nat}
    (h : (replaceThrough c key temporary plain crypt).run w = (.ok length, w')) :
    ∃ message, w.files.read plain = .ok message ∧ message.length = length := by
  rw [run_replaceThrough] at h
  split at h
  next => cases h
  next message contents =>
    dsimp only at h
    split at h
    next =>
      split at h
      next => cases h
      next =>
        cases h
        exact ⟨message, contents, rfl⟩
    next => cases h

theorem ok_of_orElseCleanUp {α : Type} {job : Job σ α} {cleanUp : Job σ Unit} {a : α}
    (h : (orElseCleanUp job cleanUp).run w = (.ok a, w')) : job.run w = (.ok a, w') := by
  rw [run_orElseCleanUp] at h
  rcases ran : job.run w with ⟨fault | a', w₁⟩
  · rw [ran] at h
    dsimp only at h
    rw [run_bind] at h
    rcases cleaned : cleanUp.run w₁ with ⟨_ | _, _⟩ <;> rw [cleaned] at h <;> cases h
  · rw [ran] at h
    exact h

/-- Cleaning up is no stage of its own. -/
theorem takes_orElseCleanUp {α : Type} {job : Job σ α} {effect : Effect} {stages : List Stage}
    (takes : Takes job w stages) : Takes (orElseCleanUp job (perform effect)) w stages := by
  have result := takes.result
  have events := takes.events
  have cleaned := run_orElseCleanUp (w := w) job (perform effect)
  rcases ran : job.run w with ⟨fault | a, w'⟩
  · rw [ran] at result events cleaned
    constructor <;> rw [cleaned]
    · exact result
    · exact events
  · rw [ran] at result events cleaned
    constructor <;> rw [cleaned]
    · exact result
    · exact events

theorem takes_replaceRecord {c : Circumstances} (key : Key) {plain crypt : String}
    {target : Location} {mode : Nat} {old : Bytes}
    (found : w.files.find crypt = .ok (target, mode, old)) :
    Takes (replaceRecord c key plain crypt) w (replaceStages c plain crypt w.files) := by
  unfold replaceRecord replaceStages temporaryPlace
  cases Path.parentText? crypt with
  | none => exact .single rfl (List.append_nil _).symm
  | some parent =>
    dsimp only
    refine (takes_examine _ _).bind fun temporary w₁ ran => ?_
    obtain ⟨place, rfl⟩ := look_of_examine ran
    obtain ⟨below, vacant⟩ := FileSystem.findTemporary_vacant place
    rw [place]
    dsimp only [mapError_ok]
    refine (takes_perform (.create temporary ownerOnly)).bind fun _ w₂ ran => ?_
    have started : w₂.files = w₁.files.put temporary (.file ownerOnly []) := by
      cases ran
      rfl
    rw [← started]
    have takes := takes_replaceThrough c key plain below vacant started found
    refine (takes_orElseCleanUp takes).bind fun length w₃ ran => ?_
    obtain ⟨message, contents, rfl⟩ := length_of_replaceThrough (ok_of_orElseCleanUp ran)
    rw [contents]
    exact takes_log _

theorem takes_update [KeySource σ] (c : Circumstances) (plain crypt : String) :
    Takes (update c plain crypt) w
      (seeking w.files crypt ++ keying w.files w.source :: updateStages c plain crypt w) := by
  refine takes_keyed fun record key w₁ found files => ?_
  obtain ⟨stored, read, -⟩ := recordAndKey_eq_ok_iff.mp found
  obtain ⟨location, mode, leads, there, -⟩ := FileSystem.read_eq_ok_iff.mp read
  have target := FileSystem.find_eq_ok_iff.mpr ⟨leads, there⟩
  unfold updateStages
  rw [found, ← files]
  rw [← files] at target
  refine (takes_decryptMessage key record).bind fun message w₂ ran => ?_
  obtain ⟨-, rfl⟩ := tryDecrypt_of_decryptMessage ran
  exact takes_replaceRecord key target

end Files

end FileSeal
