import FileSeal.Proofs.Refusal
import FileSeal.Proofs.Stages

namespace FileSeal.Files

open Job

variable {σ α β : Type} {w : Workspace σ}

/-- A job that leaves the key source alone. -/
def Keyless (job : Job σ α) : Prop := ∀ w, (job.run w).2.source = w.source

theorem Keyless.bind {job : Job σ α} {next : α → Job σ β} (first : Keyless job)
    (rest : ∀ a, Keyless (next a)) : Keyless (job >>= next) := by
  intro w
  have same := first w
  rcases ran : job.run w with ⟨fault | a, w'⟩
  · rw [ran] at same
    rw [run_bind_of_error ran]
    exact same
  · rw [ran] at same
    rw [run_bind_of_ok ran]
    exact (rest a w').trans same

theorem keyless_pure (a : α) : Keyless (pure a : Job σ α) := fun _ => rfl

theorem keyless_throw (fault : Fault) : Keyless (throw fault : Job σ α) := fun _ => rfl

theorem keyless_log (events : List Event) : Keyless (log events : Job σ Unit) := fun _ => rfl

theorem keyless_perform (effect : Effect) : Keyless (perform effect : Job σ Unit) := fun _ => rfl

theorem keyless_examine (look : FileSystem → Except IoFailure α) (report : IoFailure → Fault) :
    Keyless (examine look report : Job σ α) := by
  intro w
  rw [run_examine]

theorem keyless_fill (limit : Option Nat) (location : Location) (bytes : Bytes)
    (report : IoFailure → Fault) : Keyless (fill limit location bytes report : Job σ Unit) := by
  intro w
  rw [run_fill]
  rfl

theorem Keyless.tryCatch {job : Job σ α} {handle : Fault → Job σ α} (first : Keyless job)
    (handled : ∀ fault, Keyless (handle fault)) : Keyless (tryCatch job handle) := by
  intro w
  rw [run_tryCatch]
  have same := first w
  rcases ran : job.run w with ⟨fault | a, w'⟩
  · rw [ran] at same
    exact (handled fault w').trans same
  · rw [ran] at same
    exact same

theorem keyless_readRecord (path : String) : Keyless (readRecord path : Job σ Record) := by
  refine (keyless_examine _ _).bind fun bytes => (keyless_log _).bind fun _ => ?_
  cases Record.ofBytes bytes with
  | ok record => exact keyless_pure record
  | error fault => exact keyless_throw _

theorem keyless_encryptMessage (key : Key) (iv : Block) (message : Bytes) (context : String) :
    Keyless (encryptMessage key iv message context : Job σ Record) := by
  intro w
  rw [run_encryptMessage]
  rfl

theorem keyless_decryptMessage (key : Key) (record : Record) :
    Keyless (decryptMessage key record : Job σ Bytes) := by
  intro w
  rw [run_decryptMessage]
  rfl

theorem keyless_writeOutput (limit : Option Nat) (path : String) (bytes : Bytes) :
    Keyless (writeOutput limit path bytes : Job σ Unit) := by
  refine Keyless.tryCatch ?_ fun fault => keyless_throw _
  refine (keyless_examine _ _).bind fun place => (keyless_perform _).bind fun _ => ?_
  exact (keyless_perform _).bind fun _ => keyless_fill _ _ _ _

theorem keyless_replaceThrough (c : Circumstances) (key : Key) (temporary : Location)
    (plain crypt : String) :
    Keyless (replaceThrough c key temporary plain crypt : Job σ Nat) := by
  refine (keyless_examine _ _).bind fun message =>
    (keyless_encryptMessage key c.iv message _).bind fun record =>
    (keyless_fill _ _ _ _).bind fun _ => (keyless_perform _).bind fun _ =>
    (keyless_perform _).bind fun _ => (keyless_examine _ _).bind fun found =>
    (keyless_perform _).bind fun _ => keyless_pure _

theorem keyless_replaceRecord (c : Circumstances) (key : Key) (plain crypt : String) :
    Keyless (replaceRecord c key plain crypt : Job σ Unit) := by
  unfold replaceRecord
  cases Path.parentText? crypt with
  | none => exact keyless_throw _
  | some parent =>
    have replaced (temporary : Location) := (keyless_replaceThrough c key temporary plain
      crypt).tryCatch fun fault => (keyless_perform (.remove temporary)).bind fun _ =>
        keyless_throw (σ := σ) fault
    exact (keyless_examine _ _).bind fun temporary => (keyless_perform _).bind fun _ =>
      (replaced temporary).bind fun length => keyless_log _

/-- A job in which a key is asked for between other things. -/
structure Course [KeySource σ] (before after : List Stage) (job : Job σ Unit) (w : Workspace σ) :
    Prop where
  /-- The first stage that fails decides. -/
  result : (job.run w).1 = Stage.outcome (before ++ keying w.files w.source :: after)
  /-- The log is that of the stages up to this one. -/
  events : (job.run w).2.events =
    w.events ++ Stage.log (before ++ keying w.files w.source :: after)
  /-- The key source is asked once, or not at all. -/
  source : (job.run w).2.source =
    if (Stage.outcome before).isOk then (KeySource.read w.files w.source).next else w.source

theorem course_of_takes [KeySource σ] {before after : List Stage} {job : Job σ α}
    {next : α → Key → Job σ Unit} {w : Workspace σ} (first : Takes job w before)
    (whole : Takes (job >>= fun a => readKey >>= next a) w
      (before ++ keying w.files w.source :: after))
    (quiet : Quiet job) (alone : Keyless job) (rest : ∀ a key, Keyless (next a key)) :
    Course before after (job >>= fun a => readKey >>= next a) w where
  result := whole.ends
  events := whole.events
  source := by
    have ended := first.result
    have files := quiet w
    have same := alone w
    rcases ran : job.run w with ⟨fault | a, w'⟩
    · rw [ran] at ended same
      rw [run_bind_of_error ran, ← ended]
      exact same
    · rw [ran] at ended same files
      have asked : w'.asked.source = (KeySource.read w.files w.source).next := by
        unfold Workspace.asked
        rw [files, same]
      rw [run_bind_of_ok ran, ← ended]
      cases answered : w'.answer with
      | error fault =>
        rw [run_bind_of_error (run_readKey.trans (by rw [answered]))]
        exact asked
      | ok key =>
        rw [run_bind_of_ok (run_readKey.trans (by rw [answered]))]
        exact (rest a key w'.asked).trans asked

theorem course_encrypt [KeySource σ] (c : Circumstances) (input output : String)
    (w : Workspace σ) :
    Course [reading w.files input] (encryptStages c input output w.files)
      (encrypt c input output) w := by
  refine course_of_takes (takes_readBytes input) (takes_encrypt c input output)
    (quiet_readBytes input) (keyless_examine _ _) fun message key => ?_
  exact (keyless_encryptMessage key c.iv message _).bind fun record =>
    (keyless_writeOutput _ _ _).bind fun _ => keyless_log _

theorem course_decrypt [KeySource σ] (c : Circumstances) (input output : String)
    (w : Workspace σ) :
    Course (seeking w.files input) (decryptStages c input output w) (decrypt c input output) w := by
  refine course_of_takes (takes_readRecord input) (takes_decrypt c input output)
    (quiet_readRecord input) (keyless_readRecord input) fun record key => ?_
  exact (keyless_decryptMessage key record).bind fun message =>
    (keyless_writeOutput _ _ _).bind fun _ => keyless_log _

theorem course_update [KeySource σ] (c : Circumstances) (plain crypt : String)
    (w : Workspace σ) :
    Course (seeking w.files crypt) (updateStages c plain crypt w) (update c plain crypt) w := by
  refine course_of_takes (takes_readRecord crypt) (takes_update c plain crypt)
    (quiet_readRecord crypt) (keyless_readRecord crypt) fun record key => ?_
  exact (keyless_decryptMessage key record).bind fun _ => keyless_replaceRecord c key plain crypt

theorem Course.reads {before after : List Stage} [KeySource σ] {job : Job (Counted σ) Unit}
    {v : Workspace (Counted σ)} (h : Course before after job v) :
    (job.run v).2.source.reads =
      v.source.reads + if (Stage.outcome before).isOk then 1 else 0 := by
  rw [h.source]
  split <;> rfl

/-- A record that cannot be opened ends a decryption and an update alike. -/
theorem result_of_openRecord [KeySource σ] {crypt : String} {fault : Fault}
    (h : ((openRecord crypt).run w).1 = .error fault) (c : Circumstances) (plain : String) :
    ((decrypt c crypt plain).run w).1 = .error fault ∧
      ((update c plain crypt).run w).1 = .error fault := by
  rcases ran : (openRecord crypt).run w with ⟨_ | opened, w'⟩
  · rw [ran] at h
    cases h
    have ran' : (openContents crypt plain).run w = (.error fault, w') := by
      rw [run_openContents, ran]
      rfl
    rw [decrypt_eq, update_eq, run_bind_of_error ran, run_bind_of_error ran']
    exact ⟨rfl, rfl⟩
  · rw [ran] at h
    cases h

theorem isFormat_of_ofBytes {stored : Bytes} {fault : Fault}
    (h : Record.ofBytes stored = .error fault) (path : String) :
    (recordFault path fault).isFormat = true := by
  unfold Record.ofBytes at h
  split at h
  next =>
    cases h
    rfl
  next =>
    unfold Record.ofParts at h
    split at h
    next => cases h
    next =>
      cases h
      rfl

/-- In each file operation the first stage that fails decides how it ends, whatever the later ones
would have done. The key source is asked once if the stages before that succeed, and is left as it
was otherwise. Its failure is passed on as it is. -/
theorem first_failure_decides [KeySource σ] (c : Circumstances) (plain crypt : String)
    (w : Workspace σ) (v : Workspace (Counted σ)) :
    (∀ stages fault, Stage.outcome stages = .error fault ↔
      ∃ earlier stage later, stages = earlier ++ stage :: later ∧
        (∀ other ∈ earlier, other.failure = none) ∧ stage.failure = some fault) ∧
    Course [reading w.files plain] (encryptStages c plain crypt w.files)
      (encrypt c plain crypt) w ∧
    Course (seeking w.files crypt) (decryptStages c crypt plain w) (decrypt c crypt plain) w ∧
    Course (seeking w.files crypt) (updateStages c plain crypt w) (update c plain crypt) w ∧
    ((encrypt c plain crypt).run v).2.source.reads = v.source.reads +
      (if (Stage.outcome [reading v.files plain]).isOk then 1 else 0) ∧
    ((decrypt c crypt plain).run v).2.source.reads = v.source.reads +
      (if (Stage.outcome (seeking v.files crypt)).isOk then 1 else 0) ∧
    ((update c plain crypt).run v).2.source.reads = v.source.reads +
      (if (Stage.outcome (seeking v.files crypt)).isOk then 1 else 0) ∧
    (∀ message fault, w.files.read plain = .ok message → w.answer = .error fault →
      ((encrypt c plain crypt).run w).1 = .error fault) ∧
    (∀ stored record fault, w.files.read crypt = .ok stored →
      Record.ofBytes stored = .ok record → w.answer = .error fault →
        ((decrypt c crypt plain).run w).1 = .error fault ∧
        ((update c plain crypt).run w).1 = .error fault) ∧
    (∀ stored fault, w.files.read crypt = .ok stored → Record.ofBytes stored = .error fault →
      (recordFault crypt fault).isFormat = true ∧
      ((decrypt c crypt plain).run w).1 = .error (recordFault crypt fault) ∧
      ((update c plain crypt).run w).1 = .error (recordFault crypt fault)) ∧
    (Refused crypt w → fileRefusal.isIntegrity = true ∧
      ((decrypt c crypt plain).run w).1 = .error fileRefusal ∧
      ((update c plain crypt).run w).1 = .error fileRefusal) := by
  refine ⟨fun _ _ => Stage.outcome_eq_error_iff, course_encrypt c plain crypt w,
    course_decrypt c crypt plain w, course_update c plain crypt w,
    (course_encrypt c plain crypt v).reads, (course_decrypt c crypt plain v).reads,
    (course_update c plain crypt v).reads, ?_, ?_, ?_, ?_⟩
  · intro message fault read answered
    have failed : (KeySource.read w.files w.source).result = .error fault := answered
    rw [(course_encrypt c plain crypt w).result]
    simp [Stage.outcome, Stage.of, reading, keying, read, failed]
  · intro stored record fault read parsed answered
    apply result_of_openRecord
    simp [run_openRecord, read, parsed, answered]
  · intro stored fault read malformed
    refine ⟨isFormat_of_ofBytes malformed crypt, result_of_openRecord ?_ c plain⟩
    simp [run_openRecord, read, malformed]
  · intro refused
    obtain ⟨before, after, -, -, ran⟩ := run_openRecord_of_refused refused
    exact ⟨rfl, result_of_openRecord (congrArg Prod.fst ran) c plain⟩

end FileSeal.Files
