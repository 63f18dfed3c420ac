import FileSeal.Files
import FileSeal.Proofs.FileTree
import FileSeal.Proofs.JobRun
import FileSeal.Proofs.Sealing

namespace FileSeal.Files

open Job

variable {σ : Type} {w : Workspace σ}

@[simp] theorem run_readBytes (path : String) :
    (readBytes path : Job σ Bytes).run w = ((w.files.read path).mapError (readFault path), w) :=
  run_examine _ _

theorem run_readRecord_of_error {path : String} {failure : IoFailure}
    (h : w.files.read path = .error failure) :
    (readRecord path : Job σ Record).run w = (.error (readFault path failure), w) := by
  simp [readRecord, run_bind, h]

theorem run_readRecord_of_ok {path : String} {bytes : Bytes} (h : w.files.read path = .ok bytes) :
    (readRecord path : Job σ Record).run w =
      ((Record.ofBytes bytes).mapError (recordFault path),
        w.logged [.recordRead path bytes.length]) := by
  simp only [readRecord, run_bind, run_readBytes, h, mapError_ok, run_log]
  cases Record.ofBytes bytes <;> rfl

theorem quiet_readBytes (path : String) : Quiet (readBytes path : Job σ Bytes) :=
  quiet_examine _ _

theorem quiet_readRecord (path : String) : Quiet (readRecord path : Job σ Record) := by
  refine (quiet_readBytes path).bind fun bytes => (quiet_log _).bind fun _ => ?_
  cases Record.ofBytes bytes with
  | ok record => exact quiet_pure record
  | error fault => exact quiet_throw _

@[simp] theorem run_encryptMessage (key : Key) (iv : Block) (message : Bytes) (context : String) :
    (encryptMessage key iv message context : Job σ Record).run w =
      (.ok (key.sealed iv message),
        w.logged [.encrypted message.length (key.encipher iv message).length]) := by
  simp only [encryptMessage, key.encrypt_eq, run_bind, run_log, run_pure, Key.sealed_ciphertext]

/-- What the log says about a record under a key. -/
def decryptEvent (key : Key) (record : Record) : Event :=
  match key.tryDecrypt record with
  | .ok message => .decrypted message.length
  | .error .padding => .paddingRejected record.ciphertext.length
  | .error .digest => .digestRejected record.ciphertext.length

@[simp] theorem run_decryptMessage (key : Key) (record : Record) :
    (decryptMessage key record : Job σ Bytes).run w =
      ((key.tryDecrypt record).mapError decryptFault, w.logged [decryptEvent key record]) := by
  unfold decryptMessage decryptEvent
  cases key.tryDecrypt record with
  | ok message => simp only [run_bind, run_log, run_pure, mapError_ok]
  | error rejection =>
    cases rejection <;> simp only [run_bind, run_log, run_throw, mapError_error]

theorem quiet_encryptMessage (key : Key) (iv : Block) (message : Bytes) (context : String) :
    Quiet (encryptMessage key iv message context : Job σ Record) := by
  intro w
  rw [run_encryptMessage, Workspace.files_logged]

theorem quiet_decryptMessage (key : Key) (record : Record) :
    Quiet (decryptMessage key record : Job σ Bytes) := by
  intro w
  rw [run_decryptMessage, Workspace.files_logged]

/-- Reads and decrypts a record, and keeps the key. -/
def openRecord [KeySource σ] (path : String) : Job σ (Key × Bytes) := do
  let record ← readRecord path
  let key ← readKey
  let message ← decryptMessage key record
  return (key, message)

theorem run_openRecord [KeySource σ] (path : String) :
    (openRecord path : Job σ (Key × Bytes)).run w =
      match w.files.read path with
      | .error failure => (.error (readFault path failure), w)
      | .ok stored =>
        let read := w.logged [.recordRead path stored.length]
        match Record.ofBytes stored with
        | .error fault => (.error (recordFault path fault), read)
        | .ok record =>
          match w.answer with
          | .error fault => (.error fault, read.asked)
          | .ok key =>
            ((key.tryDecrypt record).map (key, ·) |>.mapError decryptFault,
              read.asked.logged [decryptEvent key record]) := by
  unfold openRecord
  cases contents : w.files.read path with
  | error failure => simp only [run_bind, run_readRecord_of_error contents]
  | ok stored =>
    simp only [run_bind, run_readRecord_of_ok contents]
    cases parsed : Record.ofBytes stored with
    | error fault => simp only [mapError_error]
    | ok record =>
      simp only [mapError_ok, run_readKey, Workspace.answer_logged]
      cases answered : w.answer with
      | error fault => rfl
      | ok key =>
        simp only [run_decryptMessage]
        cases key.tryDecrypt record <;> rfl

theorem quiet_openRecord [KeySource σ] (path : String) :
    Quiet (openRecord path : Job σ (Key × Bytes)) := by
  refine (quiet_readRecord path).bind fun record => quiet_readKey.bind fun key => ?_
  exact (quiet_decryptMessage key record).bind fun message => quiet_pure _

theorem run_openRecord_eq_ok_iff [KeySource σ] {path : String} {key : Key} {message : Bytes} :
    ((openRecord path : Job σ (Key × Bytes)).run w).1 = .ok (key, message) ↔
      ∃ stored, w.files.read path = .ok stored ∧ w.answer = .ok key ∧
        key.decrypt stored = .ok message := by
  rw [run_openRecord]
  cases w.files.read path with
  | error failure => simp
  | ok stored =>
    cases parsed : Record.ofBytes stored with
    | error fault => simp [parsed, Key.decrypt_of_ofBytes_error parsed]
    | ok record =>
      cases w.answer with
      | error fault => simp [parsed]
      | ok answer =>
        simp only [parsed, Except.ok.injEq, exists_eq_left', Key.decrypt_of_ofBytes parsed,
          Key.decryptRecord_eq_ok]
        constructor
        · intro h
          cases tried : answer.tryDecrypt record with
          | error rejection => simp [tried, Except.map] at h
          | ok found =>
            simp only [tried, Except.map, mapError_ok, Except.ok.injEq, Prod.mk.injEq] at h
            obtain ⟨rfl, rfl⟩ := h
            exact ⟨rfl, tried⟩
        · intro h
          obtain ⟨rfl, tried⟩ := h
          simp [tried, Except.map]

/-- Reads and encrypts the contents of a file, and prepares the last line of the log. -/
def sealContents [KeySource σ] (c : Circumstances) (input output : String) :
    Job σ (Bytes × Event) := do
  let message ← readBytes input
  let key ← readKey
  let record ← encryptMessage key c.iv message encryptionFailed
  return (record.toBytes, .fileEncrypted input output message.length)

theorem run_sealContents [KeySource σ] (c : Circumstances) (input output : String) :
    (sealContents c input output : Job σ (Bytes × Event)).run w =
      match w.files.read input with
      | .error failure => (.error (readFault input failure), w)
      | .ok message =>
        match w.answer with
        | .error fault => (.error fault, w.asked)
        | .ok key =>
          (.ok ((key.sealed c.iv message).toBytes, .fileEncrypted input output message.length),
            w.asked.logged [.encrypted message.length (key.encipher c.iv message).length]) := by
  unfold sealContents
  cases contents : w.files.read input with
  | error failure => simp only [run_bind, run_readBytes, contents, mapError_error]
  | ok message =>
    simp only [run_bind, run_readBytes, contents, mapError_ok, run_readKey]
    cases w.answer with
    | error fault => rfl
    | ok key => simp only [run_encryptMessage, run_pure]

theorem quiet_sealContents [KeySource σ] (c : Circumstances) (input output : String) :
    Quiet (sealContents c input output : Job σ (Bytes × Event)) := by
  refine (quiet_readBytes input).bind fun message => quiet_readKey.bind fun key => ?_
  exact (quiet_encryptMessage key c.iv message _).bind fun record => quiet_pure _

theorem run_sealContents_eq_ok_iff [KeySource σ] {c : Circumstances} {input output : String}
    {contents : Bytes × Event} :
    ((sealContents c input output : Job σ (Bytes × Event)).run w).1 = .ok contents ↔
      ∃ message key, w.files.read input = .ok message ∧ w.answer = .ok key ∧
        contents = ((key.sealed c.iv message).toBytes,
          .fileEncrypted input output message.length) := by
  rw [run_sealContents]
  cases w.files.read input with
  | error failure => simp
  | ok message => cases w.answer <;> simp [eq_comm]

/-- The changes that write an output. -/
def outputEffects (limit : Option Nat) (location : Location) (present : Bool) (bytes : Bytes) :
    List Effect :=
  [if present then .truncate location else .create location ownerOnly,
    .setMode location ownerOnly, .append location (kept limit bytes)]

theorem run_writeOutput_of_error {limit : Option Nat} {path : String} {bytes : Bytes}
    {failure : IoFailure} (h : w.files.findWritable path = .error failure) :
    (writeOutput limit path bytes : Job σ Unit).run w = (.error (openFault path failure), w) := by
  simp [writeOutput, writeOwnerOnly, run_tryCatch, run_bind, h, openFault]

theorem run_writeOutput_of_ok {limit : Option Nat} {path : String} {bytes : Bytes}
    {location : Location} {present : Bool}
    (h : w.files.findWritable path = .ok (location, present)) :
    (writeOutput limit path bytes : Job σ Unit).run w =
      (if fits limit bytes.length then .ok () else .error (writeFault path),
        w.performed (outputEffects limit location present bytes)) := by
  simp only [writeOutput, writeOwnerOnly, run_tryCatch, run_bind, run_examine, h, mapError_ok,
    run_perform, run_fill, Workspace.performed_performed]
  cases fits limit bytes.length <;> simp [outputEffects, writeFault]

/-- Whatever was at the output before, what is written takes its place. -/
theorem replay_outputEffects {fs : FileSystem} {limit : Option Nat} {path : String}
    {location : Location} {present : Bool} (h : fs.findWritable path = .ok (location, present))
    (bytes : Bytes) :
    Effect.replay fs (outputEffects limit location present bytes) =
      fs.put location (.file ownerOnly (kept limit bytes)) := by
  obtain ⟨leads, ⟨rfl, vacant⟩ | ⟨rfl, mode, old, found, -⟩⟩ :=
    FileSystem.findWritable_eq_ok_iff.mp h
  · simp [outputEffects, Effect.replay, Effect.apply, FileSystem.modifyFile_put _ leads.below]
  · simp [outputEffects, Effect.replay, Effect.apply, FileSystem.modifyFile_put _ leads.below,
      FileSystem.modifyFile_of_file found]

end FileSeal.Files
