import FileSeal.Proofs.FileRuns

namespace FileSeal.Files

open Job

variable {σ : Type} {w : Workspace σ}

/-- Reads and decrypts a record, and prepares the last line of the log. -/
def openContents [KeySource σ] (input output : String) : Job σ (Bytes × Event) := do
  let opened ← openRecord input
  return (opened.2, .fileDecrypted input output opened.2.length)

theorem run_openContents [KeySource σ] (input output : String) :
    (openContents input output : Job σ (Bytes × Event)).run w =
      (((openRecord input : Job σ (Key × Bytes)).run w).1.map fun opened =>
          (opened.2, .fileDecrypted input output opened.2.length),
        ((openRecord input : Job σ (Key × Bytes)).run w).2) := by
  rw [openContents, run_bind]
  rcases (openRecord input : Job σ (Key × Bytes)).run w with ⟨_ | _, _⟩ <;> rfl

theorem run_openContents_eq_ok_iff [KeySource σ] {input output : String}
    {contents : Bytes × Event} :
    ((openContents input output : Job σ (Bytes × Event)).run w).1 = .ok contents ↔
      ∃ stored key message, w.files.read input = .ok stored ∧ w.answer = .ok key ∧
        key.decrypt stored = .ok message ∧
        contents = (message, .fileDecrypted input output message.length) := by
  rw [run_openContents]
  constructor
  · intro h
    cases opened : ((openRecord input : Job σ (Key × Bytes)).run w).1 with
    | error fault => simp [opened, Except.map] at h
    | ok pair =>
      obtain ⟨key, message⟩ := pair
      obtain ⟨stored, read, answered, accepted⟩ := run_openRecord_eq_ok_iff.mp opened
      refine ⟨stored, key, message, read, answered, accepted, ?_⟩
      simpa [opened, Except.map, eq_comm] using h
  · intro h
    obtain ⟨stored, key, message, read, answered, accepted, rfl⟩ := h
    have opened := run_openRecord_eq_ok_iff.mpr ⟨stored, read, answered, accepted⟩
    simp [opened, Except.map]

theorem quiet_openContents [KeySource σ] (input output : String) :
    Quiet (openContents input output : Job σ (Bytes × Event)) :=
  (quiet_openRecord input).bind fun _ => quiet_pure _

/-- Writes what was prepared, and logs that it is done. -/
def deliver (limit : Option Nat) (output : String) (contents : Bytes × Event) : Job σ Unit := do
  writeOutput limit output contents.1
  log [contents.2]

theorem encrypt_eq [KeySource σ] (c : Circumstances) (input output : String) :
    (encrypt c input output : Job σ Unit) =
      sealContents c input output >>= deliver c.limit output := by
  simp [encrypt, sealContents, deliver]

theorem decrypt_eq [KeySource σ] (c : Circumstances) (input output : String) :
    (decrypt c input output : Job σ Unit) =
      openContents input output >>= deliver c.limit output := by
  simp [decrypt, openContents, openRecord, deliver]

theorem run_deliver_of_error {limit : Option Nat} {output : String} {contents : Bytes × Event}
    {failure : IoFailure} (h : w.files.findWritable output = .error failure) :
    (deliver limit output contents : Job σ Unit).run w =
      (.error (openFault output failure), w) := by
  rw [deliver, run_bind, run_writeOutput_of_error h]

theorem run_deliver_of_ok {limit : Option Nat} {output : String} {contents : Bytes × Event}
    {location : Location} {present : Bool}
    (h : w.files.findWritable output = .ok (location, present)) :
    (deliver limit output contents : Job σ Unit).run w =
      let after := w.performed (outputEffects limit location present contents.1)
      if fits limit contents.1.length then (.ok (), after.logged [contents.2])
      else (.error (writeFault output), after) := by
  rw [deliver, run_bind, run_writeOutput_of_ok h]
  cases fits limit contents.1.length <;> rfl

theorem files_deliver_of_ok {limit : Option Nat} {output : String} {contents : Bytes × Event}
    {location : Location} {present : Bool}
    (h : w.files.findWritable output = .ok (location, present)) :
    ((deliver limit output contents : Job σ Unit).run w).2.files =
      w.files.put location (.file ownerOnly (kept limit contents.1)) := by
  rw [run_deliver_of_ok h, ← replay_outputEffects h]
  dsimp only
  split <;> rfl

/-- How the delivery of some number of bytes ends. -/
def deliveryResult (limit : Option Nat) (output : String) (fs : FileSystem) (length : Nat) :
    Except Fault Unit :=
  match fs.findWritable output with
  | .error failure => .error (openFault output failure)
  | .ok _ => if fits limit length then .ok () else .error (writeFault output)

theorem result_deliver (limit : Option Nat) (output : String) (contents : Bytes × Event) :
    ((deliver limit output contents : Job σ Unit).run w).1 =
      deliveryResult limit output w.files contents.1.length := by
  unfold deliveryResult
  cases opened : w.files.findWritable output with
  | error failure => rw [run_deliver_of_error opened]
  | ok place =>
    rw [run_deliver_of_ok opened]
    dsimp only
    split <;> rfl

theorem deliveryResult_eq_error {limit : Option Nat} {output : String} {fs : FileSystem}
    {length : Nat} {fault : Fault} (h : deliveryResult limit output fs length = .error fault) :
    (∃ failure, fs.findWritable output = .error failure ∧ fault = openFault output failure) ∨
      (∃ place, fs.findWritable output = .ok place ∧ ¬ fits limit length ∧
        fault = writeFault output) := by
  unfold deliveryResult at h
  split at h
  next failure opened =>
    cases h
    exact .inl ⟨failure, opened, rfl⟩
  next place opened =>
    split at h
    next => cases h
    next short =>
      cases h
      exact .inr ⟨place, opened, short, rfl⟩

/-- What a job that ends in writing one output leaves behind, for the bytes that are due to be
written. Short of the write it fails and leaves all files as they were. The write puts what the
limit lets through in the place of the output, and fails exactly if that is not everything. -/
structure Delivers (limit : Option Nat) (output : String) (before : FileSystem)
    (due : Bytes → Prop) (result : Except Fault Unit) (after : FileSystem) : Prop where
  withheld : (¬ ∃ bytes location present, due bytes ∧
      before.findWritable output = .ok (location, present)) →
    (∃ fault, result = .error fault) ∧ after = before
  written : ∀ bytes location present, due bytes →
    before.findWritable output = .ok (location, present) →
      after.find output = .ok (location, ownerOnly, kept limit bytes) ∧
      (∀ other, other ≠ location → after.node? other = before.node? other) ∧
      (result = .ok () ↔ fits limit bytes.length) ∧
      ∀ fault, result = .error fault → fault.category = .internal ∧ fault.kind = some .io

theorem delivers_deliver (limit : Option Nat) (output : String) (contents : Bytes × Event) :
    Delivers limit output w.files (· = contents.1)
      ((deliver limit output contents : Job σ Unit).run w).1
      ((deliver limit output contents : Job σ Unit).run w).2.files := by
  cases opened : w.files.findWritable output with
  | error failure =>
    rw [run_deliver_of_error opened]
    refine ⟨fun _ => ⟨⟨_, rfl⟩, rfl⟩, ?_⟩
    intro _ _ _ _ opened'
    simp [opened] at opened'
  | ok place =>
    obtain ⟨location, present⟩ := place
    obtain ⟨leads, noDirectory⟩ := FileSystem.findWritable_leads opened
    constructor
    · intro impossible
      exact absurd ⟨contents.1, location, present, rfl, opened⟩ impossible
    · rintro _ location' present' rfl opened'
      obtain ⟨rfl, rfl⟩ := Prod.mk.inj (Except.ok.inj (opened.symm.trans opened'))
      rw [files_deliver_of_ok opened]
      refine ⟨FileSystem.find_put_self leads noDirectory _ _, ?_, ?_, ?_⟩
      · exact fun other ne => FileSystem.node?_put_of_ne _ leads.below _ ne
      · rw [run_deliver_of_ok opened]
        cases fits limit contents.1.length <;> simp
      · rw [run_deliver_of_ok opened]
        cases fits limit contents.1.length with
        | true => simp
        | false =>
          rintro fault ⟨⟩
          exact ⟨rfl, rfl⟩

/-- A job that succeeds has put all of what was due in the place of its output. -/
theorem Delivers.of_ok {limit : Option Nat} {output : String} {before after : FileSystem}
    {due : Bytes → Prop} {result : Except Fault Unit}
    (h : Delivers limit output before due result after) (done : result = .ok ()) :
    ∃ bytes location, due bytes ∧ after.find output = .ok (location, ownerOnly, bytes) ∧
      ∀ other, other ≠ location → after.node? other = before.node? other := by
  by_cases ready : ∃ bytes location present, due bytes ∧
      before.findWritable output = .ok (location, present)
  · obtain ⟨bytes, location, present, due, opened⟩ := ready
    obtain ⟨found, others, succeeds, -⟩ := h.written bytes location present due opened
    rw [kept_of_fits (succeeds.mp done)] at found
    exact ⟨bytes, location, due, found, others⟩
  · obtain ⟨⟨fault, failed⟩, -⟩ := h.withheld ready
    simp [done] at failed

theorem delivers_of_prepared {prepare : Job σ (Bytes × Event)} (limit : Option Nat)
    (output : String) {due : Bytes → Prop} (quiet : Quiet prepare)
    (prepared : ∀ bytes, due bytes ↔ ∃ event, (prepare.run w).1 = .ok (bytes, event)) :
    Delivers limit output w.files due ((prepare >>= deliver limit output).run w).1
      ((prepare >>= deliver limit output).run w).2.files := by
  rcases ran : prepare.run w with ⟨fault | ⟨bytes, event⟩, w'⟩
  · have nothing : ∀ bytes, ¬ due bytes := by simpa [ran] using prepared
    rw [run_bind_of_error ran]
    refine ⟨fun _ => ⟨⟨fault, rfl⟩, quiet.files_eq ran⟩, ?_⟩
    exact fun bytes _ _ h => absurd h (nothing bytes)
  · have only : due = (· = bytes) := by
      funext other
      simpa [ran, eq_comm] using prepared other
    rw [run_bind_of_ok ran, only, ← quiet.files_eq ran]
    exact delivers_deliver limit output (bytes, event)

/-- The bytes that an encryption is due to write: the record of what the input holds. -/
def DueSealed [KeySource σ] (c : Circumstances) (input : String) (w : Workspace σ)
    (bytes : Bytes) : Prop :=
  ∃ message key record, w.files.read input = .ok message ∧ w.answer = .ok key ∧
    key.encrypt c.iv message = .ok record ∧ bytes = record.toBytes

/-- The bytes that a decryption is due to write: the message of the record that the input holds,
if that is accepted. -/
def DueOpened [KeySource σ] (input : String) (w : Workspace σ) (message : Bytes) : Prop :=
  ∃ stored key, w.files.read input = .ok stored ∧ w.answer = .ok key ∧
    key.decrypt stored = .ok message

theorem dueSealed_iff [KeySource σ] (c : Circumstances) (input output : String) (bytes : Bytes) :
    DueSealed c input w bytes ↔
      ∃ event, ((sealContents c input output).run w).1 = .ok (bytes, event) := by
  simp only [DueSealed, run_sealContents_eq_ok_iff, Key.encrypt_eq]
  constructor
  · intro h
    obtain ⟨message, key, record, read, answered, ⟨⟩, rfl⟩ := h
    exact ⟨_, message, key, read, answered, rfl⟩
  · intro h
    obtain ⟨event, message, key, read, answered, same⟩ := h
    exact ⟨message, key, _, read, answered, rfl, congrArg Prod.fst same⟩

theorem dueOpened_iff [KeySource σ] (input output : String) (message : Bytes) :
    DueOpened input w message ↔
      ∃ event, ((openContents input output).run w).1 = .ok (message, event) := by
  simp only [DueOpened, run_openContents_eq_ok_iff]
  constructor
  · intro h
    obtain ⟨stored, key, read, answered, accepted⟩ := h
    exact ⟨_, stored, key, message, read, answered, accepted, rfl⟩
  · intro h
    obtain ⟨event, stored, key, message', read, answered, accepted, same⟩ := h
    cases congrArg Prod.fst same
    exact ⟨stored, key, read, answered, accepted⟩

theorem DueOpened.unique [KeySource σ] {input : String} {message other : Bytes}
    (h : DueOpened input w message) (h' : DueOpened input w other) : other = message := by
  obtain ⟨stored, key, read, answered, accepted⟩ := h
  obtain ⟨stored', key', read', answered', accepted'⟩ := h'
  cases Except.ok.inj (read.symm.trans read')
  cases Except.ok.inj (answered.symm.trans answered')
  exact Except.ok.inj (accepted'.symm.trans accepted)

/-- With a message to write, a decryption only fails at its output. -/
theorem result_decrypt_of_due [KeySource σ] {c : Circumstances} {input output : String}
    {message : Bytes} (due : DueOpened input w message) :
    ((decrypt c input output).run w).1 =
      deliveryResult c.limit output w.files message.length := by
  obtain ⟨event, prepared⟩ := (dueOpened_iff input output message).mp due
  rcases opened : (openContents input output).run w with ⟨result, w'⟩
  rw [opened] at prepared
  cases prepared
  rw [decrypt_eq, run_bind_of_ok opened, result_deliver,
    (quiet_openContents input output).files_eq opened]

theorem encrypt_delivers [KeySource σ] (c : Circumstances) (input output : String)
    (w : Workspace σ) :
    Delivers c.limit output w.files (DueSealed c input w) ((encrypt c input output).run w).1
      ((encrypt c input output).run w).2.files := by
  rw [encrypt_eq]
  exact delivers_of_prepared c.limit output (quiet_sealContents c input output)
    (dueSealed_iff c input output)

theorem decrypt_delivers [KeySource σ] (c : Circumstances) (input output : String)
    (w : Workspace σ) :
    Delivers c.limit output w.files (DueOpened input w) ((decrypt c input output).run w).1
      ((decrypt c input output).run w).2.files := by
  rw [decrypt_eq]
  exact delivers_of_prepared c.limit output (quiet_openContents input output)
    (dueOpened_iff input output)

/-- A failing encryption or decryption either leaves all files as they were or cuts its output short
at the limit. A record's length is known beforehand, and only an accepted record changes a file. -/
theorem failing_output [KeySource σ] (c : Circumstances) (input output : String)
    (w : Workspace σ) :
    (∀ key message record, Key.encrypt key c.iv message = .ok record →
      record.toBytes.length = 48 + 16 * (message.length / 16 + 1)) ∧
    Delivers c.limit output w.files (DueSealed c input w) ((encrypt c input output).run w).1
      ((encrypt c input output).run w).2.files ∧
    Delivers c.limit output w.files (DueOpened input w) ((decrypt c input output).run w).1
      ((decrypt c input output).run w).2.files ∧
    (((decrypt c input output).run w).2.files ≠ w.files →
      ∃ message, DueOpened input w message) := by
  refine ⟨?_, encrypt_delivers c input output w, decrypt_delivers c input output w, ?_⟩
  · intro key message record encrypted
    rw [key.encrypt_eq] at encrypted
    rw [← Except.ok.inj encrypted]
    exact key.length_sealed c.iv message
  · intro changed
    apply Classical.byContradiction
    intro nothing
    have idle := (decrypt_delivers c input output w).withheld
      (fun ⟨message, _, _, due, _⟩ => nothing ⟨message, due⟩)
    exact changed idle.2

end FileSeal.Files
