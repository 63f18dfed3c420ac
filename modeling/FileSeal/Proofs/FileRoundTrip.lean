import FileSeal.Proofs.OutputStage

namespace FileSeal.Files

open Job

variable {σ τ : Type} {w : Workspace σ} {v : Workspace τ}

/-- After an encryption the output holds the record of what the input has held, and nothing else has
changed. -/
theorem encrypt_ok [KeySource σ] {c : Circumstances} {input output : String}
    (done : ((encrypt c input output).run w).1 = .ok ()) :
    ∃ key message place, w.answer = .ok key ∧ w.files.read input = .ok message ∧
      ((encrypt c input output).run w).2.files.find output =
        .ok (place, ownerOnly, (key.sealed c.iv message).toBytes) ∧
      ∀ other, other ≠ place →
        ((encrypt c input output).run w).2.files.node? other = w.files.node? other := by
  obtain ⟨bytes, place, due, found, others⟩ := (encrypt_delivers c input output w).of_ok done
  obtain ⟨message, key, record, read, answered, encrypted, rfl⟩ := due
  rw [key.encrypt_eq] at encrypted
  cases encrypted
  exact ⟨key, message, place, answered, read, found, others⟩

/-- With a message, a key, a file to write to and room for the record an encryption succeeds. -/
theorem encrypt_succeeds [KeySource σ] {c : Circumstances} {input output : String} {message : Bytes}
    {key : Key} {location : Location} {present : Bool} (read : w.files.read input = .ok message)
    (answered : w.answer = .ok key)
    (opened : w.files.findWritable output = .ok (location, present))
    (room : fits c.limit (key.sealed c.iv message).toBytes.length) :
    ((encrypt c input output).run w).1 = .ok () := by
  have due : DueSealed c input w (key.sealed c.iv message).toBytes :=
    ⟨message, key, _, read, answered, key.encrypt_eq c.iv message, rfl⟩
  obtain ⟨-, -, succeeds, -⟩ := (encrypt_delivers c input output w).written _ _ _ due opened
  exact succeeds.mpr room

/-- A record that only its owner may read is due to be decrypted under its own key. -/
theorem dueOpened_of_sealed [KeySource τ] {path : String} {place : Location} {key : Key}
    {iv : Block} {message : Bytes} (answered : v.answer = .ok key)
    (found : v.files.find path = .ok (place, ownerOnly, (key.sealed iv message).toBytes)) :
    DueOpened path v message := by
  obtain ⟨leads, there⟩ := FileSystem.find_eq_ok_iff.mp found
  have read := FileSystem.read_eq_ok_iff.mpr ⟨place, ownerOnly, leads, there, rfl⟩
  exact ⟨_, key, read, answered, key.decrypt_sealed iv message⟩

/-- What is encrypted from one path to another and decrypted from there to a third comes back as it
was, whichever of the paths lead to the same file and whatever was in their files. -/
theorem encrypt_then_decrypt_files [KeySource σ] [KeySource τ] (c c' : Circumstances)
    (input middle output : String) (w : Workspace σ) (v : Workspace τ)
    (done : ((encrypt c input middle).run w).1 = .ok ())
    (follows : v.files = ((encrypt c input middle).run w).2.files)
    (sameKey : ∀ key, w.answer = .ok key → v.answer = .ok key) :
    ∃ message place stored record, w.files.read input = .ok message ∧
      v.files.find middle = .ok (place, ownerOnly, stored) ∧
      Record.ofBytes stored = .ok record ∧
      (∀ fault, ((decrypt c' middle output).run v).1 = .error fault →
        fault.isFormat = false ∧ fault.isIntegrity = false ∧
        ((∃ failure, v.files.findWritable output = .error failure ∧
            fault = openFault output failure) ∨
          (∃ target, v.files.findWritable output = .ok target ∧
            ¬ fits c'.limit message.length ∧ fault = writeFault output))) ∧
      (((decrypt c' middle output).run v).1 = .ok () →
        ∃ target,
          ((decrypt c' middle output).run v).2.files.find output =
            .ok (target, ownerOnly, message) ∧
          ∀ other, other ≠ place → other ≠ target →
            ((decrypt c' middle output).run v).2.files.node? other = w.files.node? other) := by
  obtain ⟨key, message, place, answered, read, found, kept⟩ := encrypt_ok done
  rw [← follows] at found kept
  have due := dueOpened_of_sealed (sameKey key answered) found
  refine ⟨message, place, _, _, read, found, Record.ofBytes_toBytes _, ?_, ?_⟩
  · intro fault failed
    rw [result_decrypt_of_due due] at failed
    rcases deliveryResult_eq_error failed with ⟨failure, opened, rfl⟩ | ⟨target, opened, short, rfl⟩
    · exact ⟨rfl, rfl, .inl ⟨failure, opened, rfl⟩⟩
    · exact ⟨rfl, rfl, .inr ⟨target, opened, short, rfl⟩⟩
  · intro opened
    obtain ⟨other, target, due', found', kept'⟩ :=
      (decrypt_delivers c' middle output v).of_ok opened
    cases due.unique due'
    refine ⟨target, found', ?_⟩
    intro other notPlace notTarget
    rw [kept' other notTarget, kept other notPlace]

/-- One file in the root directory that everyone may read, and a key. -/
def oneFile (key : Key) (bytes : Bytes) : Workspace BasicSource where
  files := { nodes := [(["a"], .file 0o644 bytes)], working := [] }
  source := .constant key

theorem encrypt_oneFile (key : Key) (iv : Block) (bytes : Bytes) :
    ((encrypt { iv, endings := [] } "a" "a").run (oneFile key bytes)).1 = .ok () :=
  encrypt_succeeds rfl rfl rfl rfl

/-- A file that is encrypted and decrypted in its own place has its contents back, and has lost its
other readers. -/
theorem encrypt_then_decrypt_oneFile :
    let key : Key := ⟨Octets.replicate 32 0⟩
    let c : Circumstances := { iv := Octets.replicate 16 1, endings := [] }
    let w := oneFile key [104, 105]
    let v : Workspace BasicSource :=
      { files := ((encrypt c "a" "a").run w).2.files, source := .constant key }
    ((encrypt c "a" "a").run w).1 = .ok () ∧ v.answer = .ok key ∧
      ((decrypt c "a" "a").run v).1 = .ok () ∧
      ∃ place, ((decrypt c "a" "a").run v).2.files.find "a" =
        .ok (place, ownerOnly, [104, 105]) := by
  intro key c w v
  have done : ((encrypt c "a" "a").run w).1 = .ok () := encrypt_oneFile key _ _
  obtain ⟨message, place, stored, record, read, found, -, failing, delivered⟩ :=
    encrypt_then_decrypt_files c c "a" "a" "a" w v done rfl fun _ answered => answered
  cases Except.ok.inj (read.symm.trans (rfl : w.files.read "a" = .ok [104, 105]))
  obtain ⟨leads, there⟩ := FileSystem.find_eq_ok_iff.mp found
  have writable : v.files.findWritable "a" = .ok (place, true) :=
    FileSystem.findWritable_eq_ok_iff.mpr ⟨leads, .inr ⟨rfl, ownerOnly, stored, there, rfl⟩⟩
  have opened : ((decrypt c "a" "a").run v).1 = .ok () := by
    cases result : ((decrypt c "a" "a").run v).1 with
    | ok => rfl
    | error fault =>
      obtain ⟨-, -, ⟨failure, unwritable, -⟩ | ⟨target, -, short, -⟩⟩ := failing fault result
      · simp [writable] at unwritable
      · exact absurd rfl short
  obtain ⟨target, back, -⟩ := delivered opened
  exact ⟨done, rfl, opened, target, back⟩

end FileSeal.Files
