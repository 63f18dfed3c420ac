import FileSeal.Program
import FileSeal.Proofs.OutputStage
import FileSeal.Proofs.Tampering

namespace FileSeal

/-- The failure of every record of the right shape that a key does not open. -/
def refusal : Fault := Rejection.digest.fault

/-- The failure of every file with such a record. -/
def fileRefusal : Fault := Files.decryptFault .digest

namespace Key

/-- The length alone decides whether bytes can be a record, and how they fail if they cannot. -/
theorem decrypt_of_length {bytes : Bytes}
    (h : bytes.length < 64 ∨ (bytes.length - 48) % 16 ≠ 0) :
    ∃ fault, fault.isFormat = true ∧ ∀ (key : Key) (other : Bytes),
      other.length = bytes.length → key.decrypt other = .error fault := by
  by_cases short : bytes.length < 64
  · refine ⟨Record.truncated bytes.length, rfl, ?_⟩
    intro key other same
    have short' : other.length < Record.minimumLength := same ▸ short
    rw [decrypt_of_ofBytes_error (Record.ofBytes_of_short short'), same]
  · have odd := h.resolve_left short
    refine ⟨Record.misaligned (bytes.length - 48), rfl, ?_⟩
    intro key other same
    have long : Record.minimumLength ≤ other.length := same ▸ Nat.le_of_not_lt short
    have odd' : (other.length - Record.overhead) % 16 ≠ 0 := same ▸ odd
    rw [decrypt_of_ofBytes_error (Record.ofBytes_of_misaligned long odd'), same]
    rfl

theorem decryptRecord_answers (key : Key) (record : Record) :
    (∃ message, key.decryptRecord record = .ok message) ∨
      key.decryptRecord record = .error refusal := by
  rw [decryptRecord]
  cases key.tryDecrypt record with
  | ok message => exact .inl ⟨message, rfl⟩
  | error rejection => exact .inr rfl

/-- Bytes that can be a record give a message with the digest that they end in, or the one
refusal. -/
theorem decrypt_answers (key : Key) {bytes : Bytes} (long : 64 ≤ bytes.length)
    (aligned : (bytes.length - 48) % 16 = 0) :
    (∃ message, key.decrypt bytes = .ok message ∧
      (FileSeal.digest message).toBytes <:+ bytes) ∨
    key.decrypt bytes = .error refusal := by
  obtain ⟨record, parsed⟩ := Record.exists_ofBytes long aligned
  rw [decrypt_of_ofBytes parsed]
  rcases key.decryptRecord_answers record with ⟨message, accepted⟩ | refused
  · have opened : key.decrypt bytes = .ok message := by rw [decrypt_of_ofBytes parsed, accepted]
    exact .inl ⟨message, accepted, decrypt_eq_ok_digest opened⟩
  · exact .inr refused

end Key

namespace Files

open Job

variable {σ : Type} {w : Workspace σ}

/-- The input holds a record of the right shape and there is a key, but the key does not open the
record. -/
def Refused [KeySource σ] (input : String) (w : Workspace σ) : Prop :=
  ∃ stored record key rejection, w.files.read input = .ok stored ∧
    Record.ofBytes stored = .ok record ∧ w.answer = .ok key ∧
    key.tryDecrypt record = .error rejection

/-- A refused record ends its opening in the one failure. Only the log says more, and that only in
its details. -/
theorem run_openRecord_of_refused [KeySource σ] {input : String} (refused : Refused input w) :
    ∃ before after : Event, before.level = .debug ∧ after.level = .debug ∧
      (openRecord input).run w =
        (.error fileRefusal, (w.logged [before]).asked.logged [after]) := by
  obtain ⟨stored, record, key, rejection, read, parsed, answered, rejected⟩ := refused
  refine ⟨.recordRead input stored.length, decryptEvent key record, rfl, ?_, ?_⟩
  · rw [decryptEvent, rejected]
    cases rejection <;> rfl
  · rw [run_openRecord, read]
    simp only [parsed, answered, rejected]
    rfl

theorem run_decrypt_of_refused [KeySource σ] (c : Circumstances) {input : String}
    (output : String) (refused : Refused input w) :
    ∃ before after : Event, before.level = .debug ∧ after.level = .debug ∧
      (decrypt c input output).run w =
        (.error fileRefusal, (w.logged [before]).asked.logged [after]) := by
  obtain ⟨before, after, detail, detail', ran⟩ := run_openRecord_of_refused refused
  refine ⟨before, after, detail, detail', ?_⟩
  have opened : (openContents input output).run w =
      (.error fileRefusal, (w.logged [before]).asked.logged [after]) := by
    rw [run_openContents, ran]
    rfl
  rw [decrypt_eq, run_bind_of_error opened]

end Files

theorem Filter.allows_ofVerbosity (verbosity : Nat) (event : Event) :
    (Filter.ofVerbosity verbosity).allows event =
      decide (event.level.rank ≤ min (verbosity + 2) 5) := by
  simp [Filter.ofVerbosity, Filter.allows, Directive.decisive, Directive.isStatic,
    Directive.concerns]

theorem BasicSource.events_read (fs : FileSystem) (source : BasicSource) :
    ∀ event ∈ (KeySource.read fs source).events, event.level = .debug := by
  cases source with
  | constant key => simp [KeySource.read, BasicSource.read]
  | stream chunks => simp [KeySource.read, BasicSource.read]
  | file path =>
    cases found : fs.read path with
    | error failure => simp [KeySource.read, BasicSource.read, readFile, found]
    | ok bytes => simp [KeySource.read, BasicSource.read, readFile, found, Event.level]

namespace Surroundings

/-- A run of the program that is to decrypt a file with a log of information at most, and is given a
record of the right shape and a key that does not open it. -/
def Refused (s : Surroundings) : Prop :=
  ∃ invocation input output source,
    Invocation.ofArguments s.keyFileVariable s.arguments = .ok invocation ∧
    invocation.command = .decrypt input output ∧ invocation.verbosity ≤ 1 ∧
    s.logVariable = none ∧ invocation.keySource s.input = .ok source ∧
    Files.Refused input ({ files := s.files, source } : Workspace BasicSource)

theorem logLines_debug {s : Surroundings} {invocation : Invocation} {events : List Event}
    (quiet : invocation.verbosity ≤ 1) (unset : s.logVariable = none)
    (details : ∀ event ∈ events, event.level = .debug) : s.logLines invocation events = [] := by
  have dropped : events.filter (Filter.ofVerbosity invocation.verbosity).allows = [] := by
    apply List.filter_eq_nil_iff.mpr
    intro event mem
    have rank : event.level.rank = 4 := by rw [details event mem]; rfl
    rw [Filter.allows_ofVerbosity, rank]
    simp only [decide_eq_true_eq]
    omega
  rw [logLines, Filter.choose, unset]
  dsimp only [Option.bind_none, Option.getD_none]
  rw [dropped, List.map_nil]

theorem run_of_refused {s : Surroundings} (refused : s.Refused) :
    s.run =
      { exit := 1
        output := ""
        errors := "Error: failed to decrypt: corrupt input, tampered-with data, or wrong key\n"
        files := s.files
        journal := [] } := by
  obtain ⟨invocation, input, output, source, parsed, command, quiet, unset, selected, refused⟩ :=
    refused
  obtain ⟨before, after, detail, detail', ran⟩ :=
    Files.run_decrypt_of_refused s.circumstances output refused
  have executed : s.execute invocation =
      { result := .error fileRefusal
        files := s.files
        events := before :: ((KeySource.read s.files source).events ++ [after]) } := by
    simp only [execute, command, withKeySource, selected, Completion.ofJob, ran]
    rfl
  have silent : s.logLines invocation (s.execute invocation).events = [] := by
    apply logLines_debug quiet unset
    rw [executed]
    intro event mem
    simp only [List.mem_cons, List.mem_append] at mem
    rcases mem with rfl | asked | rfl | none
    · exact detail
    · exact BasicSource.events_read s.files source event asked
    · exact detail'
    · cases none
  rw [run, parsed]
  dsimp only
  rw [silent, executed]
  rfl

end Surroundings

/-- Bytes that cannot be a record fail by their length alone. All others give their message or the
one refusal, under every key. A refused decryption of a file fails in one way, whatever the record,
the key and the check that failed, and changes nothing; a refused run of the program ends in one
way, so that two of them cannot be told apart. -/
theorem refusals_alike :
    (∀ bytes : Bytes, bytes.length < 64 ∨ (bytes.length - 48) % 16 ≠ 0 →
      ∃ fault, fault.isFormat = true ∧ ∀ (key : Key) (other : Bytes),
        other.length = bytes.length → key.decrypt other = .error fault) ∧
    (∃ fault, fault.isIntegrity = true ∧ fault.causes = [] ∧ ∀ (key : Key) (bytes : Bytes),
      64 ≤ bytes.length → (bytes.length - 48) % 16 = 0 →
        (∃ message, key.decrypt bytes = .ok message ∧ (digest message).toBytes <:+ bytes) ∨
        key.decrypt bytes = .error fault) ∧
    (∃ fault, fault.isIntegrity = true ∧ ∀ (σ : Type) [KeySource σ] (c : Circumstances)
      (input output : String) (w : Workspace σ), Files.Refused input w →
        ((Files.decrypt c input output).run w).1 = .error fault ∧
        ((Files.decrypt c input output).run w).2.files = w.files) ∧
    (∀ s : Surroundings, s.Refused →
      s.run.exit = 1 ∧ s.run.output = "" ∧
      s.run.errors =
        "Error: failed to decrypt: corrupt input, tampered-with data, or wrong key\n" ∧
      s.run.files = s.files) := by
  refine ⟨fun _ => Key.decrypt_of_length, ⟨refusal, rfl, rfl, ?_⟩, ⟨fileRefusal, rfl, ?_⟩, ?_⟩
  · intro key bytes long aligned
    exact key.decrypt_answers long aligned
  · intro σ _ c input output w refused
    obtain ⟨before, after, -, -, ran⟩ := Files.run_decrypt_of_refused c output refused
    rw [ran]
    exact ⟨rfl, rfl⟩
  · intro s refused
    rw [Surroundings.run_of_refused refused]
    exact ⟨rfl, rfl, rfl, rfl⟩

/-- A run that is to decrypt some bytes with a key from a file. -/
def decryptingRun (key : Key) (stored : Bytes) : Surroundings where
  arguments := ["decrypt", "--input", "a", "--output", "b", "--key-file", "k"]
  files :=
    { nodes := [(["a"], .file 0o644 stored), (["k"], .file 0o600 key.toBytes)]
      working := [] }
  circumstances := { iv := default, endings := [] }
  freshKey := default
  stamp := ""

theorem refused_decryptingRun {key : Key} {record : Record} {rejection : Rejection}
    (rejected : key.tryDecrypt record = .error rejection) :
    (decryptingRun key record.toBytes).Refused := by
  refine ⟨⟨.decrypt "a" "b", some "k", false, 0⟩, "a", "b", .file "k", rfl, rfl, Nat.zero_le 1, rfl,
    rfl, record.toBytes, record, key, rejection, rfl, Record.ofBytes_toBytes record, ?_, rejected⟩
  have read : (decryptingRun key record.toBytes).files.read "k" = .ok key.toBytes := rfl
  simp [Workspace.answer, KeySource.read, BasicSource.read, BasicSource.readFile, read, Key.ofBytes,
    Key.toBytes]

theorem exists_tryDecrypt_digest (key : Key) :
    ∃ record, key.tryDecrypt record = .error .digest := by
  have two : Octets.replicate 32 0 ≠ Octets.replicate 32 1 := by decide
  obtain ⟨other, wrong⟩ : ∃ other : Digest, digest [] ≠ other := by
    by_cases same : digest [] = Octets.replicate 32 0
    · exact ⟨Octets.replicate 32 1, same ▸ two⟩
    · exact ⟨_, same⟩
  refine ⟨{ key.sealed default [] with digest := other }, ?_⟩
  simp [Key.tryDecrypt, wrong]

theorem exists_tryDecrypt_padding (key : Key) :
    ∃ record, key.tryDecrypt record = .error .padding := by
  let zero : Block := Octets.replicate 16 0
  let record : Record :=
    { iv := zero
      ciphertext := joinBlocks [key.encryptBlock zero]
      digest := default
      nonempty := List.ne_nil_of_length_pos (by simp)
      aligned := by simp }
  have zeros : key.decipher zero record.ciphertext = List.replicate 16 0 := by
    rw [Key.decipher_eq, blocks_joinBlocks]
    simp only [unchain, key.decryptBlock_encryptBlock]
    rfl
  have none : unpad? (List.replicate 16 0) = none := by decide
  refine ⟨record, ?_⟩
  rw [Key.tryDecrypt, zeros, none]

/-- Of two runs on the same arguments one fails because the digest is wrong, the other because the
padding is. -/
theorem refusals_alike_digest_padding :
    let key : Key := ⟨Octets.replicate 32 0⟩
    ∃ first second : Record, key.tryDecrypt first = .error .digest ∧
      key.tryDecrypt second = .error .padding ∧
      (decryptingRun key first.toBytes).run.exit = 1 ∧
      (decryptingRun key first.toBytes).run.errors =
        (decryptingRun key second.toBytes).run.errors := by
  intro key
  obtain ⟨first, wrongDigest⟩ := exists_tryDecrypt_digest key
  obtain ⟨second, wrongPadding⟩ := exists_tryDecrypt_padding key
  obtain ⟨-, -, -, alike⟩ := refusals_alike
  obtain ⟨exit, -, errors, -⟩ := alike _ (refused_decryptingRun wrongDigest)
  obtain ⟨-, -, errors', -⟩ := alike _ (refused_decryptingRun wrongPadding)
  exact ⟨first, second, wrongDigest, wrongPadding, exit, errors.trans errors'.symm⟩

end FileSeal
