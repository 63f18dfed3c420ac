import FileSeal.Proofs.FirstFailure
import FileSeal.Proofs.KeyFile
import FileSeal.Proofs.WireFormat

namespace FileSeal

namespace Record

/-- What the length of a byte string says against its being a record. -/
def lengthFault? (length : Nat) : Option Fault :=
  if length < 64 then some (truncated length)
  else if (length - 48) % 16 = 0 then none
  else some (misaligned (length - 48))

/-- The reading of a record fails by the length of the bytes and by nothing else. -/
theorem ofBytes_eq_error_iff {bytes : Bytes} {fault : Fault} :
    ofBytes bytes = .error fault ↔ lengthFault? bytes.length = some fault := by
  unfold lengthFault?
  by_cases short : bytes.length < 64
  · rw [if_pos short, ofBytes_of_short short, Except.error.injEq, Option.some.injEq]
  · have long : minimumLength ≤ bytes.length := Nat.le_of_not_lt short
    rw [if_neg short]
    by_cases aligned : (bytes.length - 48) % 16 = 0
    · obtain ⟨record, read⟩ := exists_ofBytes long aligned
      simp [if_pos aligned, read]
    · rw [if_neg aligned, ofBytes_of_misaligned long aligned, Except.error.injEq,
        Option.some.injEq]
      rfl

theorem exists_ofBytes_iff_lengthFault? {bytes : Bytes} :
    (∃ record, ofBytes bytes = .ok record) ↔ lengthFault? bytes.length = none := by
  cases read : ofBytes bytes with
  | error fault => simp [ofBytes_eq_error_iff.mp read]
  | ok record =>
    cases wrong : lengthFault? bytes.length with
    | none => simp
    | some fault => simp [ofBytes_eq_error_iff.mpr wrong] at read

theorem lengthFault?_eq_none_iff {length : Nat} :
    lengthFault? length = none ↔ 64 ≤ length ∧ 16 ∣ length - 48 := by
  rw [lengthFault?, Nat.dvd_iff_mod_eq_zero]
  by_cases short : length < 64
  · simp [short, Nat.not_le_of_lt short]
  · simp [short, Nat.le_of_not_lt short]

/-- The user is to blame for every length that is refused, and the kind says which end of the rule
it has failed. -/
theorem report_of_lengthFault? {length : Nat} {fault : Fault}
    (h : lengthFault? length = some fault) :
    fault.category = .user ∧
      fault.kind = some (if length < 64 then .truncated else .misaligned) := by
  unfold lengthFault? at h
  split at h
  next short =>
    cases h
    rw [if_pos short]
    exact ⟨rfl, rfl⟩
  next long =>
    split at h
    next => cases h
    next =>
      cases h
      rw [if_neg long]
      exact ⟨rfl, rfl⟩

theorem exists_ofBytes_error_iff {bytes : Bytes} {kind : Kind} :
    (∃ fault, ofBytes bytes = .error fault ∧ fault.kind = some kind) ↔
      lengthFault? bytes.length ≠ none ∧
        kind = if bytes.length < 64 then .truncated else .misaligned := by
  constructor
  · rintro ⟨fault, failed, same⟩
    have refused := ofBytes_eq_error_iff.mp failed
    rw [(report_of_lengthFault? refused).2] at same
    exact ⟨by simp [refused], (Option.some.inj same).symm⟩
  · rintro ⟨refused, rfl⟩
    obtain ⟨fault, refused⟩ := Option.ne_none_iff_exists'.mp refused
    exact ⟨fault, ofBytes_eq_error_iff.mpr refused, (report_of_lengthFault? refused).2⟩

theorem exists_truncated_iff {bytes : Bytes} :
    (∃ fault, ofBytes bytes = .error fault ∧ fault.kind = some .truncated) ↔
      bytes.length < 64 := by
  rw [exists_ofBytes_error_iff, Ne, lengthFault?_eq_none_iff]
  by_cases short : bytes.length < 64
  · simp [short, Nat.not_le_of_lt short]
  · simp [short]

theorem exists_misaligned_iff {bytes : Bytes} :
    (∃ fault, ofBytes bytes = .error fault ∧ fault.kind = some .misaligned) ↔
      64 ≤ bytes.length ∧ ¬ 16 ∣ bytes.length - 48 := by
  rw [exists_ofBytes_error_iff, Ne, lengthFault?_eq_none_iff]
  by_cases short : bytes.length < 64
  · simp [short, Nat.not_le_of_lt short]
  · simp [short, Nat.le_of_not_lt short]

theorem ofParts_eq_error {iv : Block} {ciphertext : Bytes} {digest : Digest} {fault : Fault}
    (h : ofParts iv ciphertext digest = .error fault) : fault = misaligned ciphertext.length := by
  unfold ofParts at h
  split at h
  next => cases h
  next => exact (Except.error.inj h).symm

/-- Three regions put together are read as the record that is made of them, or fail as they do when
it is made of them, unless they are too short to be looked at. -/
theorem ofBytes_append (iv : Block) (ciphertext : Bytes) (digest : Digest) :
    ofBytes (iv.toBytes ++ ciphertext ++ digest.toBytes) =
      if ciphertext.length < 16 then .error (truncated (48 + ciphertext.length))
      else ofParts iv ciphertext digest := by
  have length : (iv.toBytes ++ ciphertext ++ digest.toBytes).length = 48 + ciphertext.length := by
    simp only [List.length_append, iv.length_toBytes, digest.length_toBytes]
    omega
  split
  next short =>
    have short : (iv.toBytes ++ ciphertext ++ digest.toBytes).length < minimumLength := by
      rw [length]
      exact Nat.add_lt_add_left short 48
    rw [ofBytes_of_short short, length]
  next long =>
    cases made : ofParts iv ciphertext digest with
    | ok record =>
      obtain ⟨rfl, rfl, rfl⟩ := ofParts_eq_ok_iff.mp made
      exact record.ofBytes_toBytes
    | error fault =>
      have odd : ciphertext.length % 16 ≠ 0 := by
        intro aligned
        have whole : ∃ n, ciphertext.length = 16 * (n + 1) :=
          ⟨ciphertext.length / 16 - 1, by omega⟩
        obtain ⟨record, made'⟩ : ∃ record, ofParts iv ciphertext digest = .ok record :=
          exists_ofParts_iff.mpr whole
        rw [made] at made'
        cases made'
      rw [ofBytes_eq_error_iff, length, lengthFault?, if_neg (by omega), Nat.add_sub_cancel_left,
        if_neg odd, ofParts_eq_error made]

/-- The two ways to a record make the same one or both fail, and then they differ only where there
is less than a block between the other two regions. -/
theorem ofParts_agrees (iv : Block) (ciphertext : Bytes) (digest : Digest) :
    (∃ record, ofParts iv ciphertext digest = .ok record ∧
      ofBytes (iv.toBytes ++ ciphertext ++ digest.toBytes) = .ok record) ∨
    ∃ fault other, ofParts iv ciphertext digest = .error fault ∧
      ofBytes (iv.toBytes ++ ciphertext ++ digest.toBytes) = .error other ∧
      fault.kind = some .misaligned ∧
      (16 ≤ ciphertext.length → other = fault) ∧
      (ciphertext.length < 16 → other.kind = some .truncated) := by
  rw [ofBytes_append]
  cases made : ofParts iv ciphertext digest with
  | ok record =>
    obtain ⟨n, length⟩ := exists_ofParts_iff.mp ⟨record, made⟩
    exact .inl ⟨record, rfl, if_neg (by omega)⟩
  | error fault =>
    rw [ofParts_eq_error made]
    by_cases short : ciphertext.length < 16
    · rw [if_pos short]
      exact .inr ⟨_, _, rfl, rfl, rfl, fun long => absurd short (Nat.not_lt_of_le long),
        fun _ => rfl⟩
    · rw [if_neg short]
      exact .inr ⟨_, _, rfl, rfl, rfl, fun _ => rfl, fun short' => absurd short' short⟩

end Record

theorem isFormat_of_lengthFault? {length : Nat} {fault : Fault}
    (h : Record.lengthFault? length = some fault) : fault.isFormat = true := by
  rw [Fault.isFormat, (Record.report_of_lengthFault? h).2]
  split <;> rfl

/-- Decryption adds no failure of the format of its own. -/
theorem Key.decrypt_eq_format_error_iff {key : Key} {bytes : Bytes} {fault : Fault} :
    key.decrypt bytes = .error fault ∧ fault.isFormat = true ↔
      Record.ofBytes bytes = .error fault := by
  cases parsed : Record.ofBytes bytes with
  | error other =>
    have format := isFormat_of_lengthFault? (Record.ofBytes_eq_error_iff.mp parsed)
    rw [decrypt_of_ofBytes_error parsed]
    constructor
    · rintro ⟨same, -⟩
      rw [Except.error.inj same]
    · intro same
      cases same
      exact ⟨rfl, format⟩
  | ok record =>
    rw [decrypt_of_ofBytes parsed]
    refine ⟨fun ⟨failed, format⟩ => ?_, nofun⟩
    rcases key.decryptRecord_answers record with ⟨message, opened⟩ | refused
    · rw [opened] at failed
      cases failed
    · rw [refused] at failed
      cases failed
      cases format

namespace BasicSource

/-- A source that fails does so for want of a key, or because of the length of what it has found. -/
theorem kind_of_read_error {fs : FileSystem} {source : BasicSource} {fault : Fault}
    (h : (KeySource.read fs source).result = .error fault) :
    fault.kind = some .keyLength ∨ fault.kind = some .keyUnavailable := by
  cases source with
  | constant key => cases h
  | file path =>
    cases found : fs.read path with
    | error failure =>
      simp only [KeySource.read, BasicSource.read, readFile, found] at h
      cases h
      exact .inr rfl
    | ok bytes =>
      rw [BasicSource.result_read_file_of_ok found] at h
      cases parsed : Key.ofBytes bytes with
      | ok key => simp [parsed] at h
      | error other =>
        rw [parsed, mapError_error, Key.ofBytes_eq_error parsed] at h
        cases h
        exact .inl rfl
  | stream chunks =>
    rcases gathered : readToEnd chunks with ⟨failure | bytes, rest⟩
    · simp only [KeySource.read, BasicSource.read, readStream, gathered] at h
      cases h
      exact .inr rfl
    · simp only [KeySource.read, BasicSource.read, readStream, gathered] at h
      rw [Key.ofBytes_eq_error h]
      exact .inl rfl

end BasicSource

namespace Cached

/-- The failure of a source behind caches is that of the source itself. -/
theorem read_innermost_of_error {σ : Type} [KeySource σ] {fs : FileSystem} {source : Cached σ}
    {fault : Fault} (h : (KeySource.read fs source).result = .error fault) :
    (KeySource.read fs source.innermost).result = .error fault := by
  induction source with
  | direct source => exact h
  | cache held inner ih =>
    cases held with
    | none => exact ih h
    | some key => cases h

end Cached

namespace Files

variable {σ : Type} [KeySource σ] {w : Workspace σ} {input : String} {stored : Bytes}

/-- A file that cannot hold a record ends a decryption before there is a key. -/
theorem run_decrypt_of_malformed (c : Circumstances) (output : String) {fault : Fault}
    (read : w.files.read input = .ok stored) (malformed : Record.ofBytes stored = .error fault) :
    (decrypt c input output).run w =
      (.error (recordFault input fault), w.logged [.recordRead input stored.length]) := by
  rw [decrypt_eq, Job.run_bind, run_openContents, run_openRecord, read]
  simp only [malformed]
  rfl

theorem source_decrypt_of_record (c : Circumstances) (output : String) {record : Record}
    (read : w.files.read input = .ok stored) (parsed : Record.ofBytes stored = .ok record) :
    ((decrypt c input output).run w).2.source = (KeySource.read w.files w.source).next := by
  have reached : Stage.outcome (seeking w.files input) = .ok () := by
    simp [seeking, reading, parsing, Stage.outcome, Stage.of, Stage.given, read, parsed]
  rw [(course_decrypt c input output w).source, reached]
  rfl

/-- Once a record has been read, a failure of the format can come from the key source alone. -/
theorem answer_of_format_error {c : Circumstances} {output : String} {record : Record}
    {fault : Fault} (read : w.files.read input = .ok stored)
    (parsed : Record.ofBytes stored = .ok record)
    (failed : ((decrypt c input output).run w).1 = .error fault) (format : fault.isFormat = true) :
    w.answer = .error fault := by
  cases answered : w.answer with
  | error other =>
    have ends : ((openRecord input).run w).1 = .error other := by
      simp [run_openRecord, read, parsed, answered]
    rw [(result_of_openRecord ends c output).1] at failed
    rw [Except.error.inj failed]
  | ok key =>
    cases tried : key.tryDecrypt record with
    | error rejection =>
      have ends : ((openRecord input).run w).1 =
          .error (decryptFault rejection) := by
        simp [run_openRecord, read, parsed, answered, tried, Except.map]
      rw [(result_of_openRecord ends c output).1] at failed
      cases failed
      cases format
    | ok message =>
      have opened : key.decrypt stored = .ok message := by
        rw [Key.decrypt_of_ofBytes parsed, Key.decryptRecord_eq_ok, tried]
      rw [result_decrypt_of_due ⟨stored, key, read, answered, opened⟩] at failed
      rcases deliveryResult_eq_error failed with ⟨_, -, rfl⟩ | ⟨_, -, -, rfl⟩ <;> cases format

/-- With the sources that there are, a decryption fails by the format exactly if the file cannot
hold a record. -/
theorem decrypt_format_error_iff {c : Circumstances} {input output : String}
    {w : Workspace (Cached BasicSource)} {stored : Bytes} {fault : Fault}
    (read : w.files.read input = .ok stored) :
    ((decrypt c input output).run w).1 = .error fault ∧ fault.isFormat = true ↔
      ∃ cause, Record.ofBytes stored = .error cause ∧ fault = recordFault input cause := by
  cases parsed : Record.ofBytes stored with
  | error cause =>
    have format := isFormat_of_ofBytes parsed input
    rw [run_decrypt_of_malformed c output read parsed]
    constructor
    · rintro ⟨same, -⟩
      exact ⟨cause, rfl, (Except.error.inj same).symm⟩
    · rintro ⟨_, same, rfl⟩
      cases same
      exact ⟨rfl, format⟩
  | ok record =>
    refine ⟨fun ⟨failed, format⟩ => ?_, fun ⟨_, impossible, _⟩ => nomatch impossible⟩
    have answered := answer_of_format_error read parsed failed format
    have kinds := BasicSource.kind_of_read_error (Cached.read_innermost_of_error answered)
    rcases kinds with kind | kind <;> simp [Fault.isFormat, kind] at format

end Files

/-- Only the length of a byte string decides whether it is read as a record, and how it fails if it
is not; the user is always to blame. A record that is made of its regions and one that is read from
them put together are the same, and fail alike unless there is not even one block between the other
two regions. A decryption fails by the format exactly as the reading of the record does, before a
key plays a part: that of a file with one context more, and with its key source not asked. -/
theorem Record.accepts_by_length :
    (∀ bytes : Bytes, (∃ record, ofBytes bytes = .ok record) ↔
      64 ≤ bytes.length ∧ 16 ∣ bytes.length - 48) ∧
    (∀ bytes : Bytes, (∃ fault, ofBytes bytes = .error fault ∧ fault.kind = some .truncated) ↔
      bytes.length < 64) ∧
    (∀ bytes : Bytes, (∃ fault, ofBytes bytes = .error fault ∧ fault.kind = some .misaligned) ↔
      64 ≤ bytes.length ∧ ¬ 16 ∣ bytes.length - 48) ∧
    (∀ bytes fault, ofBytes bytes = .error fault → fault.category = .user ∧
      ∀ other : Bytes, other.length = bytes.length → ofBytes other = .error fault) ∧
    (∀ iv ciphertext digest,
      (∃ record, ofParts iv ciphertext digest = .ok record ∧
        ofBytes (iv.toBytes ++ ciphertext ++ digest.toBytes) = .ok record) ∨
      ∃ fault other, ofParts iv ciphertext digest = .error fault ∧
        ofBytes (iv.toBytes ++ ciphertext ++ digest.toBytes) = .error other ∧
        fault.kind = some .misaligned ∧
        (16 ≤ ciphertext.length → other = fault) ∧
        (ciphertext.length < 16 → other.kind = some .truncated)) ∧
    (∀ (key : Key) bytes fault, key.decrypt bytes = .error fault ∧ fault.isFormat = true ↔
      ofBytes bytes = .error fault) ∧
    (∀ (σ : Type) [KeySource σ] (c : Circumstances) (input output : String) (w : Workspace σ)
      (stored : Bytes), w.files.read input = .ok stored →
      (∀ fault, ofBytes stored = .error fault →
        (Files.decrypt c input output).run w =
          (.error (fault.withContext s!"{input} is not a valid record"),
            w.logged [.recordRead input stored.length])) ∧
      ∀ record, ofBytes stored = .ok record →
        ((Files.decrypt c input output).run w).2.source =
          (KeySource.read w.files w.source).next ∧
        ∀ fault, ((Files.decrypt c input output).run w).1 = .error fault →
          fault.isFormat = true → (KeySource.read w.files w.source).result = .error fault) ∧
    ∀ (c : Circumstances) (input output : String) (w : Workspace (Cached BasicSource))
      (stored : Bytes), w.files.read input = .ok stored →
      ∀ fault, ((Files.decrypt c input output).run w).1 = .error fault ∧ fault.isFormat = true ↔
        ∃ cause, ofBytes stored = .error cause ∧
          fault = cause.withContext s!"{input} is not a valid record" := by
  refine ⟨?_, fun _ => exists_truncated_iff, fun _ => exists_misaligned_iff, ?_, ofParts_agrees,
    fun _ _ _ => Key.decrypt_eq_format_error_iff, ?_,
    fun _ _ _ _ _ read _ => Files.decrypt_format_error_iff read⟩
  · intro bytes
    rw [exists_ofBytes_iff_lengthFault?, lengthFault?_eq_none_iff]
  · intro bytes fault failed
    have refused := ofBytes_eq_error_iff.mp failed
    refine ⟨(report_of_lengthFault? refused).1, fun other same => ?_⟩
    rw [ofBytes_eq_error_iff, same, refused]
  · intro σ _ c input output w stored read
    refine ⟨fun fault malformed => Files.run_decrypt_of_malformed c output read malformed, ?_⟩
    intro record parsed
    exact ⟨Files.source_decrypt_of_record c output read parsed,
      fun _ failed format => Files.answer_of_format_error read parsed failed format⟩

end FileSeal
