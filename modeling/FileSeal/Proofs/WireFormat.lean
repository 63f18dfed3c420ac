import FileSeal.Proofs.Sealing

namespace FileSeal

/-- How much is left of a length when another is taken off, if it is that long. -/
def remainder? (length taken : Nat) : Option Nat :=
  if taken ≤ length then some (length - taken) else none

/-- The parts of a byte string before and after a place in it, if the place is not past the end. -/
def splitAt? (place : Nat) (bytes : Bytes) : Option (Bytes × Bytes) :=
  if place ≤ bytes.length then some (bytes.splitAt place) else none

theorem remainder?_add (length taken : Nat) : remainder? (length + taken) taken = some length := by
  rw [remainder?, if_pos (Nat.le_add_left taken length), Nat.add_sub_cancel]

theorem splitAt?_append {place : Nat} {before : Bytes} (after : Bytes)
    (h : before.length = place) : splitAt? place (before ++ after) = some (before, after) := by
  have inside : place ≤ (before ++ after).length := by
    rw [List.length_append, h]
    exact Nat.le_add_right place after.length
  rw [splitAt?, if_pos inside, List.splitAt_eq, ← h, List.take_left, List.drop_left]

namespace Record

/-- Puts a record together without a failure of its own. Nothing comes out of a ciphertext that
cannot be in a record. -/
def assemble? (iv : Block) (ciphertext : Bytes) (digest : Digest) : Option Record :=
  (ofParts iv ciphertext digest).toOption

/-- Reads a stored record from its two ends. The lengths are checked once, at the start: nothing
comes out if a later step takes more bytes than there are, or leaves what is not a record. -/
def ofEnds? (bytes : Bytes) : Option (Except Fault Record) :=
  if bytes.length < minimumLength then some (.error (truncated bytes.length))
  else do
    let between ← remainder? bytes.length overhead
    if between = 0 ∨ between % blockLength ≠ 0 then return .error (misaligned between)
    let (start, rest) ← splitAt? ivLength bytes
    let (ciphertext, ending) ← splitAt? (← remainder? rest.length digestLength) rest
    let iv ← Octets.ofBytes? 16 start
    let digest ← Octets.ofBytes? 32 ending
    let record ← assemble? iv ciphertext digest
    return .ok record

theorem assemble?_eq_some (record : Record) :
    assemble? record.iv record.ciphertext record.digest = some record := by
  rw [assemble?, record.ofParts_eq_ok]
  rfl

/-- No step of the reading of a record's own bytes goes too far. -/
theorem ofEnds?_toBytes (record : Record) : ofEnds? record.toBytes = some (.ok record) := by
  have long : ¬ record.toBytes.length < minimumLength := by
    rw [length_toBytes]
    exact Nat.not_lt_of_le record.minimumLength_le_length
  have between : remainder? record.toBytes.length overhead = some record.ciphertext.length := by
    rw [length_toBytes, length, Nat.add_comm, remainder?_add]
  have whole : ¬ (record.ciphertext.length = 0 ∨ record.ciphertext.length % blockLength ≠ 0) := by
    have aligned : record.ciphertext.length % blockLength = 0 := record.aligned
    simp [record.nonempty, aligned]
  have start : splitAt? ivLength record.toBytes =
      some (record.iv.toBytes, record.ciphertext ++ record.digest.toBytes) := by
    rw [toBytes, List.append_assoc]
    exact splitAt?_append _ record.iv.length_toBytes
  have rest : remainder? (record.ciphertext ++ record.digest.toBytes).length digestLength =
      some record.ciphertext.length := by
    rw [List.length_append, record.digest.length_toBytes]
    exact remainder?_add _ _
  have ending : splitAt? record.ciphertext.length (record.ciphertext ++ record.digest.toBytes) =
      some (record.ciphertext, record.digest.toBytes) :=
    splitAt?_append _ rfl
  rw [ofEnds?, if_neg long, between]
  simp only [Option.bind_eq_bind, Option.bind_some, if_neg whole, start, rest, ending,
    Octets.ofBytes?_toBytes, assemble?_eq_some]
  rfl

/-- The two ways to read a record agree on all byte strings. -/
theorem ofEnds?_eq (bytes : Bytes) : ofEnds? bytes = some (ofBytes bytes) := by
  by_cases short : bytes.length < minimumLength
  · rw [ofEnds?, if_pos short, ofBytes_of_short short]
  · have long : minimumLength ≤ bytes.length := Nat.le_of_not_lt short
    by_cases aligned : (bytes.length - overhead) % 16 = 0
    -- Bytes that can be a record are the bytes of one.
    · obtain ⟨record, read⟩ := exists_ofBytes long aligned
      rw [read, ← toBytes_of_ofBytes read]
      exact record.ofEnds?_toBytes
    · have between : remainder? bytes.length overhead = some (bytes.length - overhead) :=
        if_pos (Nat.le_trans (Nat.le_add_right overhead blockLength) long)
      have broken : bytes.length - overhead = 0 ∨ (bytes.length - overhead) % blockLength ≠ 0 :=
        .inr aligned
      rw [ofBytes_of_misaligned long aligned, ofEnds?, if_neg short, between]
      simp only [Option.bind_eq_bind, Option.bind_some, if_pos broken]
      rfl

theorem drop_toBytes (record : Record) :
    record.toBytes.drop (record.toBytes.length - 32) = record.digest.toBytes := by
  apply List.drop_left'
  simp only [toBytes, List.length_append, record.digest.length_toBytes, Nat.add_sub_cancel]

theorem between_toBytes (record : Record) :
    (record.toBytes.drop 16).take (record.toBytes.length - 48) = record.ciphertext := by
  have length : record.toBytes.length - 48 = record.ciphertext.length := by
    rw [length_toBytes, Record.length]
    exact Nat.add_sub_cancel_left 48 _
  rw [length, toBytes, List.append_assoc, List.drop_left' record.iv.length_toBytes, List.take_left]

theorem ofParts_eq_ok_iff {iv : Block} {ciphertext : Bytes} {digest : Digest} {record : Record} :
    ofParts iv ciphertext digest = .ok record ↔
      record.iv = iv ∧ record.ciphertext = ciphertext ∧ record.digest = digest := by
  constructor
  · intro h
    unfold ofParts at h
    split at h
    next => cases h; exact ⟨rfl, rfl, rfl⟩
    next => cases h
  · rintro ⟨rfl, rfl, rfl⟩
    exact record.ofParts_eq_ok

theorem length_ciphertext (record : Record) :
    ∃ n, record.ciphertext.length = 16 * (n + 1) := by
  have := List.length_pos_iff.mpr record.nonempty
  have := record.aligned
  exact ⟨record.ciphertext.length / 16 - 1, by omega⟩

theorem exists_ofParts_iff {iv : Block} {ciphertext : Bytes} {digest : Digest} :
    (∃ record, ofParts iv ciphertext digest = .ok record) ↔
      ∃ n, ciphertext.length = 16 * (n + 1) := by
  constructor
  · rintro ⟨record, h⟩
    obtain ⟨-, rfl, -⟩ := ofParts_eq_ok_iff.mp h
    exact record.length_ciphertext
  · rintro ⟨n, length⟩
    have nonempty : ciphertext ≠ [] := List.ne_nil_of_length_pos (by omega)
    exact ⟨⟨iv, ciphertext, digest, nonempty, by omega⟩, ofParts_eq_ok_iff.mpr ⟨rfl, rfl, rfl⟩⟩

theorem exists_ofBytes_iff {bytes : Bytes} :
    (∃ record, ofBytes bytes = .ok record) ↔ ∃ n, bytes.length = 48 + 16 * (n + 1) := by
  constructor
  · rintro ⟨record, h⟩
    obtain ⟨n, length⟩ := record.length_ciphertext
    refine ⟨n, ?_⟩
    rw [← toBytes_of_ofBytes h, length_toBytes, Record.length, length]
    rfl
  · rintro ⟨n, length⟩
    apply exists_ofBytes
    · simp only [minimumLength, overhead, ivLength, digestLength, blockLength]
      omega
    · simp only [overhead, ivLength, digestLength]
      omega

/-- Stored bytes and records are the same thing: a record is read from its own bytes and from no
others, region by region, and every byte string of a valid length is a record's. All records have a
ciphertext of one or more whole blocks, from wherever they come. No step of the reading goes past an
end. -/
theorem wire_format :
    (∀ bytes record, ofBytes bytes = .ok record →
      record.toBytes = bytes ∧ record.length = bytes.length ∧
      record.iv.toBytes = bytes.take 16 ∧
      record.ciphertext = (bytes.drop 16).take (bytes.length - 48) ∧
      record.digest.toBytes = bytes.drop (bytes.length - 32)) ∧
    (∀ record, record.length = record.toBytes.length ∧ ofBytes record.toBytes = .ok record ∧
      record.isEmpty = record.ciphertext.isEmpty) ∧
    (∀ bytes other first second, ofBytes bytes = .ok first → ofBytes other = .ok second →
      (first = second ↔ bytes = other)) ∧
    (∀ bytes : Bytes, (∃ record, ofBytes bytes = .ok record) ↔
      ∃ n, bytes.length = 48 + 16 * (n + 1)) ∧
    (∀ iv ciphertext digest, (∃ record, ofParts iv ciphertext digest = .ok record) ↔
      ∃ n, ciphertext.length = 16 * (n + 1)) ∧
    (∀ iv ciphertext digest record, ofParts iv ciphertext digest = .ok record ↔
      record.iv = iv ∧ record.ciphertext = ciphertext ∧ record.digest = digest) ∧
    (∀ (key : Key) iv message, ∃ record, key.encrypt iv message = .ok record ∧
      record.ciphertext.length = 16 * (message.length / 16 + 1)) ∧
    ∀ bytes, ofEnds? bytes = some (ofBytes bytes) := by
  refine ⟨?_, ?_, ?_, fun _ => exists_ofBytes_iff, fun _ _ _ => exists_ofParts_iff,
    fun _ _ _ _ => ofParts_eq_ok_iff, ?_, ofEnds?_eq⟩
  · intro bytes record read
    cases toBytes_of_ofBytes read
    exact ⟨rfl, record.length_toBytes.symm, record.take_toBytes.symm, record.between_toBytes.symm,
      record.drop_toBytes.symm⟩
  · intro record
    have full : record.ciphertext.isEmpty = false := by simp [record.nonempty]
    exact ⟨record.length_toBytes.symm, record.ofBytes_toBytes, full.symm⟩
  · intro bytes other first second read read'
    cases toBytes_of_ofBytes read
    cases toBytes_of_ofBytes read'
    refine ⟨congrArg toBytes, fun same => ?_⟩
    rw [same, read'] at read
    exact Except.ok.inj read.symm
  · intro key iv message
    refine ⟨key.sealed iv message, key.encrypt_eq iv message, ?_⟩
    rw [Key.sealed_ciphertext, Key.length_encipher, Nat.mul_comm]

end Record

end FileSeal
