import FileSeal.Cipher
import FileSeal.Proofs.BlockCipher

namespace FileSeal

@[simp] theorem mapError_ok {ε ε' α : Type} (f : ε → ε') (a : α) :
    (Except.ok a).mapError f = .ok a := rfl

@[simp] theorem mapError_error {ε ε' α : Type} (f : ε → ε') (e : ε) :
    (Except.error e : Except ε α).mapError f = .error (f e) := rfl

theorem length_blocks {bytes : Bytes} (h : bytes.length % 16 = 0) :
    16 * (blocks bytes).length = bytes.length := by
  rw [← length_joinBlocks, joinBlocks_blocks h]

namespace Record

theorem ofParts_eq_ok (record : Record) :
    ofParts record.iv record.ciphertext record.digest = .ok record := by
  simp [ofParts, record.nonempty, record.aligned]

theorem toBytes_of_ofBytes {bytes : Bytes} {record : Record} (h : ofBytes bytes = .ok record) :
    record.toBytes = bytes := by
  unfold ofBytes at h
  split at h
  next => simp at h
  next long =>
    have long : 64 ≤ bytes.length := Nat.le_of_not_lt long
    simp only [ofParts] at h
    split at h
    next =>
      cases Except.ok.inj h
      have middle : (bytes.drop 16).take (bytes.length - overhead) ++
          bytes.drop (bytes.length - 32) = bytes.drop 16 := by
        have cut : bytes.drop (bytes.length - 32) =
            (bytes.drop 16).drop (bytes.length - overhead) := by
          rw [List.drop_drop]
          congr 1
          simp only [overhead, ivLength, digestLength]
          omega
        rw [cut, List.take_append_drop]
      simp only [toBytes, List.append_assoc, middle, List.take_append_drop]
    next => simp at h

theorem ofBytes_of_short {bytes : Bytes} (short : bytes.length < minimumLength) :
    ofBytes bytes = .error (truncated bytes.length) := by
  rw [ofBytes, dif_pos short]

theorem length_between (bytes : Bytes) :
    ((bytes.drop 16).take (bytes.length - overhead)).length = bytes.length - overhead := by
  simp only [List.length_take, List.length_drop, overhead, ivLength, digestLength]
  omega

theorem exists_ofBytes {bytes : Bytes} (long : minimumLength ≤ bytes.length)
    (aligned : (bytes.length - overhead) % 16 = 0) : ∃ record, ofBytes bytes = .ok record := by
  have nonempty : (bytes.drop 16).take (bytes.length - overhead) ≠ [] := by
    apply List.ne_nil_of_length_pos
    rw [length_between]
    simp only [minimumLength, blockLength] at long
    omega
  have whole : ((bytes.drop 16).take (bytes.length - overhead)).length % 16 = 0 := by
    rw [length_between]
    exact aligned
  rw [ofBytes, dif_neg (Nat.not_lt_of_le long)]
  dsimp only [ofParts]
  exact ⟨_, dif_pos ⟨nonempty, whole⟩⟩

theorem ofBytes_of_misaligned {bytes : Bytes} (long : minimumLength ≤ bytes.length)
    (odd : (bytes.length - overhead) % 16 ≠ 0) :
    ofBytes bytes = .error (misaligned (bytes.length - overhead)) := by
  have broken : ((bytes.drop 16).take (bytes.length - overhead)).length % 16 ≠ 0 := by
    rw [length_between]
    exact odd
  rw [ofBytes, dif_neg (Nat.not_lt_of_le long)]
  dsimp only [ofParts]
  rw [dif_neg fun h => broken h.2, length_between]

theorem take_toBytes (record : Record) : record.toBytes.take 16 = record.iv.toBytes := by
  simp [toBytes]

/-- The length rule in 64-bit words agrees with the one in unbounded numbers, wrapping included. -/
theorem paddedLength_ofNat (n : Nat) :
    paddedLength (UInt64.ofNat n) = UInt64.ofNat ((n / 16 + 1) * 16) := by
  apply UInt64.toNat_inj.mp
  simp only [paddedLength, UInt64.toNat_mul, UInt64.toNat_add, UInt64.toNat_div,
    UInt64.toNat_ofNat', UInt64.reduceToNat]
  omega

end Record

namespace Key

theorem decryptBlock_encryptBlock (key : Key) (block : Block) :
    key.decryptBlock (key.encryptBlock block) = block :=
  Aes.decrypt_encrypt _ block

theorem encryptBlock_decryptBlock (key : Key) (block : Block) :
    key.encryptBlock (key.decryptBlock block) = block :=
  Aes.encrypt_decrypt _ block

theorem encipher_eq (key : Key) (iv : Block) (message : Bytes) :
    key.encipher iv message = joinBlocks (chain key.encryptBlock iv (blocks (pad message))) := rfl

theorem decipher_eq (key : Key) (iv : Block) (ciphertext : Bytes) :
    key.decipher iv ciphertext = joinBlocks (unchain key.decryptBlock iv (blocks ciphertext)) :=
  rfl

theorem length_encipher (key : Key) (iv : Block) (message : Bytes) :
    (key.encipher iv message).length = (message.length / 16 + 1) * 16 := by
  rw [encipher_eq, length_joinBlocks, length_chain, length_blocks (length_pad_mod message)]
  simp only [length_pad, paddingLength]
  omega

theorem length_decipher (key : Key) (iv : Block) {ciphertext : Bytes}
    (aligned : ciphertext.length % 16 = 0) :
    (key.decipher iv ciphertext).length = ciphertext.length := by
  rw [decipher_eq, length_joinBlocks, length_unchain, length_blocks aligned]

@[simp] theorem decipher_encipher (key : Key) (iv : Block) (message : Bytes) :
    key.decipher iv (key.encipher iv message) = pad message := by
  rw [decipher_eq, encipher_eq, blocks_joinBlocks,
    unchain_chain key.decryptBlock_encryptBlock, joinBlocks_blocks (length_pad_mod message)]

theorem encipher_of_decipher {key : Key} {iv : Block} {ciphertext message : Bytes}
    (aligned : ciphertext.length % 16 = 0) (h : key.decipher iv ciphertext = pad message) :
    key.encipher iv message = ciphertext := by
  rw [encipher_eq, ← h, decipher_eq, blocks_joinBlocks,
    chain_unchain key.encryptBlock_decryptBlock, joinBlocks_blocks aligned]

/-- The record of a message under a key and an initialization vector. -/
def sealed (key : Key) (iv : Block) (message : Bytes) : Record where
  iv := iv
  ciphertext := key.encipher iv message
  digest := digest message
  nonempty := by
    apply List.ne_nil_of_length_pos
    rw [length_encipher]
    omega
  aligned := by
    rw [length_encipher]
    omega

@[simp] theorem sealed_iv (key : Key) (iv : Block) (message : Bytes) :
    (key.sealed iv message).iv = iv := rfl

@[simp] theorem sealed_ciphertext (key : Key) (iv : Block) (message : Bytes) :
    (key.sealed iv message).ciphertext = key.encipher iv message := rfl

@[simp] theorem sealed_digest (key : Key) (iv : Block) (message : Bytes) :
    (key.sealed iv message).digest = FileSeal.digest message := rfl

theorem take_toBytes_sealed (key : Key) (iv : Block) (message : Bytes) :
    (key.sealed iv message).toBytes.take 16 = iv.toBytes :=
  Record.take_toBytes _

theorem length_sealed (key : Key) (iv : Block) (message : Bytes) :
    (key.sealed iv message).toBytes.length = 48 + 16 * (message.length / 16 + 1) := by
  rw [Record.length_toBytes, Record.length, sealed, length_encipher, Nat.mul_comm]
  rfl

/-- Encryption never fails: the check of the length always passes. -/
theorem encrypt_eq (key : Key) (iv : Block) (message : Bytes) :
    key.encrypt iv message = .ok (key.sealed iv message) := by
  have fits : UInt64.ofNat (key.encipher iv message).length =
      Record.paddedLength (UInt64.ofNat message.length) := by
    rw [length_encipher, Record.paddedLength_ofNat]
  rw [encrypt, if_pos fits]
  exact Record.ofParts_eq_ok (key.sealed iv message)

theorem tryDecrypt_sealed (key : Key) (iv : Block) (message : Bytes) :
    key.tryDecrypt (key.sealed iv message) = .ok message := by
  simp [tryDecrypt]

/-- A record is accepted under a key exactly if it is the record of the message that comes out. -/
theorem tryDecrypt_eq_ok_iff {key : Key} {record : Record} {message : Bytes} :
    key.tryDecrypt record = .ok message ↔ record = key.sealed record.iv message := by
  constructor
  · intro h
    unfold tryDecrypt at h
    split at h
    next => simp at h
    next found unpadded =>
      split at h
      next same =>
        cases Except.ok.inj h
        have padded : key.decipher record.iv record.ciphertext = pad message := by
          apply eq_pad_of_unpad? unpadded
          rw [key.length_decipher record.iv record.aligned]
          exact record.aligned
        have ciphertext := encipher_of_decipher record.aligned padded
        cases record
        simp_all [sealed]
      next => simp at h
  · intro h
    rw [h]
    exact key.tryDecrypt_sealed record.iv message

theorem decryptRecord_eq_ok {key : Key} {record : Record} {message : Bytes} :
    key.decryptRecord record = .ok message ↔ key.tryDecrypt record = .ok message := by
  rw [decryptRecord]
  cases key.tryDecrypt record <;> simp

theorem decrypt_of_ofBytes {key : Key} {bytes : Bytes} {record : Record}
    (h : Record.ofBytes bytes = .ok record) : key.decrypt bytes = key.decryptRecord record := by
  simp [decrypt, h, bind, Except.bind]

theorem decrypt_of_ofBytes_error {key : Key} {bytes : Bytes} {fault : Fault}
    (h : Record.ofBytes bytes = .error fault) : key.decrypt bytes = .error fault := by
  simp [decrypt, h, bind, Except.bind]

theorem decrypt_sealed (key : Key) (iv : Block) (message : Bytes) :
    key.decrypt (key.sealed iv message).toBytes = .ok message := by
  rw [decrypt_of_ofBytes (Record.ofBytes_toBytes _), decryptRecord_eq_ok, tryDecrypt_sealed]

theorem decrypt_eq_ok_iff_sealed {key : Key} {bytes message : Bytes} :
    key.decrypt bytes = .ok message ↔ ∃ iv, (key.sealed iv message).toBytes = bytes := by
  constructor
  · intro h
    cases parsed : Record.ofBytes bytes with
    | error fault => simp [decrypt_of_ofBytes_error parsed] at h
    | ok record =>
      rw [decrypt_of_ofBytes parsed, decryptRecord_eq_ok, tryDecrypt_eq_ok_iff] at h
      exact ⟨record.iv, h ▸ Record.toBytes_of_ofBytes parsed⟩
  · intro h
    obtain ⟨iv, rfl⟩ := h
    exact key.decrypt_sealed iv message

/-- Decryption undoes encryption, of blocks, of records and of stored bytes. -/
theorem encrypt_then_decrypt (key : Key) (iv : Block) (message : Bytes) :
    (∀ block, key.decryptBlock (key.encryptBlock block) = block) ∧
    ∃ record, key.encrypt iv message = .ok record ∧
      key.decryptRecord record = .ok message ∧ key.decrypt record.toBytes = .ok message := by
  refine ⟨key.decryptBlock_encryptBlock, key.sealed iv message, key.encrypt_eq iv message, ?_, ?_⟩
  · exact decryptRecord_eq_ok.mpr (key.tryDecrypt_sealed iv message)
  · exact key.decrypt_sealed iv message

/-- Stored records are canonical: the bytes that are accepted are those that encryption of the
message under their own initialization vector stores, so no others are accepted in their place. -/
theorem decrypt_then_encrypt (key : Key) (bytes message : Bytes) :
    (key.decrypt bytes = .ok message ↔
      ∃ iv record, iv.toBytes = bytes.take 16 ∧ key.encrypt iv message = .ok record ∧
        record.toBytes = bytes) ∧
    ∀ other, key.decrypt bytes = .ok message → key.decrypt other = .ok message →
      other.take 16 = bytes.take 16 → other = bytes := by
  simp only [decrypt_eq_ok_iff_sealed, encrypt_eq]
  refine ⟨⟨?_, ?_⟩, ?_⟩
  · intro h
    obtain ⟨iv, rfl⟩ := h
    exact ⟨iv, key.sealed iv message, (key.take_toBytes_sealed iv message).symm, rfl, rfl⟩
  · intro h
    obtain ⟨iv, record, -, encrypted, rfl⟩ := h
    exact ⟨iv, congrArg Record.toBytes (Except.ok.inj encrypted)⟩
  · rintro other ⟨iv, rfl⟩ ⟨iv', rfl⟩ start
    simp only [take_toBytes_sealed] at start
    rw [Octets.ext start]

end Key

end FileSeal
