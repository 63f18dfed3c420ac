import FileSeal.Proofs.Sealing

namespace FileSeal

namespace Octets

theorem xor_comm {n : Nat} (x y : Octets n) : x ^^^ y = y ^^^ x := by
  ext1
  simp only [toBytes_xor]
  exact List.zipWith_comm_of_comm UInt8.xor_comm

theorem xor_left_cancel {n : Nat} {x y z : Octets n} (h : x ^^^ y = x ^^^ z) : y = z := by
  rw [← xor_xor_cancel y x, xor_comm y x, h, xor_comm x z, xor_xor_cancel]

/-- Two strings of one length at the end of the same bytes are the same. -/
theorem eq_of_suffix {n : Nat} {x y : Octets n} {bytes : Bytes} (hx : x.toBytes <:+ bytes)
    (hy : y.toBytes <:+ bytes) : x = y := by
  obtain ⟨before, hx⟩ := hx
  obtain ⟨before', hy⟩ := hy
  have h := List.append_inj_right' (hx.trans hy.symm) (by simp)
  exact Octets.ext h

theorem eq_of_prefix {n : Nat} {x y : Octets n} {bytes : Bytes} (hx : x.toBytes <+: bytes)
    (hy : y.toBytes <+: bytes) : x = y := by
  obtain ⟨after, hx⟩ := hx
  obtain ⟨after', hy⟩ := hy
  have h := List.append_inj_left (hx.trans hy.symm) (by simp)
  exact Octets.ext h

end Octets

/-- A chain that is not empty shows which block it has started from. -/
theorem chain_injective_previous {encrypt decrypt : Block → Block}
    (inverse : ∀ block, decrypt (encrypt block) = block) {previous other : Block}
    {message : List Block} (nonempty : message ≠ [])
    (h : chain encrypt previous message = chain encrypt other message) : previous = other := by
  obtain ⟨plain, rest, rfl⟩ := List.exists_cons_of_ne_nil nonempty
  have first : encrypt (plain ^^^ previous) = encrypt (plain ^^^ other) := List.head_eq_of_cons_eq h
  have combined : plain ^^^ previous = plain ^^^ other := by
    rw [← inverse (plain ^^^ previous), first, inverse]
  exact Octets.xor_left_cancel combined

namespace Record

theorem iv_prefix (record : Record) : record.iv.toBytes <+: record.toBytes :=
  ⟨record.ciphertext ++ record.digest.toBytes, by rw [toBytes, List.append_assoc]⟩

theorem digest_suffix (record : Record) : record.digest.toBytes <:+ record.toBytes :=
  ⟨record.iv.toBytes ++ record.ciphertext, rfl⟩

end Record

namespace Key

theorem blocks_pad_ne_nil (message : Bytes) : blocks (pad message) ≠ [] := by
  have length := length_blocks (length_pad_mod message)
  have pos := paddingLength_pos message
  intro empty
  simp only [empty, List.length_nil, length_pad] at length
  omega

theorem encipher_injective_iv {key : Key} {iv other : Block} {message : Bytes}
    (h : key.encipher iv message = key.encipher other message) : iv = other := by
  have chains : chain key.encryptBlock iv (blocks (pad message)) =
      chain key.encryptBlock other (blocks (pad message)) := by
    simpa only [encipher_eq, blocks_joinBlocks] using congrArg blocks h
  exact chain_injective_previous key.decryptBlock_encryptBlock (blocks_pad_ne_nil message) chains

/-- Of the records of one message, the initialization vector and the ciphertext each single out
one. -/
theorem sealed_unique {key : Key} {iv other : Block} {message : Bytes}
    (h : iv.toBytes <+: (key.sealed other message).toBytes ∨
      key.encipher iv message <+: (key.sealed other message).toBytes.drop 16) : iv = other := by
  rcases h with start | middle
  · exact Octets.eq_of_prefix start (Record.iv_prefix (key.sealed other message))
  · have rest : (key.sealed other message).toBytes.drop 16 =
        key.encipher other message ++ (FileSeal.digest message).toBytes := by
      simp [Record.toBytes]
    rw [rest] at middle
    obtain ⟨after, same⟩ := middle
    have ciphertexts := List.append_inj_left same (by simp only [length_encipher])
    exact encipher_injective_iv ciphertexts

theorem decrypt_eq_ok_digest {key : Key} {bytes message : Bytes}
    (h : key.decrypt bytes = .ok message) : (FileSeal.digest message).toBytes <:+ bytes := by
  obtain ⟨iv, rfl⟩ := decrypt_eq_ok_iff_sealed.mp h
  exact (key.sealed iv message).digest_suffix

/-- A digest of other bytes than the message is noticed under the right key. -/
theorem decrypt_of_wrong_digest (key : Key) (iv : Block) {message : Bytes} {digest : Digest}
    (wrong : digest ≠ FileSeal.digest message) :
    key.decrypt (iv.toBytes ++ key.encipher iv message ++ digest.toBytes) =
      .error Rejection.digest.fault := by
  let record : Record := { key.sealed iv message with digest }
  have rejected : key.tryDecrypt record = .error .digest := by
    simp [record, tryDecrypt, wrong.symm]
  have parsed : Record.ofBytes (iv.toBytes ++ key.encipher iv message ++ digest.toBytes) =
      .ok record := Record.ofBytes_toBytes record
  rw [decrypt_of_ofBytes parsed, decryptRecord, rejected, mapError_error]

/-- Under any key, bytes that end in the digest of a record decrypt at most to a message with that
digest. Under its own key, bytes that share the digest and the initialization vector or the
ciphertext with the record never decrypt to its message. If only the digest has changed, they are
rejected. -/
theorem tampering_detected (key : Key) (iv : Block) (message : Bytes) :
    ∃ record, key.encrypt iv message = .ok record ∧
      (∀ (other : Key) (bytes found : Bytes), record.digest.toBytes <:+ bytes →
        other.decrypt bytes = .ok found → FileSeal.digest found = FileSeal.digest message) ∧
      (∀ bytes, record.digest.toBytes <:+ bytes → bytes ≠ record.toBytes →
        (record.iv.toBytes <+: bytes ∨ record.ciphertext <+: bytes.drop 16) →
          (∃ fault, key.decrypt bytes = .error fault) ∨
          ∃ found, key.decrypt bytes = .ok found ∧ found ≠ message ∧
            FileSeal.digest found = FileSeal.digest message) ∧
      (∀ bytes, record.iv.toBytes ++ record.ciphertext <+: bytes →
        bytes.length = record.toBytes.length → bytes ≠ record.toBytes →
          key.decrypt bytes = .error (.new .user .integrityFailed
            "corrupt input, tampered-with data, or wrong key")) := by
  have sameDigest : ∀ (other : Key) (bytes found : Bytes),
      (FileSeal.digest message).toBytes <:+ bytes → other.decrypt bytes = .ok found →
        FileSeal.digest found = FileSeal.digest message := by
    intro other bytes found ending accepted
    exact Octets.eq_of_suffix (decrypt_eq_ok_digest accepted) ending
  refine ⟨key.sealed iv message, key.encrypt_eq iv message, sameDigest, ?_, ?_⟩
  · intro bytes ending changed shared
    cases opened : key.decrypt bytes with
    | error fault => exact .inl ⟨fault, rfl⟩
    | ok found =>
      refine .inr ⟨found, rfl, ?_, sameDigest key bytes found ending opened⟩
      rintro rfl
      obtain ⟨other, rfl⟩ := decrypt_eq_ok_iff_sealed.mp opened
      have same : iv = other := sealed_unique shared
      exact changed (by rw [same])
  · intro bytes start length changed
    obtain ⟨ending, rfl⟩ := start
    have ends : ending.length = 32 := by
      simpa [Record.toBytes] using length
    have wrong : (⟨ending, ends⟩ : Digest) ≠ FileSeal.digest message := by
      intro same
      apply changed
      rw [Record.toBytes, sealed_digest, ← same]
    exact (decrypt_of_wrong_digest key iv wrong :)

end Key

end FileSeal
