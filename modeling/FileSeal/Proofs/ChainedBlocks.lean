import Mathlib.Algebra.Group.Nat.Defs
import Mathlib.Order.Bounds.Basic
import FileSeal.Proofs.Sealing

namespace FileSeal

/-- Every block of a chain is the encryption of its plain block, combined with the block of the
chain before it. -/
theorem chain_getElem? (encrypt : Block → Block) (previous : Block) {message : List Block} {i : Nat}
    {plain : Block} (h : message[i]? = some plain) :
    ∃ before, (previous :: chain encrypt previous message)[i]? = some before ∧
      (chain encrypt previous message)[i]? = some (encrypt (plain ^^^ before)) := by
  induction message generalizing previous i with
  | nil => simp at h
  | cons first rest ih =>
    cases i with
    | zero =>
      cases Option.some.inj h
      exact ⟨previous, rfl, rfl⟩
    | succ i => exact ih (encrypt (first ^^^ previous)) h

namespace Record

/-- The length rule is computed without wrapping for all but the last sixteen lengths that there
are in 64-bit words. -/
theorem toNat_paddedLength {length : UInt64} (h : length.toNat ≤ 2 ^ 64 - 17) :
    (paddedLength length).toNat = (length.toNat / 16 + 1) * 16 := by
  have room : (length.toNat / 16 + 1) * 16 < 2 ^ 64 := by omega
  have rule := paddedLength_ofNat length.toNat
  rw [UInt64.ofNat_toNat] at rule
  rw [rule, UInt64.toNat_ofNat', Nat.mod_eq_of_lt room]

theorem isLeast_next_multiple (n : Nat) : IsLeast {m | 16 ∣ m ∧ n < m} ((n / 16 + 1) * 16) := by
  refine ⟨⟨Nat.dvd_mul_left 16 _, by omega⟩, ?_⟩
  rintro m ⟨⟨k, rfl⟩, above⟩
  have le : n / 16 + 1 ≤ k := by omega
  rw [Nat.mul_comm]
  exact Nat.mul_le_mul_left 16 le

end Record

namespace Key

theorem length_blocks_pad (message : Bytes) :
    (blocks (pad message)).length = message.length / 16 + 1 := by
  have whole := length_blocks (length_pad_mod message)
  simp only [length_pad, paddingLength] at whole
  omega

/-- Encryption never fails and gives just the specified record, of the length that the length rule
says. That rule gives the next whole number of blocks, and does not wrap. -/
theorem encrypt_gives_specified_record (key : Key) (iv : Block) (message : Bytes) :
    (∃ (record : Record) (plain cipher : List Block),
      key.encrypt iv message = .ok record ∧
      record.toBytes = iv.toBytes ++ joinBlocks cipher ++ (FileSeal.digest message).toBytes ∧
      record.toBytes.length = 48 + 16 * (message.length / 16 + 1) ∧
      joinBlocks plain = message ++
        List.replicate (16 - message.length % 16) (UInt8.ofNat (16 - message.length % 16)) ∧
      plain.length = message.length / 16 + 1 ∧ cipher.length = message.length / 16 + 1 ∧
      (∀ (i : Nat) (block : Block), plain[i]? = some block →
        ∃ before, (iv :: cipher)[i]? = some before ∧
          cipher[i]? = some (Aes.encrypt (Aes.Schedule.ofKey key.octets) (block ^^^ before))) ∧
      (message.length ≤ 2 ^ 64 - 17 →
        (Record.paddedLength (UInt64.ofNat message.length)).toNat = record.ciphertext.length)) ∧
    ∀ length : UInt64, length.toNat ≤ 2 ^ 64 - 17 →
      (Record.paddedLength length).toNat = (length.toNat / 16 + 1) * 16 ∧
      IsLeast {m | 16 ∣ m ∧ length.toNat < m} (Record.paddedLength length).toNat := by
  refine ⟨⟨key.sealed iv message, blocks (pad message),
    chain key.encryptBlock iv (blocks (pad message)), key.encrypt_eq iv message, rfl,
    key.length_sealed iv message, joinBlocks_blocks (length_pad_mod message),
    length_blocks_pad message, ?_, ?_, ?_⟩, ?_⟩
  · rw [length_chain, length_blocks_pad]
  · intro i block there
    exact chain_getElem? key.encryptBlock iv there
  · intro room
    have word : (UInt64.ofNat message.length).toNat = message.length := by
      rw [UInt64.toNat_ofNat']
      omega
    rw [← word] at room
    rw [Record.toNat_paddedLength room, word, sealed_ciphertext, length_encipher]
  · intro length room
    have rule := Record.toNat_paddedLength room
    refine ⟨rule, ?_⟩
    rw [rule]
    exact Record.isLeast_next_multiple length.toNat

end Key

end FileSeal
