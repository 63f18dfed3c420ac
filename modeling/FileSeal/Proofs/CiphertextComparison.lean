import FileSeal.Proofs.Rewriting
import FileSeal.Proofs.Tampering

namespace FileSeal

theorem joinBlocks_take (bs : List Block) (count : Nat) :
    joinBlocks (bs.take count) = (joinBlocks bs).take (16 * count) := by
  induction bs generalizing count with
  | nil => simp
  | cons block rest ih =>
    cases count with
    | zero => rfl
    | succ count =>
      have past : 16 * (count + 1) = block.toBytes.length + 16 * count := by
        rw [block.length_toBytes]
        omega
      rw [List.take_succ_cons, joinBlocks_cons, ih, joinBlocks_cons, past,
        List.take_length_add_append]

theorem joinBlocks_inj {bs cs : List Block} : joinBlocks bs = joinBlocks cs ↔ bs = cs := by
  refine ⟨fun same => ?_, congrArg joinBlocks⟩
  rw [← blocks_joinBlocks bs, same, blocks_joinBlocks]

/-- The sixteen bytes at the place of a block, or as many of them as there are. -/
def blockAt (i : Nat) (bytes : Bytes) : Bytes :=
  (bytes.drop (16 * i)).take 16

theorem blockAt_joinBlocks {bs : List Block} {i : Nat} {block : Block}
    (there : bs[i]? = some block) : blockAt i (joinBlocks bs) = block.toBytes := by
  have first : (bs.drop i).take 1 = [block] := by
    rw [List.take_one, List.head?_drop, there]
    rfl
  have taken := joinBlocks_take (bs.drop i) 1
  rw [first, joinBlocks_cons, joinBlocks_nil, List.append_nil] at taken
  rw [blockAt, ← joinBlocks_drop, taken]

theorem take_succ_block (bytes : Bytes) (i : Nat) :
    bytes.take (16 * (i + 1)) = bytes.take (16 * i) ++ blockAt i bytes := by
  rw [Nat.mul_succ, List.take_add, blockAt]

/-- Chains that start from different blocks differ at every place: each block passes the difference
on to the next. -/
theorem chain_getElem?_ne {encrypt decrypt : Block → Block}
    (inverse : ∀ block, decrypt (encrypt block) = block) {previous other : Block}
    (different : previous ≠ other) {message : List Block} {i : Nat} (inside : i < message.length) :
    (chain encrypt previous message)[i]? ≠ (chain encrypt other message)[i]? := by
  induction message generalizing previous other i with
  | nil => exact absurd inside (Nat.not_lt_zero i)
  | cons plain rest ih =>
    have passed : encrypt (plain ^^^ previous) ≠ encrypt (plain ^^^ other) := by
      intro same
      have combined := congrArg decrypt same
      rw [inverse, inverse] at combined
      exact different (Octets.xor_left_cancel combined)
    cases i with
    | zero => exact fun same => passed (Option.some.inj same)
    | succ i => exact ih passed (Nat.lt_of_succ_lt_succ inside)

theorem chain_take (encrypt : Block → Block) (previous : Block) (message : List Block)
    (count : Nat) :
    (chain encrypt previous message).take count = chain encrypt previous (message.take count) := by
  induction message generalizing previous count with
  | nil => simp [chain]
  | cons plain rest ih =>
    cases count with
    | zero => rfl
    | succ count => simp only [chain, List.take_succ_cons, ih]

theorem chain_inj {encrypt decrypt : Block → Block}
    (inverse : ∀ block, decrypt (encrypt block) = block) (previous : Block)
    {message other : List Block} :
    chain encrypt previous message = chain encrypt previous other ↔ message = other := by
  refine ⟨fun same => ?_, congrArg (chain encrypt previous)⟩
  rw [← unchain_chain inverse previous message, same, unchain_chain inverse]

namespace Key

variable {key : Key} {iv : Block} {message other : Bytes}

theorem blockAt_encipher_ne {iv' : Block} (fresh : iv ≠ iv') {i : Nat}
    (inside : i ≤ message.length / 16) :
    blockAt i (key.encipher iv message) ≠ blockAt i (key.encipher iv' message) := by
  have place : i < (blocks (pad message)).length := by
    rw [length_blocks_pad]
    exact Nat.lt_succ_of_le inside
  have plain := List.getElem?_eq_getElem place
  obtain ⟨_, -, first⟩ := chain_getElem? key.encryptBlock iv plain
  obtain ⟨_, -, second⟩ := chain_getElem? key.encryptBlock iv' plain
  have different := chain_getElem?_ne key.decryptBlock_encryptBlock fresh place
  rw [encipher_eq, encipher_eq, blockAt_joinBlocks first, blockAt_joinBlocks second]
  intro same
  rw [first, second, Octets.ext same] at different
  exact different rfl

theorem take_pad (message : Bytes) (count : Nat) :
    (pad message).take (16 * count) = joinBlocks ((blocks (pad message)).take count) := by
  rw [joinBlocks_take, joinBlocks_blocks (length_pad_mod message)]

theorem take_encipher (key : Key) (iv : Block) (message : Bytes) (count : Nat) :
    (key.encipher iv message).take (16 * count) =
      joinBlocks (chain key.encryptBlock iv ((blocks (pad message)).take count)) := by
  rw [encipher_eq, ← joinBlocks_take, chain_take]

/-- Under one initialization vector, ciphertexts begin alike exactly as far as the padded messages
do. -/
theorem take_encipher_eq_iff (count : Nat) :
    (key.encipher iv message).take (16 * count) = (key.encipher iv other).take (16 * count) ↔
      (pad message).take (16 * count) = (pad other).take (16 * count) := by
  rw [take_encipher, take_encipher, take_pad, take_pad, joinBlocks_inj, joinBlocks_inj,
    chain_inj key.decryptBlock_encryptBlock]

/-- After blocks that agree, the next blocks of the ciphertexts agree exactly if those of the padded
messages do. -/
theorem blockAt_encipher_eq_iff {i : Nat}
    (alike : (pad message).take (16 * i) = (pad other).take (16 * i)) :
    blockAt i (key.encipher iv message) = blockAt i (key.encipher iv other) ↔
      blockAt i (pad message) = blockAt i (pad other) := by
  have before : (key.encipher iv message).take (16 * i) = (key.encipher iv other).take (16 * i) :=
    (take_encipher_eq_iff i).mpr alike
  have through : (key.encipher iv message).take (16 * (i + 1)) =
      (key.encipher iv other).take (16 * (i + 1)) ↔ _ := take_encipher_eq_iff (i + 1)
  simpa only [take_succ_block, before, alike, List.append_cancel_left_eq] using through

theorem take_pad_append (message rest : Bytes) :
    (pad (message ++ rest)).take (16 * (message.length / 16)) =
      (pad message).take (16 * (message.length / 16)) := by
  have within : 16 * (message.length / 16) ≤ message.length := Nat.mul_div_le _ 16
  rw [pad, pad, List.append_assoc, List.take_append_of_le_length within,
    List.take_append_of_le_length within]

/-- Under a fresh initialization vector every block of a message's ciphertext comes out differently,
the one with the padding included. The two records have the same length and the same digest, and
both open to the message. -/
theorem fresh_iv_changes_every_block (key : Key) {iv iv' : Block} (fresh : iv ≠ iv')
    (message : Bytes) :
    ∃ first second, key.encrypt iv message = .ok first ∧ key.encrypt iv' message = .ok second ∧
      first.toBytes.length = second.toBytes.length ∧ first.digest = second.digest ∧
      first.ciphertext.length = 16 * (message.length / 16 + 1) ∧
      second.ciphertext.length = 16 * (message.length / 16 + 1) ∧
      (∀ i ≤ message.length / 16,
        blockAt i first.ciphertext ≠ blockAt i second.ciphertext) ∧
      first ≠ second ∧
      ∀ record ∈ [first, second],
        key.decryptRecord record = .ok message ∧ key.decrypt record.toBytes = .ok message := by
  have opens (iv : Block) : key.decryptRecord (key.sealed iv message) = .ok message ∧
      key.decrypt (key.sealed iv message).toBytes = .ok message :=
    ⟨decryptRecord_eq_ok.mpr (key.tryDecrypt_sealed iv message), key.decrypt_sealed iv message⟩
  have length (iv : Block) :
      (key.sealed iv message).ciphertext.length = 16 * (message.length / 16 + 1) := by
    rw [sealed_ciphertext, length_encipher, Nat.mul_comm]
  have changed {i : Nat} (inside : i ≤ message.length / 16) :
      blockAt i (key.sealed iv message).ciphertext ≠
        blockAt i (key.sealed iv' message).ciphertext := blockAt_encipher_ne fresh inside
  refine ⟨key.sealed iv message, key.sealed iv' message, key.encrypt_eq iv message,
    key.encrypt_eq iv' message, ?_, rfl, length iv, length iv', fun _ => changed, ?_, ?_⟩
  · rw [length_sealed, length_sealed]
  · intro same
    exact changed (Nat.zero_le _) (by rw [same])
  · intro record mem
    simp only [List.mem_cons, List.not_mem_nil, or_false] at mem
    rcases mem with rfl | rfl
    · exact opens iv
    · exact opens iv'

/-- The second block of a message of twenty bytes is half padding. -/
theorem fresh_iv_changes_every_block_padding :
    let key : Key := ⟨Octets.replicate 32 7⟩
    let message : Bytes := List.replicate 20 5
    let iv : Block := Octets.replicate 16 0
    let iv' : Block := Octets.replicate 16 1
    iv ≠ iv' ∧ ∃ first second, key.encrypt iv message = .ok first ∧
      key.encrypt iv' message = .ok second ∧
      blockAt 0 first.ciphertext ≠ blockAt 0 second.ciphertext ∧
      blockAt 1 first.ciphertext ≠ blockAt 1 second.ciphertext := by
  intro key message iv iv'
  have fresh : iv ≠ iv' := by decide
  obtain ⟨first, second, encrypted, encrypted', -, -, -, -, changed, -⟩ :=
    fresh_iv_changes_every_block key fresh message
  exact ⟨fresh, first, second, encrypted, encrypted', changed 0 (by decide), changed 1 (by decide)⟩

/-- What a repeated initialization vector gives away: the ciphertexts of two messages begin with the
same blocks exactly as far as the padded messages do, and part at the block where these part. So all
whole blocks of a message keep their ciphertext when the message is extended. -/
theorem repeated_iv_shows_common_blocks (key : Key) (iv : Block) (message other : Bytes) :
    ∃ first second, key.encrypt iv message = .ok first ∧ key.encrypt iv other = .ok second ∧
      first.ciphertext.length = (pad message).length ∧
      second.ciphertext.length = (pad other).length ∧
      (∀ count, first.ciphertext.take (16 * count) = second.ciphertext.take (16 * count) ↔
        (pad message).take (16 * count) = (pad other).take (16 * count)) ∧
      (∀ i, (pad message).take (16 * i) = (pad other).take (16 * i) →
        blockAt i (pad message) ≠ blockAt i (pad other) →
          blockAt i first.ciphertext ≠ blockAt i second.ciphertext) ∧
      ∀ rest, other = message ++ rest →
        second.ciphertext.take (16 * (message.length / 16)) =
          first.ciphertext.take (16 * (message.length / 16)) := by
  have length (message : Bytes) :
      (key.sealed iv message).ciphertext.length = (pad message).length := by
    rw [sealed_ciphertext, length_encipher, ← length_blocks_pad, Nat.mul_comm,
      length_blocks (length_pad_mod message)]
  refine ⟨key.sealed iv message, key.sealed iv other, key.encrypt_eq iv message,
    key.encrypt_eq iv other, length message, length other, take_encipher_eq_iff, ?_, ?_⟩
  · intro i alike parted
    exact mt (blockAt_encipher_eq_iff alike).mp parted
  · rintro rest rfl
    exact (take_encipher_eq_iff _).mpr (take_pad_append message rest)

end Key

end FileSeal
