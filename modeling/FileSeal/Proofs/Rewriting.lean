import FileSeal.Proofs.ChainedBlocks

namespace FileSeal

/-- Combines a mask into the first bytes of a byte string. -/
def xorStart : Bytes → Bytes → Bytes
  | m :: mask, b :: bytes => (b ^^^ m) :: xorStart mask bytes
  | _, bytes => bytes

@[simp] theorem xorStart_nil (mask : Bytes) : xorStart mask [] = [] := by
  cases mask <;> rfl

@[simp] theorem nil_xorStart (bytes : Bytes) : xorStart [] bytes = bytes := by
  cases bytes <;> rfl

@[simp] theorem length_xorStart (mask bytes : Bytes) :
    (xorStart mask bytes).length = bytes.length := by
  fun_induction xorStart mask bytes with
  | case1 m mask b bytes ih => simp [ih]
  | case2 => rfl

theorem xorStart_append (mask first second : Bytes) :
    xorStart mask (first ++ second) =
      xorStart mask first ++ xorStart (mask.drop first.length) second := by
  induction first generalizing mask with
  | nil => simp
  | cons b first ih =>
    cases mask with
    | nil => simp
    | cons m mask => simp [xorStart, ih]

theorem xorStart_eq_self {mask : Bytes} (zero : ∀ m ∈ mask, m = 0) (bytes : Bytes) :
    xorStart mask bytes = bytes := by
  fun_induction xorStart mask bytes with
  | case1 m mask b bytes ih =>
    have first : m = 0 := zero m List.mem_cons_self
    have rest := ih fun other mem => zero other (List.mem_cons_of_mem m mem)
    rw [first, UInt8.xor_zero, rest]
  | case2 => rfl

theorem xorStart_eq_zipWith {mask bytes : Bytes} (same : bytes.length = mask.length) :
    xorStart mask bytes = List.zipWith (· ^^^ ·) bytes mask := by
  fun_induction xorStart mask bytes with
  | case1 m mask b bytes ih =>
    rw [List.zipWith_cons_cons, ih (by simpa using same)]
  | case2 mask bytes short =>
    cases mask with
    | nil => simp_all
    | cons m mask =>
      cases bytes with
      | nil => rfl
      | cons b bytes => exact (short m mask b bytes rfl rfl).elim

theorem joinBlocks_drop (bs : List Block) (count : Nat) :
    joinBlocks (bs.drop count) = (joinBlocks bs).drop (16 * count) := by
  induction bs generalizing count with
  | nil => simp
  | cons block rest ih =>
    cases count with
    | zero => rfl
    | succ count =>
      have past : 16 * (count + 1) = block.toBytes.length + 16 * count := by
        rw [block.length_toBytes]
        omega
      rw [List.drop_succ_cons, ih, joinBlocks_cons, past, List.drop_length_add_append]

namespace Octets

theorem xor_assoc {n : Nat} (x y z : Octets n) : x ^^^ y ^^^ z = x ^^^ (y ^^^ z) := by
  ext1
  apply List.ext_getElem
  · simp
  · intro i _ _
    simp only [toBytes_xor, List.getElem_zipWith, UInt8.xor_assoc]

theorem xorStart_toBytes_append {n : Nat} (mask x : Octets n) (rest : Bytes) :
    xorStart mask.toBytes (x.toBytes ++ rest) = (x ^^^ mask).toBytes ++ rest := by
  have past : mask.toBytes.drop x.toBytes.length = [] := List.drop_of_length_le (by simp)
  rw [xorStart_append, past, nil_xorStart, xorStart_eq_zipWith (by simp), toBytes_xor]

end Octets

/-- What is left of a chain when its first blocks are dropped is a chain that starts from the last
block dropped. -/
theorem exists_drop_chain (encrypt : Block → Block) (previous : Block) {message : List Block}
    {count : Nat} (h : count ≤ message.length) :
    ∃ start, (previous :: chain encrypt previous message).drop count =
      start :: chain encrypt start (message.drop count) := by
  induction message generalizing previous count with
  | nil =>
    have none : count = 0 := Nat.le_zero.mp h
    exact ⟨previous, by rw [none]; rfl⟩
  | cons plain rest ih =>
    cases count with
    | zero => exact ⟨previous, rfl⟩
    | succ count => exact ih (encrypt (plain ^^^ previous)) (Nat.le_of_succ_le_succ h)

/-- A mask on the block before a chain comes out in the first block of the message and nowhere
else. -/
theorem unchain_chain_mask {encrypt decrypt : Block → Block}
    (inverse : ∀ block, decrypt (encrypt block) = block) (start mask plain : Block)
    (rest : List Block) :
    unchain decrypt (start ^^^ mask) (chain encrypt start (plain :: rest)) =
      (plain ^^^ mask) :: rest := by
  have first : plain ^^^ start ^^^ (start ^^^ mask) = plain ^^^ mask := by
    rw [← Octets.xor_assoc, Octets.xor_xor_cancel]
  rw [chain, unchain, inverse, first, unchain_chain inverse]

/-- Whole blocks dropped from a message and a mask on what is left change nothing about its
padding, as long as the mask stays within the message. -/
theorem pad_xorStart_drop {message mask : Bytes} {count : Nat} (room : 16 * count ≤ message.length)
    (within : ∀ m ∈ mask.drop (message.length - 16 * count), m = 0) :
    pad (xorStart mask (message.drop (16 * count))) =
      xorStart mask ((pad message).drop (16 * count)) := by
  have same :
      paddingLength (xorStart mask (message.drop (16 * count))) = paddingLength message := by
    simp only [paddingLength, length_xorStart, List.length_drop]
    omega
  rw [pad, same, pad, List.drop_append_of_le_length room, xorStart_append, List.length_drop,
    xorStart_eq_self within]

/-- Rewrites stored bytes without a key: drops blocks at the start, combines a mask into the first
block that is left, and puts another digest at the end. -/
def rewrite (count : Nat) (mask : Block) (ending : Digest) (stored : Bytes) : Bytes :=
  let rest := xorStart mask.toBytes (stored.drop (16 * count))
  rest.take (rest.length - 32) ++ ending.toBytes

theorem rewrite_eq {stored body : Bytes} {count : Nat} {start : Block} {last : Digest}
    (left : stored.drop (16 * count) = start.toBytes ++ body ++ last.toBytes) (mask : Block)
    (ending : Digest) :
    rewrite count mask ending stored = (start ^^^ mask).toBytes ++ body ++ ending.toBytes := by
  have masked : xorStart mask.toBytes (stored.drop (16 * count)) =
      (start ^^^ mask).toBytes ++ body ++ last.toBytes := by
    rw [left, List.append_assoc, Octets.xorStart_toBytes_append, List.append_assoc]
  have cut : ((start ^^^ mask).toBytes ++ body ++ last.toBytes).length - 32 =
      ((start ^^^ mask).toBytes ++ body).length := by
    rw [List.length_append, last.length_toBytes, Nat.add_sub_cancel]
  simp only [rewrite, masked, cut, List.take_left]

/-- Without a mask and with the digest left alone, all that happens is that blocks are dropped. -/
theorem rewrite_eq_drop {stored before : Bytes} {count : Nat} {ending : Digest}
    (ends : stored = before ++ ending.toBytes) (room : 16 * count ≤ before.length) :
    rewrite count (Octets.replicate 16 0) ending stored = stored.drop (16 * count) := by
  have zero : ∀ m ∈ (Octets.replicate 16 0).toBytes, m = 0 :=
    fun m mem => List.eq_of_mem_replicate mem
  have cut : stored.drop (16 * count) = before.drop (16 * count) ++ ending.toBytes := by
    rw [ends, List.drop_append_of_le_length room]
  simp only [rewrite, xorStart_eq_self zero, cut, List.length_append, ending.length_toBytes,
    Nat.add_sub_cancel, List.take_left]

namespace Key

variable {key : Key} {iv : Block} {message : Bytes}

theorem toBytes_sealed (key : Key) (iv : Block) (message : Bytes) :
    (key.sealed iv message).toBytes =
      joinBlocks (iv :: chain key.encryptBlock iv (blocks (pad message))) ++
        (FileSeal.digest message).toBytes := rfl

/-- What has been rewritten is a record again, and its padded message is the old one without the
dropped blocks and with the mask in it. -/
theorem exists_rewritten {count : Nat} {mask : Block} (ending : Digest)
    (room : 16 * count ≤ message.length)
    (within : ∀ m ∈ mask.toBytes.drop (message.length - 16 * count), m = 0) :
    ∃ record : Record, record.toBytes = rewrite count mask ending (key.sealed iv message).toBytes ∧
      record.digest = ending ∧
      key.decipher record.iv record.ciphertext =
        pad (xorStart mask.toBytes (message.drop (16 * count))) := by
  have length := length_blocks_pad message
  have enough : count ≤ (blocks (pad message)).length := by omega
  obtain ⟨start, dropped⟩ := exists_drop_chain key.encryptBlock iv enough
  obtain ⟨plain, rest, left⟩ : ∃ plain rest, (blocks (pad message)).drop count = plain :: rest := by
    apply List.exists_cons_of_length_pos
    rw [List.length_drop]
    omega
  rw [left] at dropped
  let record : Record :=
    { iv := start ^^^ mask
      ciphertext := joinBlocks (chain key.encryptBlock start (plain :: rest))
      digest := ending
      nonempty := List.ne_nil_of_length_pos (by simp)
      aligned := by simp }
  refine ⟨record, ?_, rfl, ?_⟩
  · have stored : (key.sealed iv message).toBytes.drop (16 * count) =
        start.toBytes ++ record.ciphertext ++ (FileSeal.digest message).toBytes := by
      rw [toBytes_sealed, List.drop_append_of_le_length, ← joinBlocks_drop, dropped,
        joinBlocks_cons]
      simp only [length_joinBlocks, List.length_cons, length_chain]
      omega
    exact (rewrite_eq stored mask ending).symm
  · have undone : key.decipher record.iv record.ciphertext =
        (plain ^^^ mask).toBytes ++ joinBlocks rest := by
      rw [decipher_eq, blocks_joinBlocks, unchain_chain_mask key.decryptBlock_encryptBlock,
        joinBlocks_cons]
    rw [undone, ← Octets.xorStart_toBytes_append, ← joinBlocks_cons, ← left, joinBlocks_drop,
      joinBlocks_blocks (length_pad_mod message), pad_xorStart_drop room within]

theorem decryptRecord_of_padded {record : Record} {found : Bytes}
    (padded : key.decipher record.iv record.ciphertext = pad found) :
    key.decryptRecord record =
      if record.digest = FileSeal.digest found then .ok found
      else .error Rejection.digest.fault := by
  rw [decryptRecord, tryDecrypt, padded, unpad?_pad]
  by_cases same : record.digest = FileSeal.digest found
  · simp [same]
  · simp [same, Ne.symm same]

theorem decrypt_rewrite {count : Nat} {mask : Block} (ending : Digest)
    (room : 16 * count ≤ message.length)
    (within : ∀ m ∈ mask.toBytes.drop (message.length - 16 * count), m = 0) :
    key.decrypt (rewrite count mask ending (key.sealed iv message).toBytes) =
      if ending = FileSeal.digest (xorStart mask.toBytes (message.drop (16 * count))) then
        .ok (xorStart mask.toBytes (message.drop (16 * count)))
      else .error Rejection.digest.fault := by
  obtain ⟨record, stored, rfl, padded⟩ := exists_rewritten ending room within
  rw [← stored, decrypt_of_ofBytes record.ofBytes_toBytes, decryptRecord_of_padded padded]

/-- Records can be rewritten without their key. When blocks at the start are dropped, a mask is put
on the block before what is left, and the digest is replaced, then under the key all of it opens to
what is left of the message with the mask in it if the new digest is that message's, and is rejected
if not. -/
theorem rewritten_without_key (key : Key) (iv : Block) (message : Bytes) {count : Nat}
    {mask : Block} (ending : Digest) (room : 16 * count ≤ message.length)
    (within : ∀ i (_ : i < 16), message.length - 16 * count ≤ i → mask[i] = 0) :
    let found := xorStart mask.toBytes (message.drop (16 * count))
    let rejection : Fault := .new .user .integrityFailed
      "corrupt input, tampered-with data, or wrong key"
    ∃ record, key.encrypt iv message = .ok record ∧
      key.decrypt (rewrite count mask ending record.toBytes) =
        (if ending = FileSeal.digest found then .ok found else .error rejection) ∧
      key.decrypt (record.toBytes.drop (16 * count)) =
        (if FileSeal.digest message = FileSeal.digest (message.drop (16 * count)) then
          .ok (message.drop (16 * count))
        else .error rejection) := by
  intro found rejection
  refine ⟨key.sealed iv message, key.encrypt_eq iv message, ?_, ?_⟩
  · apply decrypt_rewrite ending room
    intro m mem
    obtain ⟨i, inside, rfl⟩ := List.mem_drop_iff_getElem.mp mem
    have short : message.length - 16 * count + i < 16 := by
      simpa [Nat.add_comm] using inside
    exact within _ short (Nat.le_add_right _ i)
  · have zero : ∀ m ∈ (Octets.replicate 16 0).toBytes, m = 0 :=
      fun m mem => List.eq_of_mem_replicate mem
    have room' : 16 * count ≤
        (joinBlocks (iv :: chain key.encryptBlock iv (blocks (pad message)))).length := by
      simp only [length_joinBlocks, List.length_cons, length_chain, length_blocks_pad]
      omega
    have dropped : key.decrypt (rewrite count (Octets.replicate 16 0) (FileSeal.digest message)
        (key.sealed iv message).toBytes) = _ :=
      decrypt_rewrite _ room fun m mem => zero m (List.mem_of_mem_drop mem)
    rw [xorStart_eq_self zero, rewrite_eq_drop (toBytes_sealed key iv message) room'] at dropped
    exact dropped

/-- A message of forty bytes loses two blocks, and the first of the eight bytes that are left is
turned over. The mask must not reach beyond them. -/
theorem rewritten_without_key_twoBlocks :
    let key : Key := ⟨Octets.replicate 32 0⟩
    let message : Bytes := List.replicate 40 5
    let mask : Block := ⟨255 :: List.replicate 15 0, rfl⟩
    let found : Bytes := 250 :: List.replicate 7 5
    (∀ i (_ : i < 16), message.length - 16 * 2 ≤ i → mask[i] = 0) ∧
    ∃ record, key.encrypt (Octets.replicate 16 1) message = .ok record ∧
      key.decrypt (rewrite 2 mask (FileSeal.digest found) record.toBytes) = .ok found := by
  intro key message mask found
  have within : ∀ i (_ : i < 16), message.length - 16 * 2 ≤ i → mask[i] = 0 := by decide
  have left : xorStart mask.toBytes (message.drop (16 * 2)) = found := by decide
  obtain ⟨record, encrypted, opened, -⟩ := rewritten_without_key key (Octets.replicate 16 1) message
    (FileSeal.digest found) (by decide) within
  rw [left, if_pos rfl] at opened
  exact ⟨within, record, encrypted, opened⟩

end Key

end FileSeal
