import FileSeal.Octets

namespace FileSeal

/-- The number of bytes that fill up the last block: between 1 and 16, so that a message of whole
blocks gains one block. -/
def paddingLength (message : Bytes) : Nat :=
  16 - message.length % 16

theorem paddingLength_pos (message : Bytes) : 1 ≤ paddingLength message := by
  unfold paddingLength
  omega

theorem paddingLength_le (message : Bytes) : paddingLength message ≤ 16 := by
  unfold paddingLength
  omega

/-- Fills up the last block of a message with bytes that all hold the number of bytes added. -/
def pad (message : Bytes) : Bytes :=
  message ++ List.replicate (paddingLength message) (UInt8.ofNat (paddingLength message))

@[simp] theorem length_pad (message : Bytes) :
    (pad message).length = message.length + paddingLength message := by
  simp [pad]

theorem length_pad_mod (message : Bytes) : (pad message).length % 16 = 0 := by
  simp [paddingLength]
  omega

/-- Takes the padding off again, or refuses if the message does not end in one: the last byte has
to be some number between 1 and 16, and that many bytes at the end have to hold it. -/
def unpad? (padded : Bytes) : Option Bytes :=
  match padded.getLast? with
  | none => none
  | some last =>
    let kept := padded.length - last.toNat
    if 1 ≤ last.toNat ∧ last.toNat ≤ 16 ∧
        padded.drop kept = List.replicate last.toNat last then
      some (padded.take kept)
    else none

@[simp] theorem unpad?_pad (message : Bytes) : unpad? (pad message) = some message := by
  have pos := paddingLength_pos message
  have le := paddingLength_le message
  have number : (UInt8.ofNat (paddingLength message)).toNat = paddingLength message := by
    simp
    omega
  have last : (pad message).getLast? = some (UInt8.ofNat (paddingLength message)) := by
    rw [pad, List.getLast?_append, List.getLast?_replicate]
    simp
    omega
  simp [unpad?, last, number, pos, le]
  simp [pad]

/-- Whole blocks from which a padding can be taken off are a padded message. -/
theorem eq_pad_of_unpad? {padded message : Bytes} (h : unpad? padded = some message)
    (aligned : padded.length % 16 = 0) : padded = pad message := by
  unfold unpad? at h
  split at h
  · simp at h
  · rename_i last _
    simp only [Option.ite_none_right_eq_some, Option.some.injEq] at h
    obtain ⟨⟨pos, le, ending⟩, rfl⟩ := h
    have fits : last.toNat ≤ padded.length := by
      have := congrArg List.length ending
      simp at this
      omega
    have count : paddingLength (padded.take (padded.length - last.toNat)) = last.toNat := by
      simp [paddingLength]
      omega
    rw [pad, count, UInt8.ofNat_toNat, ← ending, List.take_append_drop]

end FileSeal
