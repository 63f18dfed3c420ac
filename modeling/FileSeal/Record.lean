import FileSeal.Octets
import FileSeal.Digest
import FileSeal.Fault

namespace FileSeal

/-- The stored form of an encrypted message: an initialization vector, a ciphertext of one or more
whole blocks, and the digest of the message. -/
structure Record where
  iv : Block
  ciphertext : Bytes
  digest : Digest
  nonempty : ciphertext ≠ []
  aligned : ciphertext.length % 16 = 0
deriving DecidableEq

namespace Record

def ivLength : Nat := 16

def blockLength : Nat := 16

def digestLength : Nat := 32

/-- The bytes that a record has beside its ciphertext. -/
def overhead : Nat := ivLength + digestLength

def minimumLength : Nat := overhead + blockLength

/-- The failure of a byte string that is too short for a record. -/
def truncated (length : Nat) : Fault :=
  .new .user .truncated
    s!"record is {length} bytes, smaller than the minimum of {minimumLength}; likely truncated"

/-- The failure of a ciphertext that is not one or more whole blocks. -/
def misaligned (length : Nat) : Fault :=
  .new .user .misaligned
    s!"ciphertext region is {length} bytes, not a non-empty multiple of {blockLength}"

def ofParts (iv : Block) (ciphertext : Bytes) (digest : Digest) : Except Fault Record :=
  if h : ciphertext ≠ [] ∧ ciphertext.length % 16 = 0 then
    .ok ⟨iv, ciphertext, digest, h.1, h.2⟩
  else .error (misaligned ciphertext.length)

/-- The stored bytes: initialization vector, ciphertext, digest. -/
def toBytes (record : Record) : Bytes :=
  record.iv.toBytes ++ record.ciphertext ++ record.digest.toBytes

def length (record : Record) : Nat :=
  overhead + record.ciphertext.length

@[simp] theorem length_toBytes (record : Record) : record.toBytes.length = record.length := by
  simp [toBytes, length, overhead, ivLength, digestLength]
  omega

theorem minimumLength_le_length (record : Record) : minimumLength ≤ record.length := by
  have := List.length_pos_iff.mpr record.nonempty
  have := record.aligned
  simp [minimumLength, length, overhead, ivLength, digestLength, blockLength]
  omega

def isEmpty (_ : Record) : Bool := false

/-- Reads a stored record. The length is checked before anything else. -/
def ofBytes (bytes : Bytes) : Except Fault Record :=
  if h : bytes.length < minimumLength then .error (truncated bytes.length)
  else
    have : 64 ≤ bytes.length := Nat.le_of_not_lt h
    ofParts ⟨bytes.take 16, by simp; omega⟩
      ((bytes.drop 16).take (bytes.length - overhead))
      ⟨bytes.drop (bytes.length - 32), by simp; omega⟩

theorem ofBytes_toBytes (record : Record) : ofBytes record.toBytes = .ok record := by
  have long := record.minimumLength_le_length
  have length : record.toBytes.length = 48 + record.ciphertext.length := record.length_toBytes
  have iv : record.toBytes.take 16 = record.iv.toBytes := by
    simp [toBytes]
  have ciphertext :
      (record.toBytes.drop 16).take (record.toBytes.length - overhead) = record.ciphertext := by
    rw [length]
    simp [toBytes, overhead, ivLength, digestLength]
  have digest : record.toBytes.drop (record.toBytes.length - 32) = record.digest.toBytes := by
    rw [length, show 48 + record.ciphertext.length - 32 = 16 + record.ciphertext.length by omega]
    simp [toBytes, List.drop_append]
  rw [ofBytes, dif_neg (by rw [length_toBytes]; omega)]
  simp only [iv, ciphertext, digest]
  simp [ofParts, record.nonempty, record.aligned]

/-- The length of the ciphertext of a message of the given length, in 64-bit words. -/
def paddedLength (length : UInt64) : UInt64 :=
  (length / 16 + 1) * 16

/-- The printed form of a record, on one line. -/
def summary (record : Record) : String :=
  "CiphertextRecord \x7b len: " ++ toString record.length ++ ", ciphertext_len: " ++
    toString record.ciphertext.length ++ " \x7d"

/-- The printed form of a record, one field on a line. -/
def summaryLines (record : Record) : String :=
  "CiphertextRecord \x7b\n    len: " ++ toString record.length ++ ",\n    ciphertext_len: " ++
    toString record.ciphertext.length ++ ",\n\x7d"

end Record

end FileSeal
