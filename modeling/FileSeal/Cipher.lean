import FileSeal.Aes
import FileSeal.Chain
import FileSeal.Key
import FileSeal.Padding
import FileSeal.Record

namespace FileSeal

/-- Why a well-formed record is not accepted under a key. -/
inductive Rejection where
  | padding
  | digest
deriving DecidableEq, Repr

/-- Every rejection is reported alike, so that a wrong key and a changed record look the same. -/
def Rejection.fault (_ : Rejection) : Fault :=
  .new .user .integrityFailed "corrupt input, tampered-with data, or wrong key"

namespace Key

def encryptBlock (key : Key) : Block → Block :=
  Aes.encrypt (Aes.Schedule.ofKey key.octets)

def decryptBlock (key : Key) : Block → Block :=
  Aes.decrypt (Aes.Schedule.ofKey key.octets)

/-- The ciphertext of a message under an initialization vector. -/
def encipher (key : Key) (iv : Block) (message : Bytes) : Bytes :=
  let schedule := Aes.Schedule.ofKey key.octets
  joinBlocks (chain (Aes.encrypt schedule) iv (blocks (pad message)))

/-- The padded message that a ciphertext stands for. -/
def decipher (key : Key) (iv : Block) (ciphertext : Bytes) : Bytes :=
  let schedule := Aes.Schedule.ofKey key.octets
  joinBlocks (unchain (Aes.decrypt schedule) iv (blocks ciphertext))

/-- Encrypts a message under an initialization vector. The length of the ciphertext is checked
against the length rule before the record is put together. -/
def encrypt (key : Key) (iv : Block) (message : Bytes) : Except Fault Record :=
  let ciphertext := key.encipher iv message
  let expected := Record.paddedLength (UInt64.ofNat message.length)
  if UInt64.ofNat ciphertext.length = expected then
    Record.ofParts iv ciphertext (digest message)
  else .error (.new .internal .internalInvariant
    s!"ciphertext is {ciphertext.length} bytes, expected {expected}")

/-- Decrypts a record, saying which check it fails if it is not accepted. -/
def tryDecrypt (key : Key) (record : Record) : Except Rejection Bytes :=
  match unpad? (key.decipher record.iv record.ciphertext) with
  | none => .error .padding
  | some message =>
    if digest message = record.digest then .ok message else .error .digest

/-- Decrypts a record: the whole message, or nothing. -/
def decryptRecord (key : Key) (record : Record) : Except Fault Bytes :=
  (key.tryDecrypt record).mapError Rejection.fault

def decrypt (key : Key) (bytes : Bytes) : Except Fault Bytes :=
  Record.ofBytes bytes >>= key.decryptRecord

/-- The printed form of a cipher that holds the key. -/
def redactedCipher (key : Key) : String :=
  "FileCipher \x7b key: " ++ key.redacted ++ " \x7d"

end Key

end FileSeal
