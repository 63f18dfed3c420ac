import FileSeal.Cipher
import FileSeal.Job

namespace FileSeal

open Job

variable {σ : Type}

/-- The failure of a file operation that is not the user's to mend. -/
def internalIo (message : String) (failure : IoFailure) : Fault :=
  .ofIo ⟨.internal, some .io, message⟩ failure

/-- The failure to read a file. A missing file is the user's fault. -/
def readFault (path : String) : IoFailure → Fault :=
  .ofIoBlaming .notFound .io s!"failed to read from {path}"

/-- The failure to create a key file. One that is there already is the user's fault. -/
def createFault (path : String) : IoFailure → Fault :=
  .ofIoBlaming .alreadyExists .io s!"failed to create key file {path}"

/-- The message of an update of a path that lies in no directory. -/
def parentless : String := "crypt_path has no parent directory"

namespace Files

/-- The failure of what a file holds to be a record. -/
def recordFault (path : String) (fault : Fault) : Fault :=
  fault.withContext s!"{path} is not a valid record"

def decryptFault (rejection : Rejection) : Fault :=
  rejection.fault.withContext "failed to decrypt"

/-- What the failure to encrypt the contents of a file is part of. -/
def encryptionFailed : String := "encryption failed"

def openFileFault (path : String) (failure : IoFailure) : Fault :=
  .ofIo ⟨.user, some .io, s!"failed to open {path}"⟩ failure

def writeFileFault (path : String) : IoFailure → Fault :=
  internalIo s!"failed to write {path}"

/-- A failure with the file that an output is written to. -/
def outputFault (path : String) (fault : Fault) : Fault :=
  fault.withContext s!"failed to write to {path}"

/-- The failure to open an output. -/
def openFault (path : String) (failure : IoFailure) : Fault :=
  outputFault path (openFileFault path failure)

/-- The failure to write all of an output. -/
def writeFault (path : String) : Fault :=
  outputFault path (writeFileFault path .tooLarge)

def parentlessFault : Fault := .new .user .io parentless

def createTemporaryFault : IoFailure → Fault :=
  internalIo "failed to create tempfile"

def writeTemporaryFault : IoFailure → Fault :=
  internalIo "failed to write to tempfile"

def renameFault (path : String) : IoFailure → Fault :=
  internalIo s!"failed to rename to target file {path}"

/-- The failure of a file to have the digest that an encrypted file holds. -/
def mismatchFault (plain crypt : String) : Fault :=
  .new .user .integrityFailed
    s!"digest of {plain} does not match the digest stored in {crypt}"

/-- The failure to write all of a key file. -/
def writeKeyFault (path : String) : IoFailure → Fault :=
  internalIo s!"failed to write key file {path}"

def readBytes (path : String) : Job σ Bytes :=
  examine (·.read path) (readFault path)

def readRecord (path : String) : Job σ Record := do
  let bytes ← readBytes path
  log [.recordRead path bytes.length]
  match Record.ofBytes bytes with
  | .ok record => return record
  | .error fault => throw (recordFault path fault)

def encryptMessage (key : Key) (iv : Block) (message : Bytes) (context : String) :
    Job σ Record :=
  match key.encrypt iv message with
  | .ok record => do
    log [.encrypted message.length record.ciphertext.length]
    return record
  | .error fault => throw (fault.withContext context)

def decryptMessage (key : Key) (record : Record) : Job σ Bytes :=
  match key.tryDecrypt record with
  | .ok message => do
    log [.decrypted message.length]
    return message
  | .error rejection => do
    let length := record.ciphertext.length
    log [match rejection with
      | .padding => .paddingRejected length
      | .digest => .digestRejected length]
    throw (decryptFault rejection)

/-- Writes a file that only its owner may read. A file that is there already is emptied, and its
permissions change with it. -/
def writeOwnerOnly (limit : Option Nat) (path : String) (bytes : Bytes) : Job σ Unit := do
  let (location, present) ← examine (·.findWritable path) (openFileFault path)
  perform (if present then .truncate location else .create location ownerOnly)
  perform (.setMode location ownerOnly)
  fill limit location bytes (writeFileFault path)

def writeOutput (limit : Option Nat) (path : String) (bytes : Bytes) : Job σ Unit :=
  tryCatch (writeOwnerOnly limit path bytes) fun fault => throw (outputFault path fault)

def encrypt [KeySource σ] (c : Circumstances) (input output : String) : Job σ Unit := do
  let message ← readBytes input
  let key ← readKey
  let record ← encryptMessage key c.iv message encryptionFailed
  writeOutput c.limit output record.toBytes
  log [.fileEncrypted input output message.length]

/-- Decrypts the record in one file into another. Nothing is written unless the record is
accepted. -/
def decrypt [KeySource σ] (c : Circumstances) (input output : String) : Job σ Unit := do
  let record ← readRecord input
  let key ← readKey
  let message ← decryptMessage key record
  writeOutput c.limit output message
  log [.fileDecrypted input output message.length]

/-- Encrypts the contents of a file into a temporary file, and puts that in the place of another
file. Gives the length of the contents. -/
def replaceThrough (c : Circumstances) (key : Key) (temporary : Location)
    (plain crypt : String) : Job σ Nat := do
  let message ← readBytes plain
  let record ← encryptMessage key c.iv message "failed to encrypt"
  fill c.limit temporary record.toBytes writeTemporaryFault
  perform (.synchronize temporary)
  perform (.setMode temporary ownerOnly)
  let (target, _) ← examine (·.find crypt) (renameFault crypt)
  perform (.rename temporary target)
  return message.length

/-- Puts a new record in the place of one that the key has opened, in one step. -/
def replaceRecord (c : Circumstances) (key : Key) (plain crypt : String) : Job σ Unit :=
  match Path.parentText? crypt with
  | none => throw parentlessFault
  | some parent => do
    let temporary ← examine (·.findTemporary (Path.directoryText parent) c.endings)
      createTemporaryFault
    perform (.create temporary ownerOnly)
    let length ← orElseCleanUp (replaceThrough c key temporary plain crypt)
      (perform (.remove temporary))
    log [.fileUpdated plain crypt length]

/-- Replaces an encrypted file by new contents under the same key. The key is tried on the old
record first. -/
def update [KeySource σ] (c : Circumstances) (plain crypt : String) : Job σ Unit := do
  let record ← readRecord crypt
  let key ← readKey
  let _ ← decryptMessage key record
  replaceRecord c key plain crypt

def digest (path : String) : Job σ Digest :=
  FileSeal.digest <$> readBytes path

/-- Checks the contents of a file against the digest in an encrypted file. No key is needed. -/
def verify (plain crypt : String) : Job σ Unit := do
  let record ← readRecord crypt
  let actual ← digest plain
  if actual = record.digest then log [.digestsMatched plain crypt]
  else throw (mismatchFault plain crypt)

/-- Writes a key to a new file that only its owner may read. A file that is there already is left
alone, since something may be encrypted under the key in it. -/
def writeKey (limit : Option Nat) (path : String) (key : Key) : Job σ Unit := do
  let location ← examine (·.findVacant path) (createFault path)
  perform (.create location ownerOnly)
  fill limit location key.toBytes (writeKeyFault path)
  perform (.synchronize location)
  log [.keyFileWritten path]

end Files

end FileSeal
