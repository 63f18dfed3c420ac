import FileSeal.Proofs.Attempts
import FileSeal.Proofs.CallRuns
import FileSeal.Proofs.KeyStream
import FileSeal.Proofs.LengthRule
import FileSeal.Proofs.LengthsOnly
import FileSeal.Proofs.ParentPath
import FileSeal.Proofs.Verification

namespace FileSeal

open Attempt

namespace BasicSource

/-- What a source tries when it is asked for its key. -/
def attempts (fs : FileSystem) : BasicSource → List Attempt
  | constant _ => []
  | file path => [.of (.readKeyFile path) (fs.read path)]
  | stream chunks => [.of .readKeyStream (readToEnd chunks).1]

end BasicSource

namespace Cached

/-- A cache that holds a key tries nothing. -/
def attempts (fs : FileSystem) : Cached BasicSource → List Attempt
  | direct source => source.attempts fs
  | cache (some _) _ => []
  | cache none inner => inner.attempts fs

end Cached

namespace Files

/-- What is tried to write some number of bytes to an output. -/
def deliveryAttempts (limit : Option Nat) (output : String) (fs : FileSystem) (length : Nat) :
    List Attempt :=
  .of (.openOutput output) (fs.findWritable output) ::
    following (fs.findWritable output) fun _ => [.filling limit length]

/-- What is tried to get at the message in an encrypted file, and with it. -/
def openingAttempts (path : String) (w : Workspace (Cached BasicSource))
    (later : Bytes → List Attempt) : List Attempt :=
  .of (.readFile path) (w.files.read path) :: following (w.files.read path) fun stored =>
    following (Record.ofBytes stored) fun record =>
      w.source.attempts w.files ++ following w.answer fun key =>
        following (key.tryDecrypt record) later

def encryptAttempts (c : Circumstances) (input output : String)
    (w : Workspace (Cached BasicSource)) : List Attempt :=
  .of (.readFile input) (w.files.read input) :: following (w.files.read input) fun message =>
    w.source.attempts w.files ++ following w.answer fun _ =>
      deliveryAttempts c.limit output w.files (Record.overhead + cipherLength message.length)

def decryptAttempts (c : Circumstances) (input output : String)
    (w : Workspace (Cached BasicSource)) : List Attempt :=
  openingAttempts input w fun message =>
    deliveryAttempts c.limit output w.files message.length

/-- What is tried to put a new record in the place of an old one. The contents are read with the
temporary file in the tree. -/
def replaceAttempts (c : Circumstances) (plain directory : String) (fs : FileSystem) :
    List Attempt :=
  .of .createTemporary (fs.findTemporary directory c.endings) ::
    following (fs.findTemporary directory c.endings) fun temporary =>
      let started := fs.put temporary (.file ownerOnly [])
      .of (.readFile plain) (started.read plain) :: following (started.read plain) fun message =>
        [.filling c.limit (Record.overhead + cipherLength message.length)]

def updateAttempts (c : Circumstances) (plain crypt : String)
    (w : Workspace (Cached BasicSource)) : List Attempt :=
  openingAttempts crypt w fun _ =>
    (Path.parentText? crypt).elim [] fun parent =>
      replaceAttempts c plain (Path.directoryText parent) w.files

def verifyAttempts (plain crypt : String) (fs : FileSystem) : List Attempt :=
  .of (.readFile crypt) (fs.read crypt) :: following (fs.read crypt) fun stored =>
    following (Record.ofBytes stored) fun _ => [.of (.readFile plain) (fs.read plain)]

def writeKeyAttempts (limit : Option Nat) (path : String) (fs : FileSystem) : List Attempt :=
  .of (.createKeyFile path) (fs.findVacant path) ::
    following (fs.findVacant path) fun _ => [.filling limit 32]

end Files

namespace Session

variable {ι : Type}

/-- How a call ends. -/
def result {σ : ι → Type} [∀ i, KeySource (σ i)] (s : Session ι σ) (c : Circumstances) :
    Call ι → Except Fault Unit
  | .writeKey path key =>
    ((Files.writeKey c.limit path key).run { files := s.files, source := () }).1
  | .encrypt source input output =>
    ((Files.encrypt c input output).run { files := s.files, source := s.sources source }).1
  | .decrypt source input output =>
    ((Files.decrypt c input output).run { files := s.files, source := s.sources source }).1
  | .update source plain crypt =>
    ((Files.update c plain crypt).run { files := s.files, source := s.sources source }).1
  | .verify plain crypt => ((Files.verify plain crypt).run { files := s.files, source := () }).1
  | .digest path => ((Files.digest path).run { files := s.files, source := () }).1.map fun _ => ()
  | .readKey source =>
    (Job.readKey.run { files := s.files, source := s.sources source }).1.map fun _ => ()

/-- What a call tries, one operation after the other, up to the first that fails. -/
def attempts (s : Session ι fun _ => Cached BasicSource) (c : Circumstances) :
    Call ι → List Attempt
  | .writeKey path _ => Files.writeKeyAttempts c.limit path s.files
  | .encrypt source input output =>
    Files.encryptAttempts c input output { files := s.files, source := s.sources source }
  | .decrypt source input output =>
    Files.decryptAttempts c input output { files := s.files, source := s.sources source }
  | .update source plain crypt =>
    Files.updateAttempts c plain crypt { files := s.files, source := s.sources source }
  | .verify plain crypt => Files.verifyAttempts plain crypt s.files
  | .digest path => [.of (.readFile path) (s.files.read path)]
  | .readKey source => (s.sources source).attempts s.files

end Session

namespace Key

end Key

namespace BasicSource

end BasicSource

namespace Files

open Job

variable {w : Workspace (Cached BasicSource)} {c : Circumstances}

end Files

namespace Session

variable {ι : Type}

end Session

end FileSeal
