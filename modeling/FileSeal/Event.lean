namespace FileSeal

/-- How much an event matters, the most important level first. -/
inductive Level where
  | error
  | warn
  | info
  | debug
  | trace
deriving DecidableEq, Repr

namespace Level

/-- The number of the level: a larger one is more detailed. -/
def rank : Level → Nat
  | error => 1
  | warn => 2
  | info => 3
  | debug => 4
  | trace => 5

/-- The name in a column of five characters. -/
def column : Level → String
  | error => "ERROR"
  | warn => " WARN"
  | info => " INFO"
  | debug => "DEBUG"
  | trace => "TRACE"

end Level

/-- Something worth a line of the log. -/
inductive Event where
  | keyFileWritten (path : String)
  | keyFileRead (path : String)
  | encrypted (message ciphertext : Nat)
  | paddingRejected (ciphertext : Nat)
  | digestRejected (ciphertext : Nat)
  | decrypted (message : Nat)
  | recordRead (path : String) (length : Nat)
  | fileEncrypted (input output : String) (length : Nat)
  | fileDecrypted (input output : String) (length : Nat)
  | fileUpdated (input output : String) (length : Nat)
  | digestsMatched (plain crypt : String)
deriving DecidableEq, Repr

namespace Event

/-- The finished file operations are information, the steps on the way are for debugging. -/
def level : Event → Level
  | fileEncrypted .. | fileDecrypted .. | fileUpdated .. | digestsMatched .. => .info
  | _ => .debug

/-- The part of the program that the event comes from. -/
def target : Event → String
  | keyFileWritten _ | keyFileRead _ => "filecipher::key"
  | encrypted .. | paddingRejected _ | digestRejected _ | decrypted _ => "filecipher::cipher"
  | recordRead .. | fileEncrypted .. | fileDecrypted .. | fileUpdated .. | digestsMatched .. =>
    "filecipher::file_ops"

def message : Event → String
  | keyFileWritten _ => "wrote key file"
  | keyFileRead _ => "read key file"
  | encrypted .. => "encrypted"
  | paddingRejected _ => "padding check failed"
  | digestRejected _ => "digest mismatch"
  | decrypted _ => "decrypted"
  | recordRead .. => "read record"
  | fileEncrypted .. => "encrypted file"
  | fileDecrypted .. => "decrypted file"
  | fileUpdated .. => "updated encrypted file"
  | digestsMatched .. => "digests match"

def fields : Event → List (String × String)
  | keyFileWritten path | keyFileRead path => [("path", path)]
  | encrypted message ciphertext =>
    [("plaintext_len", toString message), ("ciphertext_len", toString ciphertext)]
  | paddingRejected ciphertext | digestRejected ciphertext =>
    [("ciphertext_len", toString ciphertext)]
  | decrypted message => [("plaintext_len", toString message)]
  | recordRead path length => [("path", path), ("len", toString length)]
  | fileEncrypted input output length | fileDecrypted input output length
  | fileUpdated input output length =>
    [("input", input), ("output", output), ("bytes", toString length)]
  | digestsMatched plain crypt => [("plain", plain), ("crypt", crypt)]

/-- The line of the log, after a time stamp. -/
def line (stamp : String) (event : Event) : String :=
  let values := event.fields.map fun (name, value) => s!" {name}={value}"
  s!"{stamp} {event.level.column} {event.target}: {event.message}{String.join values}"

end Event

end FileSeal
