import FileSeal.Octets
import FileSeal.Fault

namespace FileSeal

/-- A 256-bit secret key. -/
structure Key where
  octets : Octets 32
deriving DecidableEq, Inhabited

namespace Key

def length : Nat := 32

/-- The failure of a byte string of the wrong length to be a key. -/
def lengthFault (actual : Nat) : Fault :=
  .new .user .keyLength s!"key must be exactly {length} bytes, got {actual}"

/-- Reads a key, which has to be exactly 32 bytes long. -/
def ofBytes (bytes : Bytes) : Except Fault Key :=
  match Octets.ofBytes? 32 bytes with
  | some octets => .ok ⟨octets⟩
  | none => .error (lengthFault bytes.length)

def toBytes (key : Key) : Bytes := key.octets.toBytes

/-- The printed form of a key, which keeps the secret. -/
def redacted (_ : Key) : String := "Key([REDACTED])"

end Key

end FileSeal
