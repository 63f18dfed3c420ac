import FileSeal.Program
import Std.Time

namespace FileSeal

/-- The text of the absolute path to a location. -/
def pathText (location : Location) : String :=
  "/" ++ "/".intercalate location

/-- Whether the file at a location on the disk can be opened. -/
def canOpen (location : Location) (mode : IO.FS.Mode) : IO Bool := do
  try
    let _ ← IO.FS.Handle.mk (pathText location) mode
    return true
  catch _ => return false

/-- Permission bits that let the owner do what can be done with the file at a location. -/
def modeOnDisk (location : Location) : IO Nat := do
  let reading := if ← canOpen location .read then 0o444 else 0
  let writing := if ← canOpen location .append then 0o200 else 0
  return reading ||| writing

/-- What is on the disk at a location. -/
def nodeOnDisk (location : Location) : IO (Option Node) := do
  let path := (← IO.currentDir) / pathText location
  if ← path.isDir then return some (.directory 0o755)
  else if ← path.pathExists then
    let bytes ← if ← canOpen location .read then IO.FS.readBinFile path else pure ByteArray.empty
    return some (.file (← modeOnDisk location) bytes.toList)
  else return none

/-- Takes what is on the disk along a path into a copy of the files. -/
def loadPath (files : FileSystem) (text : String) : IO FileSystem := do
  let .ok path := Path.ofText text | return files
  let mut files := files
  let mut here := files.start path
  for name in path.directories ++ path.last.toList do
    if name = ".." then here := here.dropLast
    else if name ≠ "." then here := here ++ [name]
    if let some node ← nodeOnDisk here then
      files := files.put here node
  return files

/-- A copy of what is on the disk along some paths. -/
def loadPaths (texts : List String) : IO FileSystem := do
  let working := (pieces '/' (← IO.currentDir).toString.toList).filter (· ≠ [])
  let mut files : FileSystem := { nodes := [], working := working.map String.ofList }
  for k in List.range working.length do
    files := files.put (files.working.take (k + 1)) (.directory 0o755)
  texts.foldlM loadPath files

/-- The right to read and to write that three permission bits give. -/
def accessRight (bits : Nat) : IO.AccessRight :=
  { read := bits.testBit 2, write := bits.testBit 1, execution := bits.testBit 0 }

def setModeOnDisk (location : Location) (mode : Nat) : IO Unit :=
  IO.setAccessRights (pathText location)
    { user := accessRight (mode >>> 6)
      group := accessRight (mode >>> 3)
      other := accessRight mode }

def applyOnDisk : Effect → IO Unit
  | .create location mode => do
    let _ ← IO.FS.Handle.mk (pathText location) .writeNew
    setModeOnDisk location mode
  | .truncate location => IO.FS.writeBinFile (pathText location) ByteArray.empty
  | .setMode location mode => setModeOnDisk location mode
  | .append location bytes => do
    let handle ← IO.FS.Handle.mk (pathText location) .append
    handle.write ⟨bytes.toArray⟩
    handle.flush
  | .synchronize _ => return
  | .rename source target => IO.FS.rename (pathText source) (pathText target)
  | .remove location => IO.FS.removeFile (pathText location)

partial def readAll (stream : IO.FS.Stream) (before : ByteArray) : IO Bytes := do
  let more ← stream.read 4096
  if more.isEmpty then return before.toList
  else readAll stream (before ++ more)

def randomOctets (n : Nat) : IO (Octets n) := do
  let bytes ← IO.getRandomBytes (USize.ofNat n)
  match Octets.ofBytes? n bytes.toList with
  | some octets => return octets
  | none => throw (IO.userError "no random bytes")

def randomEnding : IO String := do
  let bytes ← IO.getRandomBytes 6
  return String.ofList (bytes.toList.map fun byte => Char.ofNat (97 + byte.toNat % 26))

def now : IO String := do
  let time := Std.Time.DateTime.ofTimestampWithZone (← Std.Time.Timestamp.now) .UTC
  return time.format "uuuu-MM-dd'T'HH:mm:ss.SSSSSS'Z'"

end FileSeal

open FileSeal in
/-- Runs the program on the disk: takes in the files that it can look at, runs it on them, and makes
its changes. -/
def main (arguments : List String) : IO UInt32 := do
  let keyFileVariable ← IO.getEnv "FILECIPHER_KEY_FILE"
  let invocation := (Invocation.ofArguments keyFileVariable arguments).toOption
  let input ← if invocation.any Invocation.readsInput
    then readAll (← IO.getStdin) ByteArray.empty else pure []
  let outcome := Surroundings.run {
    arguments
    keyFileVariable
    logVariable := ← IO.getEnv "RUST_LOG"
    input := [.data input]
    files := ← loadPaths ((invocation.map Invocation.paths).getD [])
    circumstances := { iv := ← randomOctets 16, endings := [← randomEnding, ← randomEnding] }
    freshKey := ⟨← randomOctets 32⟩
    stamp := ← now }
  outcome.journal.forM applyOnDisk
  IO.eprint outcome.errors
  IO.print outcome.output
  return outcome.exit
