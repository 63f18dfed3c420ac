import FileSeal.Octets
import FileSeal.Path

namespace FileSeal

/-- A file with its permission bits and contents, or a directory with its permission bits. -/
inductive Node where
  | directory (mode : Nat)
  | file (mode : Nat) (bytes : Bytes)
deriving DecidableEq

/-- The permission bits of a file that only its owner may read and write. -/
def ownerOnly : Nat := 0o600

/-- Whether permission bits let the owner read. All files have one owner, who runs the program. -/
def ownerReads (mode : Nat) : Bool := mode.testBit 8

def ownerWrites (mode : Nat) : Bool := mode.testBit 7

/-- All files and directories below the root, and the directory that relative paths start from. -/
structure FileSystem where
  nodes : List (Location × Node)
  working : Location
deriving DecidableEq

namespace FileSystem

/-- What lies at a location. The root is a directory. -/
def node? (fs : FileSystem) : Location → Option Node
  | [] => some (.directory 0o755)
  | location => fs.nodes.lookup location

/-- The entries with the node at one location replaced, or added at the end. -/
def assign (location : Location) (node : Node) :
    List (Location × Node) → List (Location × Node)
  | [] => [(location, node)]
  | (other, old) :: rest =>
    if other = location then (location, node) :: rest
    else (other, old) :: assign location node rest

theorem lookup_assign (location other : Location) (node : Node)
    (nodes : List (Location × Node)) :
    (assign location node nodes).lookup other =
      if other = location then some node else nodes.lookup other := by
  induction nodes with
  | nil =>
    simp only [assign, List.lookup_cons, List.lookup_nil]
    split <;> simp_all
  | cons entry rest ih =>
    simp only [assign]
    split <;> simp only [List.lookup_cons] <;> grind

def put (fs : FileSystem) (location : Location) (node : Node) : FileSystem :=
  { fs with nodes := assign location node fs.nodes }

theorem node?_put (fs : FileSystem) {location : Location} (below : location ≠ [])
    (node : Node) (other : Location) :
    (fs.put location node).node? other =
      if other = location then some node else fs.node? other := by
  cases other with
  | nil => simp [node?, below.symm]
  | cons name names => simp [node?, put, lookup_assign]

def erase (fs : FileSystem) (location : Location) : FileSystem :=
  { fs with nodes := fs.nodes.filter (·.1 ≠ location) }

theorem node?_erase (fs : FileSystem) {location : Location} (below : location ≠ [])
    (other : Location) :
    (fs.erase location).node? other = if other = location then none else fs.node? other := by
  cases other with
  | nil => simp [node?, below.symm]
  | cons name names =>
    simp only [node?, erase]
    induction fs.nodes with
    | nil => simp
    | cons entry rest ih =>
      simp only [List.filter_cons]
      grind

/-- Changes the mode and the contents of the file at a location, if there is one. -/
def modifyFile (fs : FileSystem) (location : Location) (change : Nat → Bytes → Nat × Bytes) :
    FileSystem :=
  match fs.node? location with
  | some (.file mode bytes) =>
    let changed := change mode bytes
    fs.put location (.file changed.1 changed.2)
  | _ => fs

def enter (fs : FileSystem) (here : Location) (name : String) : Except IoFailure Location :=
  if name = "." then .ok here
  else if name = ".." then .ok here.dropLast
  else if Path.longestName < name.utf8ByteSize then .error .nameTooLong
  else match fs.node? (here ++ [name]) with
    | none => .error .notFound
    | some (.file ..) => .error .notDirectory
    | some (.directory _) => .ok (here ++ [name])

def start (fs : FileSystem) (path : Path) : Location :=
  if path.absolute then [] else fs.working

def walk (fs : FileSystem) (path : Path) : Except IoFailure Location :=
  path.directories.foldlM fs.enter (fs.start path)

/-- The location of the directory that a path leads to. -/
def findDirectory (fs : FileSystem) (text : String) : Except IoFailure Location := do
  let path ← Path.ofText text
  (path.directories ++ path.last.toList).foldlM fs.enter (fs.start path)

/-- The location, the permission bits and the contents of the file that a path leads to. -/
def find (fs : FileSystem) (text : String) : Except IoFailure (Location × Nat × Bytes) := do
  let path ← Path.ofText text
  let parent ← fs.walk path
  match path.last with
  | none => .error .isDirectory
  | some name =>
    if Path.longestName < name.utf8ByteSize then .error .nameTooLong
    else match fs.node? (parent ++ [name]) with
      | none => .error .notFound
      | some (.directory _) => .error .isDirectory
      | some (.file mode bytes) =>
        if path.slash then .error .notDirectory else .ok (parent ++ [name], mode, bytes)

def read (fs : FileSystem) (text : String) : Except IoFailure Bytes := do
  let (_, mode, bytes) ← fs.find text
  if ownerReads mode then .ok bytes else .error .permissionDenied

/-- The location that a path to be written leads to, and whether a file is there already. -/
def findWritable (fs : FileSystem) (text : String) : Except IoFailure (Location × Bool) := do
  let path ← Path.ofText text
  let parent ← fs.walk path
  match path.last with
  | none => .error .isDirectory
  | some name =>
    if path.slash then .error .isDirectory
    else if Path.longestName < name.utf8ByteSize then .error .nameTooLong
    else match fs.node? (parent ++ [name]) with
      | none => .ok (parent ++ [name], false)
      | some (.directory _) => .error .isDirectory
      | some (.file mode _) =>
        if ownerWrites mode then .ok (parent ++ [name], true) else .error .permissionDenied

/-- The location that a path leads to, provided that nothing is there yet. -/
def findVacant (fs : FileSystem) (text : String) : Except IoFailure Location := do
  let path ← Path.ofText text
  let parent ← fs.walk path
  match path.last with
  | none => .error .alreadyExists
  | some name =>
    if path.slash then .error .isDirectory
    else if Path.longestName < name.utf8ByteSize then .error .nameTooLong
    else match fs.node? (parent ++ [name]) with
      | none => .ok (parent ++ [name])
      | some _ => .error .alreadyExists

/-- The text of the directory that relative paths start from. -/
def workingText (fs : FileSystem) : String :=
  "/" ++ "/".intercalate fs.working

/-- What every temporary file's name starts with. -/
def temporaryStem : String := ".tmp"

/-- The location for a temporary file in a directory given by its path: the first name, from a
supply of random endings of six characters, that is not in use. -/
def findTemporary (fs : FileSystem) (directory : String) (endings : List String) :
    Except IoFailure Location := do
  let stem := Path.join (Path.join fs.workingText directory) temporaryStem
  if Path.limit ≤ stem.utf8ByteSize + 6 then
    .error .nameTooLong
  else
    let parent ← fs.findDirectory directory
    match endings.find? fun ending => (fs.node? (parent ++ [temporaryStem ++ ending])).isNone with
    | none => .error .namesExhausted
    | some ending => .ok (parent ++ [temporaryStem ++ ending])

end FileSystem

end FileSeal
