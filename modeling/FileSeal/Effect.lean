import FileSeal.FileSystem

namespace FileSeal

/-- One change to the file system, which happens as a whole; only an append can also stop
partway. -/
inductive Effect where
  | create (location : Location) (mode : Nat)
  | truncate (location : Location)
  | setMode (location : Location) (mode : Nat)
  | append (location : Location) (bytes : Bytes)
  | synchronize (location : Location)
  | rename (source target : Location)
  | remove (location : Location)
deriving DecidableEq

namespace Effect

/-- The file system after the change. Synchronizing changes nothing that can be read. -/
def apply (fs : FileSystem) : Effect → FileSystem
  | create location mode => fs.put location (.file mode [])
  | truncate location => fs.modifyFile location fun mode _ => (mode, [])
  | setMode location mode => fs.modifyFile location fun _ bytes => (mode, bytes)
  | append location bytes => fs.modifyFile location fun mode old => (mode, old ++ bytes)
  | synchronize _ => fs
  | rename source target =>
    match fs.node? source with
    | some node => (fs.erase source).put target node
    | none => fs
  | remove location => fs.erase location

/-- The change cut off after some number of bytes. -/
def cut (count : Nat) : Effect → Effect
  | append location bytes => append location (bytes.take count)
  | effect => effect

def replay (fs : FileSystem) (effects : List Effect) : FileSystem :=
  effects.foldl apply fs

@[simp] theorem replay_append (fs : FileSystem) (before after : List Effect) :
    replay fs (before ++ after) = replay (replay fs before) after :=
  List.foldl_append

end Effect

end FileSeal
