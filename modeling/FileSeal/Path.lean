import FileSeal.Fault
import FileSeal.Text

namespace FileSeal

/-- The place of a file or directory: the names on the way down from the root. -/
abbrev Location := List String

/-- A path, read as a walk through directories to a last name. -/
structure Path where
  absolute : Bool
  /-- The names that are walked as directories, `.` and `..` among them. -/
  directories : List String
  /-- The name that the path ends in, unless that is `.` or `..` or there is none. -/
  last : Option String
  /-- Whether a slash follows the last name. -/
  slash : Bool
deriving DecidableEq, Repr

namespace Path

/-- The longest name of a file or directory, in bytes. -/
def longestName : Nat := 255

/-- A path of this many bytes or more is too long. -/
def limit : Nat := 4096

def isDots (name : String) : Bool := name == "." || name == ".."

/-- Reads a path. Repeated slashes count as one. -/
def ofText (text : String) : Except IoFailure Path :=
  let chars := text.toList
  if '\x00' ∈ chars then .error .nulInName
  else if chars = [] then .error .notFound
  else if limit ≤ text.utf8ByteSize then .error .nameTooLong
  else
    let names := ((pieces '/' chars).filter (· ≠ [])).map String.ofList
    let absolute := chars.head? = some '/'
    match names.getLast? with
    | none => .ok ⟨absolute, [], none, true⟩
    | some name =>
      if isDots name then .ok ⟨absolute, names, none, false⟩
      else .ok ⟨absolute, names.dropLast, some name, chars.getLast? = some '/'⟩

/-- Strips the end of a path, given as its pieces from the last to the first, of pieces that name
nothing. A leading `.` of a relative path names the working directory and stays. -/
def dropIdle (absolute : Bool) : List String → List String
  | [] => []
  | [first] => if first = "" ∨ (absolute ∧ first = ".") then [] else [first]
  | piece :: rest => if piece = "" ∨ piece = "." then dropIdle absolute rest else piece :: rest

/-- The text of the directory that a path's last component lies in; nothing for a path without
components. -/
def parentText? (text : String) : Option String :=
  let chars := text.toList
  let absolute : Bool := chars.head? = some '/'
  let body := if absolute then chars.tail else chars
  match dropIdle absolute ((pieces '/' body).map String.ofList).reverse with
  | [] => none
  | _ :: rest =>
    let parent := "/".intercalate (dropIdle absolute rest).reverse
    some (if absolute then "/" ++ parent else parent)

/-- The text of the directory that a path's last component lies in, as it is looked up. -/
def directoryText (parent : String) : String :=
  if parent = "" then "." else parent

/-- The text of a path that starts in a directory, given by its own. An absolute path starts at the
root in any case. -/
def join (directory path : String) : String :=
  if path.toList.head? = some '/' then path
  -- The byte of a slash is never part of another character.
  else match directory.toUTF8.data.back? with
    | none | some 0x2f => directory ++ path
    | some _ => directory ++ "/" ++ path

end Path

end FileSeal
