import FileSeal.Effect
import FileSeal.KeySource

namespace FileSeal

/-- What a job works on and leaves behind: the files, a key source, the changes made to the files
so far, and the events so far. -/
structure Workspace (σ : Type) where
  files : FileSystem
  source : σ
  journal : List Effect := []
  events : List Event := []

/-- A piece of work on files that may fail. What it has done before a failure stays done. -/
abbrev Job (σ : Type) := ExceptT Fault (StateM (Workspace σ))

/-- What a job is given from outside. -/
structure Circumstances where
  /-- No file can grow beyond this many bytes. -/
  limit : Option Nat := none
  iv : Block
  /-- Random endings for the name of a temporary file. -/
  endings : List String

namespace Job

variable {σ : Type}

def perform (effect : Effect) : Job σ Unit :=
  modify fun w => { w with
    files := effect.apply w.files
    journal := w.journal ++ [effect] }

def log (events : List Event) : Job σ Unit :=
  modify fun w => { w with events := w.events ++ events }

/-- Looks something up in the files as they are; the failure to find it is reported by the
given function. -/
def examine {α : Type} (look : FileSystem → Except IoFailure α) (report : IoFailure → Fault) :
    Job σ α := do
  match look (← get).files with
  | .ok a => return a
  | .error failure => throw (report failure)

def readKey [KeySource σ] : Job σ Key := do
  let w ← get
  let reading := KeySource.read w.files w.source
  set { w with source := reading.next, events := w.events ++ reading.events }
  reading.result

/-- Adds bytes to the end of an empty file, as many as the limit lets through. -/
def fill (limit : Option Nat) (location : Location) (bytes : Bytes)
    (report : IoFailure → Fault) : Job σ Unit := do
  match limit with
  | none => perform (.append location bytes)
  | some most =>
    perform (.append location (bytes.take most))
    if most < bytes.length then throw (report .tooLarge)

/-- Runs a job, and a step to clean up if it fails. -/
def orElseCleanUp {α : Type} (job : Job σ α) (cleanUp : Job σ Unit) : Job σ α :=
  tryCatch job fun fault => do
    cleanUp
    throw fault

end Job

end FileSeal
