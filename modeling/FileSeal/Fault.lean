namespace FileSeal

/-- Who has to act on a failure. -/
inductive Category where
  /-- Anything that cannot be put down to the user with certainty. -/
  | internal
  /-- Invalid input, a wrong key, a missing file, or a request for something impossible. -/
  | user
deriving DecidableEq, Repr

/-- What went wrong, for callers that act on the difference. -/
inductive Kind where
  /-- A record is shorter than the smallest record. -/
  | truncated
  /-- A ciphertext is empty or not a whole number of blocks. -/
  | misaligned
  /-- The padding or the digest of a decrypted record is wrong. -/
  | integrityFailed
  | keyLength
  | keyUnavailable
  | internalInvariant
  /-- A file or stream could not be used. -/
  | io
deriving DecidableEq, Repr

/-- The classes of input and output failures that matter to their handling. -/
inductive IoKind where
  | notFound
  | alreadyExists
  | interrupted
  | other
deriving DecidableEq, Repr

/-- A failed input or output operation. -/
structure IoFailure where
  kind : IoKind
  text : String
deriving DecidableEq, Repr

namespace IoFailure

def notFound : IoFailure := ⟨.notFound, "No such file or directory (os error 2)"⟩

def permissionDenied : IoFailure := ⟨.other, "Permission denied (os error 13)"⟩

def alreadyExists : IoFailure := ⟨.alreadyExists, "File exists (os error 17)"⟩

def notDirectory : IoFailure := ⟨.other, "Not a directory (os error 20)"⟩

def isDirectory : IoFailure := ⟨.other, "Is a directory (os error 21)"⟩

def tooLarge : IoFailure := ⟨.other, "File too large (os error 27)"⟩

def nameTooLong : IoFailure := ⟨.other, "File name too long (os error 36)"⟩

def nulInName : IoFailure := ⟨.other, "file name contained an unexpected NUL byte"⟩

def namesExhausted : IoFailure := ⟨.alreadyExists, "too many temporary files exist"⟩

end IoFailure

/-- What one level of a failure reports. -/
structure Report where
  category : Category
  kind : Option Kind
  message : String
deriving DecidableEq, Repr

/-- A failure: a report, and the failure that caused it if there is one. -/
inductive Fault where
  | plain (report : Report)
  | ofIo (report : Report) (cause : IoFailure)
  /-- Caused by an input or output failure made out of another failure. That one is not met itself:
  its message has become the text, and what caused it comes next. -/
  | ofIoFrom (report : Report) (kind : IoKind) (inner : Fault)
  | wrap (report : Report) (cause : Fault)
deriving DecidableEq, Repr

/-- One link of the chain of causes under a failure. -/
inductive Cause where
  | report (report : Report)
  | io (failure : IoFailure)
deriving DecidableEq, Repr

namespace Cause

def text : Cause → String
  | report r => r.message
  | io failure => failure.text

end Cause

namespace Fault

/-- The outermost report. -/
def report : Fault → Report
  | plain r => r
  | ofIo r _ => r
  | ofIoFrom r _ _ => r
  | wrap r _ => r

def category (fault : Fault) : Category := fault.report.category

def kind (fault : Fault) : Option Kind := fault.report.kind

def message (fault : Fault) : String := fault.report.message

/-- The causes under the outermost report, the nearest first. -/
def causes : Fault → List Cause
  | plain _ => []
  | ofIo _ failure => [.io failure]
  | ofIoFrom _ kind inner => .io ⟨kind, inner.message⟩ :: inner.causes
  | wrap _ cause => .report cause.report :: cause.causes

/-- A failure of a known kind with nothing underneath. -/
def new (category : Category) (kind : Kind) (message : String) : Fault :=
  plain ⟨category, some kind, message⟩

/-- A failed input or output operation. One class of such failures is the user's fault. -/
def ofIoBlaming (blamed : IoKind) (kind : Kind) (message : String) (failure : IoFailure) : Fault :=
  ofIo ⟨if failure.kind = blamed then .user else .internal, some kind, message⟩ failure

theorem category_ofIoBlaming {blamed : IoKind} {kind : Kind} {message : String}
    {failure : IoFailure} :
    (ofIoBlaming blamed kind message failure).category = .user ↔ failure.kind = blamed := by
  by_cases same : failure.kind = blamed <;> simp [ofIoBlaming, category, report, same]

/-- Reports a failure as part of a larger task: the category and the kind stay. -/
def withContext (fault : Fault) (message : String) : Fault :=
  wrap { fault.report with message } fault

@[simp] theorem report_withContext (fault : Fault) (message : String) :
    (fault.withContext message).report = { fault.report with message } := rfl

@[simp] theorem causes_withContext (fault : Fault) (message : String) :
    (fault.withContext message).causes = .report fault.report :: fault.causes := rfl

/-- The messages from the outermost report down to the last cause. -/
def description (fault : Fault) : String :=
  ": ".intercalate (fault.message :: fault.causes.map Cause.text)

/-- The record was malformed. -/
def isFormat (fault : Fault) : Bool :=
  fault.kind == some .truncated || fault.kind == some .misaligned

/-- The decrypted bytes must not be trusted. -/
def isIntegrity (fault : Fault) : Bool :=
  fault.kind == some .integrityFailed

/-- The key had the wrong length. -/
def isKey (fault : Fault) : Bool :=
  fault.kind == some .keyLength

end Fault

end FileSeal
