import FileSeal.Files
import FileSeal.Proofs.JobRun
import FileSeal.Proofs.Wrapping

namespace FileSeal

/-- What a call asks of the files or of a stream, and can be refused. -/
inductive Operation where
  /-- Reading a file for its contents, or for the record in it. -/
  | readFile (path : String)
  | readKeyFile (path : String)
  | readKeyStream
  | createKeyFile (path : String)
  /-- Opening the output of an encryption or a decryption. -/
  | openOutput (path : String)
  /-- Creating the temporary file of an update. -/
  | createTemporary
  /-- Filling a file that is open. -/
  | fill
deriving DecidableEq, Repr

/-- Whether the user has to mend what an operation reports. -/
def Operation.isForUser : Operation → IoFailure → Bool
  | readFile _, failure => failure.kind = .notFound
  | readKeyFile _, failure => failure.kind = .notFound
  | createKeyFile _, failure => failure.kind = .alreadyExists
  | openOutput _, _ => true
  | _, _ => false

/-- An operation that is tried, with the failure that it reports if it does. -/
structure Attempt where
  operation : Operation
  failure : Option IoFailure
deriving DecidableEq, Repr

/-- What becomes of filling a file with some number of bytes. -/
def room (limit : Option Nat) (length : Nat) : Except IoFailure Unit :=
  if fits limit length then .ok () else .error .tooLarge

namespace Attempt

/-- An operation that comes to a result. -/
def of {α : Type} (operation : Operation) (result : Except IoFailure α) : Attempt where
  operation
  failure := match result with
    | .ok _ => none
    | .error failure => some failure

/-- Fills a file with some number of bytes. -/
def filling (limit : Option Nat) (length : Nat) : Attempt :=
  .of .fill (room limit length)

/-- What is tried once there is an earlier result. Nothing is where that is missing. -/
def following {ε α : Type} (earlier : Except ε α) (later : α → List Attempt) : List Attempt :=
  match earlier with
  | .ok a => later a
  | .error _ => []

end Attempt

/-- A message that is not even a part of that of an update without a directory. -/
def Unlike (message : String) : Prop := ¬ message.toList <:+: parentless.toList

instance : DecidablePred Unlike :=
  fun message => inferInstanceAs (Decidable (¬ message.toList <:+: parentless.toList))

namespace Unlike

variable {message : String}

theorem ne (h : Unlike message) : message ≠ parentless := by
  rintro rfl
  exact h (List.infix_refl _)

end Unlike

/-- What holds of the failure of a call that has tried some operations. -/
structure Classified (attempts : List Attempt) (fault : Fault) : Prop where
  kind : ∃ kind, fault.kind = some kind ∧ kind ≠ .internalInvariant
  /-- Whatever is reported on the way down the failure has its category and its kind. No update
  reports that its path lies in no directory. -/
  reports : ∀ report, .report report ∈ (Link.ofFault fault).chain →
    report.kind = fault.kind ∧ report.category = fault.category ∧ report.message ≠ parentless
  /-- What is not reported so stands at the very end. -/
  causes : ∀ cause ∈ fault.causes.dropLast, ∃ report, cause = .report report
  /-- Bytes that are refused are the user's, and nothing else has failed. -/
  refused : fault.kind ∈ [some .truncated, some .misaligned, some .integrityFailed,
      some .keyLength] →
    fault.category = .user ∧ (∀ cause ∈ fault.causes, ∃ report, cause = .report report) ∧
      ∀ attempt ∈ attempts, attempt.failure = none
  /-- Any other failure is that of the last operation, and ends in what that reports. It depends on
  the operation whether it is the user's. -/
  failed : fault.kind ∈ [some .io, some .keyUnavailable] →
    ∃ earlier operation failure, attempts = earlier ++ [⟨operation, some failure⟩] ∧
      (∀ attempt ∈ earlier, attempt.failure = none) ∧
      fault.causes.getLast? = some (.io failure) ∧
      (fault.category = .user ↔ operation.isForUser failure)

namespace Classified

variable {attempts : List Attempt} {fault : Fault}

/-- A failure that has come from bytes alone. -/
theorem new {kind : Kind} {message : String}
    (known : kind ∈ [.truncated, .misaligned, .integrityFailed, .keyLength])
    (unlike : Unlike message) : Classified [] (.new .user kind message) where
  kind := by
    refine ⟨kind, rfl, ?_⟩
    rintro rfl
    simp at known
  reports := by
    intro report mem
    cases List.mem_singleton.mp mem
    exact ⟨rfl, rfl, unlike.ne⟩
  causes := nofun
  refused _ := ⟨rfl, nofun, nofun⟩
  failed other := by
    have kinds : kind = .io ∨ kind = .keyUnavailable := by
      simpa [Fault.kind, Fault.report, Fault.new] using other
    rcases kinds with rfl | rfl <;> simp at known

/-- A failure that has come from an operation. -/
theorem ofIo {operation : Operation} {failure : IoFailure} {category : Category} {kind : Kind}
    {message : String} (known : kind ∈ [.io, .keyUnavailable]) (unlike : Unlike message)
    (user : category = .user ↔ operation.isForUser failure) :
    Classified [⟨operation, some failure⟩] (.ofIo ⟨category, some kind, message⟩ failure) where
  kind := by
    refine ⟨kind, rfl, ?_⟩
    rintro rfl
    simp at known
  reports := by
    intro report mem
    rcases List.mem_cons.mp mem with same | impossible
    · cases same
      exact ⟨rfl, rfl, unlike.ne⟩
    · simp [Fault.causes] at impossible
  causes := nofun
  refused other := by
    have kinds : kind = .truncated ∨ kind = .misaligned ∨ kind = .integrityFailed ∨
        kind = .keyLength := by simpa [Fault.kind, Fault.report] using other
    rcases kinds with rfl | rfl | rfl | rfl <;> simp at known
  failed _ := ⟨[], operation, failure, rfl, nofun, rfl, user⟩

/-- A failure that has come from an operation, and is the user's to mend if it is of one class. -/
theorem ofIoBlaming {operation : Operation} {failure : IoFailure} {blamed : IoKind} {kind : Kind}
    {message : String} (known : kind ∈ [.io, .keyUnavailable]) (unlike : Unlike message)
    (blames : operation.isForUser failure = decide (failure.kind = blamed)) :
    Classified [⟨operation, some failure⟩] (.ofIoBlaming blamed kind message failure) := by
  have user : (Fault.ofIoBlaming blamed kind message failure).category = .user ↔
      operation.isForUser failure := by
    rw [Fault.category_ofIoBlaming, blames, decide_eq_true_iff]
  exact .ofIo known unlike user

/-- An operation that is never for the user to mend fails without blame on anyone. -/
theorem internalIo {operation : Operation} {failure : IoFailure} {message : String}
    (inside : operation.isForUser failure = false) (unlike : Unlike message) :
    Classified [⟨operation, some failure⟩] (internalIo message failure) :=
  .ofIo (by decide) unlike (by simp [inside])

/-- A context adds one report of the same sort. -/
theorem withContext (h : Classified attempts fault) {context : String} (unlike : Unlike context) :
    Classified attempts (fault.withContext context) where
  kind := h.kind
  reports := by
    intro report mem
    rcases List.mem_cons.mp mem with same | under
    · cases same
      exact ⟨rfl, rfl, unlike.ne⟩
    · exact h.reports report under
  causes := by
    intro cause mem
    rw [Fault.causes_withContext] at mem
    cases under : fault.causes with
    | nil => simp [under] at mem
    | cons first rest =>
      rw [under, List.dropLast_cons_cons, ← under] at mem
      rcases List.mem_cons.mp mem with rfl | mem
      · exact ⟨_, rfl⟩
      · exact h.causes cause mem
  refused known := by
    obtain ⟨user, reports, passed⟩ := h.refused known
    refine ⟨user, ?_, passed⟩
    intro cause mem
    rcases List.mem_cons.mp mem with rfl | mem
    · exact ⟨_, rfl⟩
    · exact reports cause mem
  failed known := by
    obtain ⟨earlier, operation, failure, whole, passed, ends, user⟩ := h.failed known
    refine ⟨earlier, operation, failure, whole, passed, ?_, user⟩
    rw [Fault.causes_withContext, List.getLast?_cons, ends]
    rfl

/-- Operations that succeed before others change nothing. -/
theorem after (h : Classified attempts fault) {earlier : List Attempt}
    (passed : ∀ attempt ∈ earlier, attempt.failure = none) :
    Classified (earlier ++ attempts) fault where
  kind := h.kind
  reports := h.reports
  causes := h.causes
  refused known := by
    obtain ⟨user, reports, passed'⟩ := h.refused known
    exact ⟨user, reports, List.forall_mem_append.mpr ⟨passed, passed'⟩⟩
  failed known := by
    obtain ⟨others, operation, failure, rfl, passed', ends, user⟩ := h.failed known
    exact ⟨earlier ++ others, operation, failure, (List.append_assoc _ _ _).symm,
      List.forall_mem_append.mpr ⟨passed, passed'⟩, ends, user⟩

end Classified

/-- A result comes from some attempts: if it is there they have all succeeded, and if not they
classify the failure. -/
structure Explains {α : Type} (attempts : List Attempt) (result : Except Fault α) : Prop where
  passed : ∀ a, result = .ok a → ∀ attempt ∈ attempts, attempt.failure = none
  classified : ∀ fault, result = .error fault → Classified attempts fault

namespace Explains

variable {α β : Type} {attempts : List Attempt} {result : Except Fault α}

theorem ok (a : α) : Explains [] (.ok a) := ⟨nofun, nofun⟩

/-- An operation on its own. -/
theorem of {operation : Operation} {found : Except IoFailure α} {report : IoFailure → Fault}
    (h : ∀ failure, Classified [⟨operation, some failure⟩] (report failure)) :
    Explains [.of operation found] (found.mapError report) := by
  cases found with
  | ok a =>
    refine ⟨fun _ _ attempt mem => ?_, nofun⟩
    cases List.mem_singleton.mp mem
    rfl
  | error failure =>
    refine ⟨nofun, ?_⟩
    rintro _ ⟨⟩
    exact h failure

theorem withContext (h : Explains attempts result) {context : String} (unlike : Unlike context) :
    Explains attempts (result.mapError (·.withContext context)) := by
  cases result with
  | ok a => exact ⟨h.passed, nofun⟩
  | error fault =>
    refine ⟨nofun, ?_⟩
    rintro _ ⟨⟩
    exact (h.classified fault rfl).withContext unlike

theorem map (h : Explains attempts result) (f : α → β) : Explains attempts (result.map f) := by
  cases result with
  | ok a => exact ⟨fun _ _ => h.passed a rfl, nofun⟩
  | error fault =>
    refine ⟨nofun, ?_⟩
    rintro _ ⟨⟩
    exact h.classified fault rfl

/-- What is done with a result is explained by its attempts and by those that follow them. -/
theorem bind {later : α → List Attempt} {next : α → Except Fault β}
    (first : Explains attempts result)
    (rest : ∀ a, result = .ok a → Explains (later a) (next a)) :
    Explains (attempts ++ Attempt.following result later) (result >>= next) := by
  cases result with
  | error fault =>
    refine ⟨nofun, ?_⟩
    rintro _ ⟨⟩
    rw [Attempt.following, List.append_nil]
    exact first.classified fault rfl
  | ok a =>
    have second := rest a rfl
    have passed := first.passed a rfl
    refine ⟨?_, fun fault failed => (second.classified fault failed).after passed⟩
    exact fun b done => List.forall_mem_append.mpr ⟨passed, second.passed b done⟩

end Explains

end FileSeal
