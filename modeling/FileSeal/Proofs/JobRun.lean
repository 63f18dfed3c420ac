import FileSeal.Job

namespace FileSeal

variable {σ : Type}

/-- Whether a file may grow to a length. -/
def fits (limit : Option Nat) (length : Nat) : Bool :=
  limit.all (length ≤ ·)

/-- What a limit lets through of the bytes that are written to an empty file. -/
def kept : Option Nat → Bytes → Bytes
  | none, bytes => bytes
  | some most, bytes => bytes.take most

theorem kept_of_fits {limit : Option Nat} {bytes : Bytes} (h : fits limit bytes.length) :
    kept limit bytes = bytes := by
  cases limit with
  | none => rfl
  | some most => exact List.take_of_length_le (by simpa [fits] using h)

namespace Workspace

/-- The workspace after some changes to the files. -/
def performed (w : Workspace σ) (effects : List Effect) : Workspace σ :=
  { w with files := Effect.replay w.files effects, journal := w.journal ++ effects }

/-- The workspace after some events. -/
def logged (w : Workspace σ) (events : List Event) : Workspace σ :=
  { w with events := w.events ++ events }

/-- The workspace after the key source has been asked. -/
def asked [KeySource σ] (w : Workspace σ) : Workspace σ :=
  let reading := KeySource.read w.files w.source
  { w with source := reading.next, events := w.events ++ reading.events }

/-- What the key source answers when it is asked next. -/
def answer [KeySource σ] (w : Workspace σ) : Except Fault Key :=
  (KeySource.read w.files w.source).result

@[simp] theorem files_performed (w : Workspace σ) (effects : List Effect) :
    (w.performed effects).files = Effect.replay w.files effects := rfl

@[simp] theorem files_logged (w : Workspace σ) (events : List Event) :
    (w.logged events).files = w.files := rfl

@[simp] theorem answer_logged [KeySource σ] (w : Workspace σ) (events : List Event) :
    (w.logged events).answer = w.answer := rfl

@[simp] theorem performed_performed (w : Workspace σ) (first second : List Effect) :
    (w.performed first).performed second = w.performed (first ++ second) := by
  simp [performed]

end Workspace

namespace Job

variable {α β : Type} {w : Workspace σ}

@[simp] theorem run_pure (a : α) : (pure a : Job σ α).run w = (.ok a, w) := rfl

@[simp] theorem run_throw (fault : Fault) : (throw fault : Job σ α).run w = (.error fault, w) := rfl

theorem run_bind (job : Job σ α) (next : α → Job σ β) :
    (job >>= next).run w = match job.run w with
      | (.ok a, w') => (next a).run w'
      | (.error fault, w') => (.error fault, w') := by
  have unfolded : (job >>= next).run w = ExceptT.bindCont next (job.run w).1 (job.run w).2 := rfl
  rcases ran : job.run w with ⟨_ | a, w'⟩ <;> rw [unfolded, ran] <;> rfl

theorem run_bind_of_ok {job : Job σ α} {next : α → Job σ β} {a : α} {w' : Workspace σ}
    (h : job.run w = (.ok a, w')) : (job >>= next).run w = (next a).run w' := by
  rw [run_bind, h]

theorem run_bind_of_error {job : Job σ α} {next : α → Job σ β} {fault : Fault} {w' : Workspace σ}
    (h : job.run w = (.error fault, w')) : (job >>= next).run w = (.error fault, w') := by
  rw [run_bind, h]

theorem run_tryCatch (job : Job σ α) (handle : Fault → Job σ α) :
    (tryCatch job handle).run w = match job.run w with
      | (.ok a, w') => (.ok a, w')
      | (.error fault, w') => (handle fault).run w' := by
  rw [ExceptT.run_tryCatch]
  rcases ran : job.run w with ⟨_ | a, w'⟩
  · simp only [bind, StateT.bind, ran]
  · simp only [bind, StateT.bind, ran]
    rfl

theorem run_orElseCleanUp (job : Job σ α) (cleanUp : Job σ Unit) :
    (orElseCleanUp job cleanUp).run w = match job.run w with
      | (.ok a, w') => (.ok a, w')
      | (.error fault, w') => (cleanUp >>= fun _ => throw fault : Job σ α).run w' :=
  run_tryCatch job _

/-- A job that only looks at files. -/
def Quiet (job : Job σ α) : Prop := ∀ w, (job.run w).2.files = w.files

theorem Quiet.files_eq {job : Job σ α} (quiet : Quiet job) {result : Except Fault α}
    {w' : Workspace σ} (h : job.run w = (result, w')) : w'.files = w.files := by
  have same := quiet w
  rwa [h] at same

theorem quiet_pure (a : α) : Quiet (pure a : Job σ α) := fun _ => rfl

theorem quiet_throw (fault : Fault) : Quiet (throw fault : Job σ α) := fun _ => rfl

theorem Quiet.bind {job : Job σ α} {next : α → Job σ β} (first : Quiet job)
    (rest : ∀ a, Quiet (next a)) : Quiet (job >>= next) := by
  intro w
  rw [run_bind]
  rcases ran : job.run w with ⟨fault | a, w'⟩
  · exact first.files_eq ran
  · exact (rest a w').trans (first.files_eq ran)

@[simp] theorem run_perform (effect : Effect) :
    (perform effect : Job σ Unit).run w = (.ok (), w.performed [effect]) := rfl

@[simp] theorem run_log (events : List Event) :
    (log events : Job σ Unit).run w = (.ok (), w.logged events) := rfl

@[simp] theorem run_get : (get : Job σ (Workspace σ)).run w = (.ok w, w) := rfl

@[simp] theorem run_examine (look : FileSystem → Except IoFailure α)
    (report : IoFailure → Fault) :
    (examine look report : Job σ α).run w = ((look w.files).mapError report, w) := by
  rw [examine, run_bind_of_ok run_get]
  cases look w.files <;> rfl

@[simp] theorem run_readKey [KeySource σ] :
    (readKey : Job σ Key).run w = (w.answer, w.asked) := rfl

theorem quiet_log (events : List Event) : Quiet (log events : Job σ Unit) := fun _ => rfl

theorem quiet_readKey [KeySource σ] : Quiet (readKey : Job σ Key) := fun _ => rfl

theorem quiet_examine (look : FileSystem → Except IoFailure α) (report : IoFailure → Fault) :
    Quiet (examine look report : Job σ α) := by
  intro w
  rw [run_examine]

@[simp] theorem run_fill (limit : Option Nat) (location : Location) (bytes : Bytes)
    (report : IoFailure → Fault) :
    (fill limit location bytes report : Job σ Unit).run w =
      (if fits limit bytes.length then .ok () else .error (report .tooLarge),
        w.performed [.append location (kept limit bytes)]) := by
  cases limit with
  | none => rfl
  | some most =>
    simp only [fill, run_bind, run_perform, fits, Option.all_some, decide_eq_true_eq]
    split
    next short => simp [Nat.not_le_of_lt short, kept]
    next long => simp [Nat.le_of_not_lt long, kept]

end Job

end FileSeal
