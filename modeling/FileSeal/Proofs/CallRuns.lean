import Mathlib.Logic.Function.Basic
import FileSeal.Proofs.KeyFile
import FileSeal.Proofs.OutputStage
import FileSeal.Proofs.Update

namespace FileSeal

/-- A call of the library. A key source is given by its name, so that calls can share it. -/
inductive Call (ι : Type) where
  | writeKey (path : String) (key : Key)
  | encrypt (source : ι) (input output : String)
  | decrypt (source : ι) (input output : String)
  | update (source : ι) (plain crypt : String)
  | verify (plain crypt : String)
  | digest (path : String)
  | readKey (source : ι)

/-- The path that a call is asked to write to. -/
def Call.target? {ι : Type} : Call ι → Option String
  | writeKey path _ => some path
  | encrypt _ _ output => some output
  | decrypt _ _ output => some output
  | update _ _ crypt => some crypt
  | verify .. => none
  | digest _ => none
  | readKey _ => none

/-- What there is between two calls: the files, and the key sources as the calls so far have left
them. -/
structure Session (ι : Type) (σ : ι → Type) where
  files : FileSystem
  sources : (i : ι) → σ i

namespace Session

variable {ι : Type} {σ : ι → Type}

/-- The session after a job that needs no key source. -/
def alone {α : Type} (s : Session ι σ) (job : Job Unit α) : Session ι σ :=
  { s with files := (job.run { files := s.files, source := () }).2.files }

/-- The session after a job that works with one of the key sources. -/
def asking [DecidableEq ι] {α : Type} (s : Session ι σ) (i : ι) (job : Job (σ i) α) :
    Session ι σ :=
  let w := (job.run { files := s.files, source := s.sources i }).2
  { files := w.files, sources := Function.update s.sources i w.source }

/-- The session after a call, whether that succeeds or fails. -/
def step [DecidableEq ι] [∀ i, KeySource (σ i)] (s : Session ι σ) (c : Circumstances) :
    Call ι → Session ι σ
  | .writeKey path key => s.alone (Files.writeKey c.limit path key)
  | .encrypt source input output => s.asking source (Files.encrypt c input output)
  | .decrypt source input output => s.asking source (Files.decrypt c input output)
  | .update source plain crypt => s.asking source (Files.update c plain crypt)
  | .verify plain crypt => s.alone (Files.verify plain crypt)
  | .digest path => s.alone (Files.digest path)
  | .readKey source => s.asking source Job.readKey

/-- The session after some calls, each under its own circumstances. -/
def run [DecidableEq ι] [∀ i, KeySource (σ i)] (s : Session ι σ) :
    List (Circumstances × Call ι) → Session ι σ
  | [] => s
  | (c, call) :: rest => (s.step c call).run rest

end Session

/-- At most one file is different from before: one of the owner's own has been put where the target
leads, if there is a target. -/
def PutsOnly (target : Option String) (before after : FileSystem) : Prop :=
  after = before ∨ ∃ path location bytes, target = some path ∧ before.Leads path location ∧
    (∀ mode, before.node? location ≠ some (.directory mode)) ∧
    after = before.put location (.file ownerOnly bytes)

namespace Files

open Job

variable {σ : Type}

theorem putsOnly_of_quiet {α : Type} {job : Job σ α} (quiet : Quiet job) (target : Option String)
    (w : Workspace σ) : PutsOnly target w.files (job.run w).2.files :=
  .inl (quiet w)

theorem putsOnly_deliver (limit : Option Nat) (output : String) (contents : Bytes × Event)
    (w : Workspace σ) :
    PutsOnly (some output) w.files ((deliver limit output contents).run w).2.files := by
  cases opened : w.files.findWritable output with
  | error failure =>
    rw [run_deliver_of_error opened]
    exact .inl rfl
  | ok place =>
    obtain ⟨location, present⟩ := place
    obtain ⟨leads, noDirectory⟩ := FileSystem.findWritable_leads opened
    exact .inr ⟨output, location, _, rfl, leads, noDirectory, files_deliver_of_ok opened⟩

theorem putsOnly_of_prepared {prepare : Job σ (Bytes × Event)} (quiet : Quiet prepare)
    (limit : Option Nat) (output : String) (w : Workspace σ) :
    PutsOnly (some output) w.files ((prepare >>= deliver limit output).run w).2.files := by
  rcases ran : prepare.run w with ⟨fault | contents, w'⟩
  · rw [run_bind_of_error ran]
    exact .inl (quiet.files_eq ran)
  · rw [run_bind_of_ok ran, ← quiet.files_eq ran]
    exact putsOnly_deliver limit output contents w'

theorem putsOnly_update [KeySource σ] (c : Circumstances) (plain crypt : String)
    (w : Workspace σ) :
    PutsOnly (some crypt) w.files ((update c plain crypt).run w).2.files := by
  rcases ran : (update c plain crypt).run w with ⟨fault | done, w'⟩
  · exact .inl (update_failed ran)
  · obtain ⟨location, key, message, opens, -, files⟩ := update_ok ran
    exact .inr ⟨crypt, location, _, rfl, opens.leads, opens.noDirectory, files⟩

theorem putsOnly_writeKey (limit : Option Nat) (path : String) (key : Key) (w : Workspace σ) :
    PutsOnly (some path) w.files ((writeKey limit path key).run w).2.files := by
  cases vacant : w.files.findVacant path with
  | error failure =>
    rw [run_writeKey_of_error vacant]
    exact .inl rfl
  | ok location =>
    obtain ⟨leads, nothing⟩ := FileSystem.findVacant_leads vacant
    exact .inr ⟨path, location, _, rfl, leads, by simp [nothing], files_writeKey vacant⟩

theorem quiet_digest (path : String) : Quiet (digest path : Job σ Digest) := by
  rw [digest, map_eq_pure_bind]
  exact (quiet_readBytes path).bind fun _ => quiet_pure _

theorem quiet_verify (plain crypt : String) : Quiet (verify plain crypt : Job σ Unit) := by
  refine (quiet_readRecord crypt).bind fun record => (quiet_digest plain).bind fun actual => ?_
  split
  next => exact quiet_log _
  next => exact quiet_throw _

end Files

/-- What calls leave as it was: the directories, and every file that no named path leads to. A file
that is new or different belongs to its owner alone. -/
structure Confined (named : String → Prop) (before after : FileSystem) : Prop where
  directories : before.SameDirectories after
  written : ∀ location, after.node? location ≠ before.node? location →
    (∃ path, named path ∧ before.Leads path location) ∧
    ∃ bytes, after.node? location = some (.file ownerOnly bytes)

namespace Confined

variable {named other : String → Prop} {before between after : FileSystem}

theorem refl : Confined named before before :=
  ⟨.refl before, fun _ changed => absurd rfl changed⟩

theorem mono (h : Confined named before after) (more : ∀ path, named path → other path) :
    Confined other before after := by
  refine ⟨h.directories, fun location changed => ?_⟩
  obtain ⟨⟨path, isNamed, leads⟩, bytes, there⟩ := h.written location changed
  exact ⟨⟨path, more path isNamed, leads⟩, bytes, there⟩

theorem trans (first : Confined named before between) (second : Confined named between after) :
    Confined named before after := by
  refine ⟨first.directories.trans second.directories, fun location changed => ?_⟩
  by_cases same : after.node? location = between.node? location
  · rw [same] at changed ⊢
    exact first.written location changed
  · obtain ⟨⟨path, isNamed, leads⟩, bytes, there⟩ := second.written location same
    exact ⟨⟨path, isNamed, first.directories.symm.leads leads⟩, bytes, there⟩

theorem of_putsOnly {target : Option String} (h : PutsOnly target before after) :
    Confined (fun path => target = some path) before after := by
  rcases h with rfl | ⟨path, location, bytes, asked, leads, noDirectory, rfl⟩
  · exact .refl
  · refine ⟨(FileSystem.sameDirectories_put leads.below noDirectory _ _).symm, ?_⟩
    intro other changed
    by_cases same : other = location
    · subst same
      exact ⟨⟨path, asked, leads⟩, bytes, before.node?_put_self leads.below _⟩
    · exact absurd (before.node?_put_of_ne leads.below _ same) changed

end Confined

namespace Session

variable {ι : Type} {σ : ι → Type} [DecidableEq ι] [∀ i, KeySource (σ i)]

theorem putsOnly_step (s : Session ι σ) (c : Circumstances) (call : Call ι) :
    PutsOnly call.target? s.files (s.step c call).files := by
  cases call with
  | writeKey path key => exact Files.putsOnly_writeKey c.limit path key _
  | encrypt source input output =>
    have h := Files.putsOnly_of_prepared (Files.quiet_sealContents c input output) c.limit output
      { files := s.files, source := s.sources source }
    rw [← Files.encrypt_eq] at h
    exact h
  | decrypt source input output =>
    have h := Files.putsOnly_of_prepared (Files.quiet_openContents input output) c.limit output
      { files := s.files, source := s.sources source }
    rw [← Files.decrypt_eq] at h
    exact h
  | update source plain crypt => exact Files.putsOnly_update c plain crypt _
  | verify plain crypt => exact Files.putsOnly_of_quiet (Files.quiet_verify plain crypt) _ _
  | digest path => exact Files.putsOnly_of_quiet (Files.quiet_digest path) _ _
  | readKey source => exact Files.putsOnly_of_quiet Job.quiet_readKey _ _

/-- A path that one of the calls is asked to write to. -/
def Named (calls : List (Circumstances × Call ι)) (path : String) : Prop :=
  ∃ c call, (c, call) ∈ calls ∧ call.target? = some path

theorem confined_run (s : Session ι σ) (calls : List (Circumstances × Call ι)) :
    Confined (Named calls) s.files (s.run calls).files := by
  induction calls generalizing s with
  | nil => exact .refl
  | cons first rest ih =>
    obtain ⟨c, call⟩ := first
    have head := Confined.of_putsOnly (s.putsOnly_step c call)
    have tail := ih (s.step c call)
    refine (head.mono ?_).trans (tail.mono ?_)
    · intro path asked
      exact ⟨c, call, List.mem_cons_self, asked⟩
    · rintro path ⟨c', call', mem, asked⟩
      exact ⟨c', call', List.mem_cons_of_mem _ mem, asked⟩

/-- At every point between calls, succeeding or failing, the directories are as at first, and what
was there at first is still there. A file that is new or not as it was at first belongs to its owner
alone, and one of the calls so far has been asked to write to it; nothing else is there. -/
theorem run_keeps_tree (s : Session ι σ) (calls : List (Circumstances × Call ι)) :
    (∀ location mode, (s.run calls).files.node? location = some (.directory mode) ↔
      s.files.node? location = some (.directory mode)) ∧
    (∀ location, s.files.node? location ≠ none → (s.run calls).files.node? location ≠ none) ∧
    (∀ location, (s.run calls).files.node? location ≠ s.files.node? location →
      (∃ path, Named calls path ∧ s.files.Leads path location) ∧
      ∃ bytes, (s.run calls).files.node? location = some (.file ownerOnly bytes)) ∧
    (∀ location, (s.run calls).files.node? location ≠ none →
      s.files.node? location ≠ none ∨ ∃ path, Named calls path ∧ s.files.Leads path location) := by
  have confined := s.confined_run calls
  refine ⟨fun location mode => (confined.directories.directory location mode).symm, ?_,
    confined.written, ?_⟩
  · intro location there gone
    by_cases same : (s.run calls).files.node? location = s.files.node? location
    · exact there (same ▸ gone)
    · obtain ⟨-, bytes, written⟩ := confined.written location same
      simp [gone] at written
  · intro location there
    by_cases same : (s.run calls).files.node? location = s.files.node? location
    · exact .inl (same ▸ there)
    · exact .inr (confined.written location same).1

end Session

end FileSeal
