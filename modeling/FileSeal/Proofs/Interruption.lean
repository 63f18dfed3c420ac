import FileSeal.Proofs.ParentPath
import FileSeal.Proofs.Update

namespace FileSeal

namespace Effect

/-- What has been carried out of a journal that is cut off: the changes up to some point, and of the
next one perhaps a beginning. -/
def CutOff (journal done : List Effect) : Prop :=
  done <+: journal ∨
    ∃ before effect count, before ++ [effect] <+: journal ∧ done = before ++ [effect.cut count]

/-- A change to a temporary file that leaves it to its owner alone. -/
def Private (temporary : Location) : Effect → Prop
  | create other mode | setMode other mode => other = temporary ∧ mode = ownerOnly
  | truncate other | append other _ | synchronize other | remove other => other = temporary
  | rename .. => False

theorem Private.cut {temporary : Location} {effect : Effect} (h : effect.Private temporary)
    (count : Nat) : (effect.cut count).Private temporary := by
  cases effect <;> exact h

theorem private_of_cutOff {temporary : Location} {journal done : List Effect}
    (h : ∀ effect ∈ journal, effect.Private temporary) (cut : CutOff journal done) :
    ∀ effect ∈ done, effect.Private temporary := by
  rcases cut with start | ⟨before, next, count, start, rfl⟩
  · exact fun effect mem => h effect (start.subset mem)
  · intro effect mem
    rcases List.mem_append.mp mem with earlier | last
    · exact h effect (start.subset (List.mem_append_left _ earlier))
    · cases List.mem_singleton.mp last
      exact (h next (start.subset (List.mem_append_right _ List.mem_cons_self))).cut count

theorem cutOff_nil {done : List Effect} (cut : CutOff [] done) : done = [] := by
  rcases cut with start | ⟨before, effect, count, start, -⟩
  · exact List.prefix_nil.mp start
  · exact absurd (List.prefix_nil.mp start) (by simp)

/-- A cut before the last change has nothing of it; the last change itself cannot be cut if it is a
rename. -/
theorem cutOff_concat_rename {journal done : List Effect} {source target : Location}
    (cut : CutOff (journal ++ [.rename source target]) done) :
    CutOff journal done ∨ done = journal ++ [.rename source target] := by
  rcases cut with start | ⟨before, next, count, start, rfl⟩
  · exact (List.prefix_concat_iff.mp start).symm.imp_left .inl
  · rcases List.prefix_concat_iff.mp start with whole | short
    · obtain ⟨rfl, last⟩ := List.append_inj' whole rfl
      cases List.head_eq_of_cons_eq last
      exact .inr rfl
    · exact .inl (.inr ⟨before, next, count, short, rfl⟩)

end Effect

/-- While a file is prepared under a temporary name, it belongs to its owner alone and nothing else
changes. -/
structure Preparing (temporary : Location) (before now : FileSystem) : Prop where
  working : now.working = before.working
  others : ∀ other, other ≠ temporary → now.node? other = before.node? other
  owned : now.node? temporary = none ∨
    ∃ bytes, now.node? temporary = some (.file ownerOnly bytes)

namespace Preparing

variable {temporary : Location} {before now : FileSystem}

theorem start (vacant : before.node? temporary = none) : Preparing temporary before before :=
  ⟨rfl, fun _ _ => rfl, .inl vacant⟩

theorem put (h : Preparing temporary before now) (below : temporary ≠ []) (bytes : Bytes) :
    Preparing temporary before (now.put temporary (.file ownerOnly bytes)) where
  working := h.working
  others other ne := (now.node?_put_of_ne below _ ne).trans (h.others other ne)
  owned := .inr ⟨bytes, now.node?_put_self below _⟩

theorem erase (h : Preparing temporary before now) (below : temporary ≠ []) :
    Preparing temporary before (now.erase temporary) where
  working := h.working
  others other ne := by rw [now.node?_erase below, if_neg ne, h.others other ne]
  owned := .inl (by rw [now.node?_erase below, if_pos rfl])

theorem modifyFile (h : Preparing temporary before now) (below : temporary ≠ [])
    {change : Nat → Bytes → Nat × Bytes} (mode : ∀ bytes, (change ownerOnly bytes).1 = ownerOnly) :
    Preparing temporary before (now.modifyFile temporary change) := by
  rcases h.owned with nothing | ⟨bytes, there⟩
  · rw [FileSystem.modifyFile, nothing]
    exact h
  · rw [FileSystem.modifyFile_of_file there, mode]
    exact h.put below _

theorem apply (h : Preparing temporary before now) (below : temporary ≠ []) {effect : Effect}
    (own : effect.Private temporary) : Preparing temporary before (effect.apply now) := by
  cases effect with
  | create other mode =>
    obtain ⟨rfl, rfl⟩ := own
    exact h.put below []
  | truncate other =>
    cases own
    exact h.modifyFile below fun _ => rfl
  | setMode other mode =>
    obtain ⟨rfl, rfl⟩ := own
    exact h.modifyFile below fun _ => rfl
  | append other bytes =>
    cases own
    exact h.modifyFile below fun _ => rfl
  | synchronize other => exact h
  | rename source target => exact own.elim
  | remove other =>
    cases own
    exact h.erase below

theorem replay (h : Preparing temporary before now) (below : temporary ≠ [])
    {effects : List Effect} (own : ∀ effect ∈ effects, effect.Private temporary) :
    Preparing temporary before (Effect.replay now effects) := by
  induction effects generalizing now with
  | nil => exact h
  | cons effect rest ih =>
    have first := h.apply below (own effect List.mem_cons_self)
    exact ih first fun other mem => own other (List.mem_cons_of_mem _ mem)

theorem sameDirectories (h : Preparing temporary before now)
    (vacant : before.node? temporary = none) : before.SameDirectories now where
  working := h.working.symm
  directory location mode := by
    by_cases same : location = temporary
    · rw [same, vacant]
      rcases h.owned with nothing | ⟨bytes, there⟩
      · rw [nothing]
      · simp [there]
    · rw [h.others location same]

theorem find (h : Preparing temporary before now) (vacant : before.node? temporary = none)
    {text : String} {found : Location × Nat × Bytes} (there : before.find text = .ok found) :
    now.find text = .ok found := by
  obtain ⟨location, mode, bytes⟩ := found
  obtain ⟨leads, node⟩ := FileSystem.find_eq_ok_iff.mp there
  have apart : location ≠ temporary := by
    rintro rfl
    simp [vacant] at node
  rw [← h.others location apart] at node
  exact FileSystem.find_eq_ok_iff.mpr ⟨(h.sameDirectories vacant).leads leads, node⟩

end Preparing

variable {σ : Type}

/-- The changes that lead from one workspace to another, where that has them in its journal. -/
structure Workspace.Follows (w : Workspace σ) (effects : List Effect) (w' : Workspace σ) :
    Prop where
  journal : w'.journal = w.journal ++ effects
  files : w'.files = Effect.replay w.files effects

namespace Workspace.Follows

variable {w w' w'' : Workspace σ} {effects others : List Effect}

theorem refl (w : Workspace σ) : w.Follows [] w :=
  ⟨(List.append_nil _).symm, rfl⟩

theorem trans (first : w.Follows effects w') (second : w'.Follows others w'') :
    w.Follows (effects ++ others) w'' where
  journal := by rw [second.journal, first.journal, List.append_assoc]
  files := by rw [second.files, first.files, Effect.replay_append]

theorem logged (h : w.Follows effects w') (events : List Event) :
    w.Follows effects (w'.logged events) :=
  ⟨h.journal, h.files⟩

theorem asked [KeySource σ] (h : w.Follows effects w') : w.Follows effects w'.asked :=
  ⟨h.journal, h.files⟩

theorem performed (h : w.Follows effects w') (more : List Effect) :
    w.Follows (effects ++ more) (w'.performed more) :=
  h.trans ⟨rfl, rfl⟩

end Workspace.Follows

namespace Files

open Job

variable {w : Workspace σ}

theorem follows_openRecord [KeySource σ] (path : String) :
    w.Follows [] ((openRecord path : Job σ (Key × Bytes)).run w).2 := by
  rw [run_openRecord]
  split
  next => exact .refl w
  next =>
    dsimp only
    split
    next => exact (Workspace.Follows.refl w).logged _
    next =>
      split
      next => exact ((Workspace.Follows.refl w).logged _).asked
      next => exact (((Workspace.Follows.refl w).logged _).asked).logged _

/-- What a replacement does to the files is private to its temporary file, unless it succeeds: then
the file has been filled and secured, and the last change is the rename. -/
theorem follows_replaceThrough (c : Circumstances) (key : Key) (temporary : Location)
    (plain crypt : String) :
    ∃ effects, w.Follows effects ((replaceThrough c key temporary plain crypt).run w).2 ∧
      ((∃ fault, ((replaceThrough c key temporary plain crypt).run w).1 = .error fault) ∧
          (∀ effect ∈ effects, effect.Private temporary) ∨
        ∃ length bytes target,
          ((replaceThrough c key temporary plain crypt).run w).1 = .ok length ∧
          effects = secureEffects temporary bytes ++ [.rename temporary target]) := by
  have here := Workspace.Follows.refl w
  rw [run_replaceThrough]
  split
  next failure _ => exact ⟨[], here, .inl ⟨⟨_, rfl⟩, by simp⟩⟩
  next message _ =>
    dsimp only
    split
    next =>
      split
      next =>
        refine ⟨_, (here.logged _).performed _, .inl ⟨⟨_, rfl⟩, ?_⟩⟩
        simp [secureEffects, Effect.Private]
      next target _ _ =>
        exact ⟨_, ((here.logged _).performed _).performed _, .inr ⟨_, _, target, rfl, rfl⟩⟩
    next =>
      refine ⟨_, (here.logged _).performed _, .inl ⟨⟨_, rfl⟩, ?_⟩⟩
      simp [Effect.Private]

theorem follows_replaceRecord (c : Circumstances) (key : Key) (plain : String) {crypt : String}
    {temporary : Location} (place : TemporaryFor w.files crypt c.endings temporary) :
    ∃ effects, w.Follows effects ((replaceRecord c key plain crypt).run w).2 ∧
      ((∃ fault, ((replaceRecord c key plain crypt).run w).1 = .error fault) ∧
          (∀ effect ∈ effects, effect.Private temporary) ∨
        ∃ bytes target, ((replaceRecord c key plain crypt).run w).1 = .ok () ∧
          effects = .create temporary ownerOnly :: secureEffects temporary bytes ++
            [.rename temporary target]) := by
  have started := (Workspace.Follows.refl w).performed [.create temporary ownerOnly]
  obtain ⟨effects, follows, shape⟩ := follows_replaceThrough
    (w := w.performed [.create temporary ownerOnly]) c key temporary plain crypt
  rw [run_replaceRecord key plain place]
  dsimp only
  rcases ran : (replaceThrough c key temporary plain crypt).run
    (w.performed [.create temporary ownerOnly]) with ⟨fault | length, w'⟩
  · rw [ran] at follows shape
    obtain ⟨-, own⟩ | ⟨_, _, _, impossible, -⟩ := shape
    · refine ⟨_, (started.trans follows).performed [.remove temporary], .inl ⟨⟨fault, rfl⟩, ?_⟩⟩
      intro effect mem
      simp only [List.nil_append, List.cons_append, List.mem_cons, List.mem_append,
        List.not_mem_nil, or_false] at mem
      rcases mem with rfl | mem | rfl
      · exact ⟨rfl, rfl⟩
      · exact own effect mem
      · rfl
    · cases impossible
  · rw [ran] at follows shape
    obtain ⟨⟨_, impossible⟩, -⟩ | ⟨_, bytes, target, -, rfl⟩ := shape
    · cases impossible
    · exact ⟨_, (started.trans follows).logged _, .inr ⟨bytes, target, rfl, rfl⟩⟩

/-- An update that fails has changed no more than its own temporary file. One that succeeds has
created that file, filled and secured it, and moved it at last. -/
theorem follows_update [KeySource σ] (c : Circumstances) (plain crypt : String) :
    ∃ journal, w.Follows journal ((update c plain crypt).run w).2 ∧
      ((∃ fault, ((update c plain crypt).run w).1 = .error fault) ∧ journal = [] ∨
        ∃ temporary location, TemporaryFor w.files crypt c.endings temporary ∧
          w.files.Leads crypt location ∧
          ((∃ fault, ((update c plain crypt).run w).1 = .error fault) ∧
              (∀ effect ∈ journal, effect.Private temporary) ∨
            ∃ bytes target, ((update c plain crypt).run w).1 = .ok () ∧
              journal = .create temporary ownerOnly :: secureEffects temporary bytes ++
                [.rename temporary target])) := by
  have opening := follows_openRecord (w := w) crypt
  rw [update_eq]
  rcases opened : (openRecord crypt).run w with ⟨fault | ⟨key, old⟩, w₁⟩
  · rw [opened] at opening
    rw [run_bind_of_error opened]
    exact ⟨[], opening, .inl ⟨⟨fault, rfl⟩, rfl⟩⟩
  · rw [opened] at opening
    rw [run_bind_of_ok opened]
    obtain ⟨stored, read, -, -⟩ := run_openRecord_eq_ok_iff.mp (congrArg Prod.fst opened)
    obtain ⟨location, -, leads, -, -⟩ := FileSystem.read_eq_ok_iff.mp read
    by_cases place : ∃ temporary, TemporaryFor w₁.files crypt c.endings temporary
    · obtain ⟨temporary, place⟩ := place
      obtain ⟨effects, follows, shape⟩ := follows_replaceRecord c key plain place
      refine ⟨effects, opening.trans follows, .inr ⟨temporary, location, ?_, leads, shape⟩⟩
      rwa [opening.files] at place
    · obtain ⟨fault, ran⟩ := run_replaceRecord_of_no_temporary key plain place
      refine ⟨[], ?_, .inl ⟨⟨fault, ?_⟩, rfl⟩⟩
      · rw [ran]
        exact opening
      · rw [ran]

/-- The place of a temporary file in the directory of the file that a path leads to. -/
def Beside (fs : FileSystem) (crypt : String) (endings : List String) (temporary : Location) :
    Prop :=
  ∃ directory name, ∃ ending ∈ endings, fs.Leads crypt (directory ++ [name]) ∧
    temporary = directory ++ [FileSystem.temporaryStem ++ ending]

theorem TemporaryFor.beside {fs : FileSystem} {crypt : String} {endings : List String}
    {temporary location : Location} (place : TemporaryFor fs crypt endings temporary)
    (leads : fs.Leads crypt location) : Beside fs crypt endings temporary := by
  obtain ⟨parent, isParent, found⟩ := place
  obtain ⟨directory, ending, mem, directoryFound, rfl, -⟩ := FileSystem.findTemporary_eq_ok found
  obtain ⟨name, rfl⟩ := FileSystem.findDirectory_of_parentText? leads isParent directoryFound
  exact ⟨directory, name, ending, mem, leads, rfl⟩

/-- Everything is as it was, the encrypted file first of all. At most one file is new: a temporary
one beside the encrypted file, which belongs to its owner alone. -/
structure Undisturbed (crypt : String) (endings : List String) (before now : FileSystem) :
    Prop where
  found : ∀ found, before.find crypt = .ok found → now.find crypt = .ok found
  kept : ∀ other, before.node? other ≠ none → now.node? other = before.node? other
  added : ∃ temporary, ∀ other, before.node? other = none → now.node? other ≠ none →
    other = temporary ∧ Beside before crypt endings temporary ∧
      ∃ bytes, now.node? other = some (.file ownerOnly bytes)

theorem Undisturbed.refl (crypt : String) (endings : List String) (fs : FileSystem) :
    Undisturbed crypt endings fs fs :=
  ⟨fun _ there => there, fun _ _ => rfl, [], fun _ nothing there => absurd nothing there⟩

/-- Changes that are private to the temporary file disturb nothing. -/
theorem undisturbed_of_private {crypt : String} {endings : List String} {temporary : Location}
    {location : Location} {before : FileSystem} {effects : List Effect}
    (place : TemporaryFor before crypt endings temporary) (leads : before.Leads crypt location)
    (own : ∀ effect ∈ effects, effect.Private temporary) :
    Undisturbed crypt endings before (Effect.replay before effects) := by
  obtain ⟨below, vacant⟩ := place.vacant
  have h := (Preparing.start vacant).replay below own
  refine ⟨fun found there => h.find vacant there, ?_, temporary, ?_⟩
  · intro other there
    apply h.others
    rintro rfl
    exact there vacant
  · intro other nothing there
    have same : other = temporary := by
      apply Decidable.byContradiction
      exact fun ne => there ((h.others other ne).trans nothing)
    subst same
    exact ⟨rfl, place.beside leads, h.owned.resolve_left there⟩

/-- The encrypted file holds the complete record of the new contents, under the key that has opened
the old record. Nothing else has changed. -/
def Renewed [KeySource σ] (c : Circumstances) (plain crypt : String) (w : Workspace σ)
    (now : FileSystem) : Prop :=
  ∃ location key message record, Opens crypt w location key ∧
    Supplies c plain crypt w.files message ∧
    (Unclaimed w.files plain crypt c.endings → w.files.read plain = .ok message) ∧
    key.encrypt c.iv message = .ok record ∧ key.decrypt record.toBytes = .ok message ∧
    now.find crypt = .ok (location, ownerOnly, record.toBytes) ∧
    ∀ other, other ≠ location → now.node? other = w.files.node? other

theorem renewed_of_ok [KeySource σ] {c : Circumstances} {plain crypt : String}
    (done : ((update c plain crypt).run w).1 = .ok ()) :
    Renewed c plain crypt w ((update c plain crypt).run w).2.files := by
  obtain ⟨location, key, message, opens, supplies, -, files⟩ :=
    update_ok_supplies (Prod.ext done rfl)
  refine ⟨location, key, message, key.sealed c.iv message, opens, supplies, supplies.read,
    key.encrypt_eq c.iv message, key.decrypt_sealed c.iv message, ?_, ?_⟩
  · rw [files]
    exact FileSystem.find_put_self opens.leads opens.noDirectory _ _
  · intro other ne
    rw [files]
    exact FileSystem.node?_put_of_ne _ opens.leads.below _ ne

/-- An update that is cut off anywhere, be it in the middle of a write, leaves the old record or the
whole new one. As long as the rename has not come, nothing is disturbed; with it, everything is
done. The rename comes last, after the new record has been written, synchronized and secured. -/
theorem update_never_partial [KeySource σ] (c : Circumstances) (plain crypt : String)
    (w : Workspace σ) :
    ∃ journal,
      ((update c plain crypt).run w).2.journal = w.journal ++ journal ∧
      ((update c plain crypt).run w).2.files = Effect.replay w.files journal ∧
      (((update c plain crypt).run w).1 = .ok () → ∃ temporary bytes target,
        journal = [.create temporary ownerOnly, .append temporary bytes, .synchronize temporary,
          .setMode temporary ownerOnly, .rename temporary target]) ∧
      ∀ done, Effect.CutOff journal done →
        ((∀ source target, .rename source target ∉ done) →
          Undisturbed crypt c.endings w.files (Effect.replay w.files done)) ∧
        ((∃ source target, .rename source target ∈ done) →
          Renewed c plain crypt w (Effect.replay w.files done)) := by
  obtain ⟨journal, follows, shape⟩ := follows_update (w := w) c plain crypt
  obtain ⟨⟨fault, failed⟩, rfl⟩ | ⟨temporary, location, place, leads, shape⟩ := shape
  · refine ⟨[], follows.journal, follows.files, by simp [failed], fun done cut => ?_⟩
    rw [Effect.cutOff_nil cut]
    exact ⟨fun _ => .refl crypt c.endings w.files, by simp⟩
  -- Each cut is private to the temporary file, but for the one that has the rename in it.
  · have early : ∀ done, (∀ effect ∈ done, effect.Private temporary) →
        Undisturbed crypt c.endings w.files (Effect.replay w.files done) ∧
        ¬ ∃ source target, .rename source target ∈ done :=
      fun done own => ⟨undisturbed_of_private place leads own, fun ⟨_, _, mem⟩ => own _ mem⟩
    obtain ⟨⟨fault, failed⟩, own⟩ | ⟨bytes, target, succeeded, rfl⟩ := shape
    · refine ⟨journal, follows.journal, follows.files, by simp [failed], fun done cut => ?_⟩
      obtain ⟨undisturbed, noRename⟩ := early done (Effect.private_of_cutOff own cut)
      exact ⟨fun _ => undisturbed, fun rename => absurd rename noRename⟩
    · refine ⟨_, follows.journal, follows.files, fun _ => ⟨temporary, bytes, target, rfl⟩,
        fun done cut => ?_⟩
      rcases Effect.cutOff_concat_rename cut with short | rfl
      · obtain ⟨undisturbed, noRename⟩ := early done <| Effect.private_of_cutOff
          (by simp [secureEffects, Effect.Private]) short
        exact ⟨fun _ => undisturbed, fun rename => absurd rename noRename⟩
      · refine ⟨fun noRename => absurd (by simp) (noRename temporary target), fun _ => ?_⟩
        rw [← follows.files]
        exact renewed_of_ok succeeded

end Files

end FileSeal
