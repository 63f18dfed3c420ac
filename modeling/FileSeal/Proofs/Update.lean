import FileSeal.Proofs.FileRuns

namespace FileSeal

/-- A change that concerns the file at one location and nothing else. -/
def Effect.OnFile (location : Location) : Effect → Prop
  | create other _ | truncate other | setMode other _ | append other _ | synchronize other
  | remove other => other = location
  | rename .. => False

namespace FileSystem

theorem erase_modifyFile (fs : FileSystem) (location : Location)
    (change : Nat → Bytes → Nat × Bytes) :
    (fs.modifyFile location change).erase location = fs.erase location := by
  unfold modifyFile
  split
  next => exact erase_put _ _ _
  next => rfl

/-- A change to one file is forgotten when the file is removed. -/
theorem erase_apply (fs : FileSystem) {location : Location} {effect : Effect}
    (h : effect.OnFile location) : (effect.apply fs).erase location = fs.erase location := by
  cases effect with
  | create other mode => cases h; exact erase_put _ _ _
  | truncate other => cases h; exact erase_modifyFile _ _ _
  | setMode other mode => cases h; exact erase_modifyFile _ _ _
  | append other bytes => cases h; exact erase_modifyFile _ _ _
  | synchronize other => rfl
  | rename source target => exact h.elim
  | remove other => cases h; simp [Effect.apply, erase]

theorem erase_replay (fs : FileSystem) {location : Location} {effects : List Effect}
    (h : ∀ effect ∈ effects, effect.OnFile location) :
    (Effect.replay fs effects).erase location = fs.erase location := by
  induction effects generalizing fs with
  | nil => rfl
  | cons effect rest ih =>
    have first := h effect List.mem_cons_self
    have others := ih (effect.apply fs) fun other mem => h other (List.mem_cons_of_mem _ mem)
    exact others.trans (fs.erase_apply first)

end FileSystem

namespace Files

open Job

variable {σ : Type} {w : Workspace σ}

/-- The changes that fill a temporary file and make it safe to put in the place of another. -/
def secureEffects (temporary : Location) (bytes : Bytes) : List Effect :=
  [.append temporary bytes, .synchronize temporary, .setMode temporary ownerOnly]

theorem run_replaceThrough (c : Circumstances) (key : Key) (temporary : Location)
    (plain crypt : String) :
    (replaceThrough c key temporary plain crypt : Job σ Nat).run w =
      match w.files.read plain with
      | .error failure => (.error (readFault plain failure), w)
      | .ok message =>
        let bytes := (key.sealed c.iv message).toBytes
        let sealed := w.logged [.encrypted message.length (key.encipher c.iv message).length]
        if fits c.limit bytes.length then
          let secured := sealed.performed (secureEffects temporary bytes)
          match secured.files.find crypt with
          | .error failure =>
            (.error (renameFault crypt failure), secured)
          | .ok (target, _) => (.ok message.length, secured.performed [.rename temporary target])
        else
          (.error (writeTemporaryFault .tooLarge),
            sealed.performed [.append temporary (kept c.limit bytes)]) := by
  unfold replaceThrough
  cases contents : w.files.read plain with
  | error failure => simp only [run_bind, run_readBytes, contents, mapError_error]
  | ok message =>
    simp only [run_bind, run_readBytes, contents, mapError_ok, run_encryptMessage, run_fill]
    cases room : fits c.limit (key.sealed c.iv message).toBytes.length with
    | false => rfl
    | true =>
      simp only [if_true, run_perform, run_examine, Workspace.performed_performed, List.cons_append,
        List.nil_append, kept_of_fits room, secureEffects]
      generalize FileSystem.find _ crypt = found
      cases found <;> simp

/-- Whatever a failing replacement has done, it has done to the temporary file. -/
theorem erase_replaceThrough {c : Circumstances} {key : Key} {temporary : Location}
    {plain crypt : String} {fault : Fault} {w' : Workspace σ}
    (h : (replaceThrough c key temporary plain crypt).run w = (.error fault, w')) :
    w'.files.erase temporary = w.files.erase temporary := by
  rw [run_replaceThrough] at h
  split at h
  next => cases h; rfl
  next message contents =>
    dsimp only at h
    split at h
    next =>
      split at h
      next =>
        cases h
        exact FileSystem.erase_replay w.files (by simp [secureEffects, Effect.OnFile])
      next => cases h
    next =>
      cases h
      exact FileSystem.erase_replay w.files (by simp [Effect.OnFile])

theorem replaceThrough_ok {c : Circumstances} {key : Key} {temporary : Location}
    {plain crypt : String} {length : Nat} {w' : Workspace σ}
    (h : (replaceThrough c key temporary plain crypt).run w = (.ok length, w')) :
    ∃ message, w.files.read plain = .ok message ∧
      fits c.limit (key.sealed c.iv message).toBytes.length := by
  rw [run_replaceThrough] at h
  split at h
  next => cases h
  next message contents =>
    dsimp only at h
    split at h
    next room => exact ⟨message, contents, room⟩
    next => cases h

theorem replay_secureEffects (fs : FileSystem) {temporary : Location} (below : temporary ≠ [])
    (bytes : Bytes) :
    Effect.replay (fs.put temporary (.file ownerOnly [])) (secureEffects temporary bytes) =
      fs.put temporary (.file ownerOnly bytes) := by
  simp [secureEffects, Effect.replay, Effect.apply, FileSystem.modifyFile_put fs below]

/-- Moving the temporary file away leaves nothing behind at its place. -/
theorem apply_rename_put {fs : FileSystem} {temporary : Location} (below : temporary ≠ [])
    (vacant : fs.node? temporary = none) (target : Location) (node : Node) :
    (Effect.rename temporary target).apply (fs.put temporary node) = fs.put target node := by
  rw [Effect.apply, fs.node?_put_self below]
  dsimp only
  rw [FileSystem.erase_put, FileSystem.erase_eq_self below vacant]

theorem run_replaceThrough_of_found {fs : FileSystem} {c : Circumstances} (key : Key)
    {temporary target : Location} {plain crypt : String} {mode : Nat} {old message : Bytes}
    (below : temporary ≠ []) (vacant : fs.node? temporary = none)
    (started : w.files = fs.put temporary (.file ownerOnly []))
    (found : fs.find crypt = .ok (target, mode, old)) (contents : w.files.read plain = .ok message)
    (room : fits c.limit (key.sealed c.iv message).toBytes.length) :
    ∃ w', (replaceThrough c key temporary plain crypt).run w = (.ok message.length, w') ∧
      w'.files = fs.put target (.file ownerOnly (key.sealed c.iv message).toBytes) := by
  have noDirectory : ∀ mode, fs.node? temporary ≠ some (.directory mode) := by simp [vacant]
  have apart : target ≠ temporary := by
    rintro rfl
    simp [(FileSystem.find_eq_ok_iff.mp found).2] at vacant
  rw [run_replaceThrough, contents]
  dsimp only
  rw [if_pos room]
  generalize secured : (w.logged _).performed _ = w'
  have files : w'.files = fs.put temporary (.file ownerOnly (key.sealed c.iv message).toBytes) := by
    rw [← secured, Workspace.files_performed, Workspace.files_logged, started,
      replay_secureEffects fs below]
  have found' : w'.files.find crypt = .ok (target, mode, old) := by
    rw [files, FileSystem.find_put_of_ne below noDirectory apart]
    exact found
  rw [found']
  refine ⟨w'.performed [.rename temporary target], rfl, ?_⟩
  rw [Workspace.files_performed, files]
  exact apply_rename_put below vacant target _

theorem update_eq [KeySource σ] (c : Circumstances) (plain crypt : String) :
    (update c plain crypt : Job σ Unit) =
      openRecord crypt >>= fun opened => replaceRecord c opened.1 plain crypt := by
  simp only [update, openRecord, bind_assoc, pure_bind]

/-- The place of the temporary file of an update: beside the encrypted file, under the first random
name that is not in use. -/
def TemporaryFor (fs : FileSystem) (crypt : String) (endings : List String)
    (temporary : Location) : Prop :=
  ∃ parent, Path.parentText? crypt = some parent ∧
    fs.findTemporary (Path.directoryText parent) endings = .ok temporary

theorem TemporaryFor.vacant {fs : FileSystem} {crypt : String} {endings : List String}
    {temporary : Location} (place : TemporaryFor fs crypt endings temporary) :
    temporary ≠ [] ∧ fs.node? temporary = none := by
  obtain ⟨parent, -, found⟩ := place
  exact FileSystem.findTemporary_vacant found

theorem run_replaceRecord_of_no_temporary {c : Circumstances} (key : Key) (plain : String)
    {crypt : String} (h : ¬ ∃ temporary, TemporaryFor w.files crypt c.endings temporary) :
    ∃ fault, (replaceRecord c key plain crypt).run w = (.error fault, w) := by
  unfold replaceRecord
  cases parent : Path.parentText? crypt with
  | none => exact ⟨_, rfl⟩
  | some text =>
    cases place : w.files.findTemporary (Path.directoryText text) c.endings with
    | error failure =>
      refine ⟨createTemporaryFault failure, run_bind_of_error ?_⟩
      simp [place]
    | ok temporary => exact absurd ⟨temporary, text, parent, place⟩ h

theorem run_replaceRecord {c : Circumstances} (key : Key) (plain : String)
    {crypt : String} {temporary : Location}
    (h : TemporaryFor w.files crypt c.endings temporary) :
    (replaceRecord c key plain crypt).run w =
      let started := w.performed [.create temporary ownerOnly]
      match (replaceThrough c key temporary plain crypt).run started with
      | (.ok length, w') => (.ok (), w'.logged [.fileUpdated plain crypt length])
      | (.error fault, w') => (.error fault, w'.performed [.remove temporary]) := by
  obtain ⟨text, parent, place⟩ := h
  unfold replaceRecord
  simp only [parent, run_bind, run_examine, place, mapError_ok, run_perform,
    run_orElseCleanUp]
  generalize (replaceThrough c key temporary plain crypt).run _ = replaced
  rcases replaced with ⟨_ | _, _⟩ <;> rfl

theorem replaceRecord_failed {c : Circumstances} {key : Key} {plain crypt : String} {fault : Fault}
    {w' : Workspace σ} (h : (replaceRecord c key plain crypt).run w = (.error fault, w')) :
    w'.files = w.files := by
  by_cases place : ∃ temporary, TemporaryFor w.files crypt c.endings temporary
  · obtain ⟨temporary, place⟩ := place
    obtain ⟨below, vacant⟩ := place.vacant
    rw [run_replaceRecord key plain place] at h
    rcases replaced : (replaceThrough c key temporary plain crypt).run
      (w.performed [.create temporary ownerOnly]) with ⟨failed | length, w₁⟩
    · simp only [replaced] at h
      cases h
      calc w₁.files.erase temporary
        _ = (w.files.put temporary (.file ownerOnly [])).erase temporary :=
          erase_replaceThrough replaced
        _ = w.files.erase temporary := FileSystem.erase_put _ _ _
        _ = w.files := FileSystem.erase_eq_self below vacant
    · simp only [replaced] at h
      cases h
  · obtain ⟨failed, run⟩ := run_replaceRecord_of_no_temporary key plain place
    cases h.symm.trans run
    rfl

theorem update_failed [KeySource σ] {c : Circumstances} {plain crypt : String} {fault : Fault}
    {w' : Workspace σ} (h : (update c plain crypt).run w = (.error fault, w')) :
    w'.files = w.files := by
  rw [update_eq] at h
  rcases opened : (openRecord crypt).run w with ⟨failed | ⟨key, old⟩, w₁⟩
  · rw [run_bind_of_error opened] at h
    cases h
    exact (quiet_openRecord crypt).files_eq opened
  · rw [run_bind_of_ok opened] at h
    exact (replaceRecord_failed h).trans ((quiet_openRecord crypt).files_eq opened)

/-- The encrypted file that a path leads to, and the key of the source, which opens it. -/
structure Opens [KeySource σ] (crypt : String) (w : Workspace σ) (location : Location)
    (key : Key) : Prop where
  leads : w.files.Leads crypt location
  answered : w.answer = .ok key
  accepted : ∃ stored old, w.files.read crypt = .ok stored ∧ key.decrypt stored = .ok old

/-- Everything that an update needs: an encrypted file that the key of the source opens, a place for
the temporary file, new contents, and room for their record. -/
structure Updatable [KeySource σ] (c : Circumstances) (plain crypt : String) (w : Workspace σ)
    (location : Location) (key : Key) (message : Bytes) : Prop where
  opens : Opens crypt w location key
  temporary : ∃ temporary, TemporaryFor w.files crypt c.endings temporary
  contents : w.files.read plain = .ok message
  room : fits c.limit (48 + 16 * (message.length / 16 + 1))

/-- The random name of the temporary file is not in use, not even as the name under which the new
contents are looked for. -/
def Unclaimed (fs : FileSystem) (plain crypt : String) (endings : List String) : Prop :=
  ∀ temporary, TemporaryFor fs crypt endings temporary → ¬ fs.Leads plain temporary

theorem Opens.found [KeySource σ] {crypt : String} {location : Location} {key : Key}
    (opens : Opens crypt w location key) :
    ∃ mode stored, w.files.find crypt = .ok (location, mode, stored) := by
  obtain ⟨stored, old, read, -⟩ := opens.accepted
  obtain ⟨location', mode, leads, there, -⟩ := FileSystem.read_eq_ok_iff.mp read
  cases leads.unique opens.leads
  exact ⟨mode, stored, FileSystem.find_eq_ok_iff.mpr ⟨leads, there⟩⟩

theorem Opens.noDirectory [KeySource σ] {crypt : String} {location : Location} {key : Key}
    (opens : Opens crypt w location key) (mode : Nat) :
    w.files.node? location ≠ some (.directory mode) := by
  obtain ⟨fileMode, stored, found⟩ := opens.found
  simp [(FileSystem.find_eq_ok_iff.mp found).2]

/-- A file that can be read cannot be in the place of the temporary file. -/
theorem Updatable.unclaimed [KeySource σ] {c : Circumstances} {plain crypt : String}
    {location : Location} {key : Key} {message : Bytes}
    (h : Updatable c plain crypt w location key message) :
    Unclaimed w.files plain crypt c.endings := by
  intro temporary place leads
  obtain ⟨-, vacant⟩ := place.vacant
  obtain ⟨location', mode, leads', there, -⟩ := FileSystem.read_eq_ok_iff.mp h.contents
  cases leads.unique leads'
  simp [vacant] at there

theorem read_started {fs : FileSystem} {plain crypt : String} {endings : List String}
    {temporary : Location} (unclaimed : Unclaimed fs plain crypt endings)
    (place : TemporaryFor fs crypt endings temporary) {message : Bytes} :
    (fs.put temporary (.file ownerOnly [])).read plain = .ok message ↔
      fs.read plain = .ok message := by
  obtain ⟨below, vacant⟩ := place.vacant
  exact FileSystem.read_put_of_not_leads below (by simp [vacant]) (unclaimed temporary place) _ _

theorem run_replaceRecord_of_found {c : Circumstances} (key : Key) {plain crypt : String}
    {temporary target : Location} {mode : Nat} {old message : Bytes}
    (place : TemporaryFor w.files crypt c.endings temporary)
    (found : w.files.find crypt = .ok (target, mode, old))
    (contents : (w.files.put temporary (.file ownerOnly [])).read plain = .ok message)
    (room : fits c.limit (key.sealed c.iv message).toBytes.length) :
    ∃ w', (replaceRecord c key plain crypt).run w = (.ok (), w') ∧
      w'.files = w.files.put target (.file ownerOnly (key.sealed c.iv message).toBytes) := by
  rw [run_replaceRecord key plain place]
  obtain ⟨below, vacant⟩ := place.vacant
  obtain ⟨w', run, files⟩ := run_replaceThrough_of_found
    (w := w.performed [.create temporary ownerOnly]) key below vacant rfl found contents room
  refine ⟨w'.logged [.fileUpdated plain crypt message.length], ?_, files⟩
  simp only [run]

theorem replaceRecord_ok {c : Circumstances} {key : Key} {plain crypt : String}
    {target : Location} {mode : Nat} {old : Bytes} {w' : Workspace σ}
    (found : w.files.find crypt = .ok (target, mode, old))
    (h : (replaceRecord c key plain crypt).run w = (.ok (), w')) :
    ∃ temporary message, TemporaryFor w.files crypt c.endings temporary ∧
      (w.files.put temporary (.file ownerOnly [])).read plain = .ok message ∧
      fits c.limit (key.sealed c.iv message).toBytes.length ∧
      w'.files = w.files.put target (.file ownerOnly (key.sealed c.iv message).toBytes) := by
  by_cases place : ∃ temporary, TemporaryFor w.files crypt c.endings temporary
  · obtain ⟨temporary, place⟩ := place
    have ran := h
    rw [run_replaceRecord key plain place] at ran
    rcases replaced : (replaceThrough c key temporary plain crypt).run
      (w.performed [.create temporary ownerOnly]) with ⟨failed | length, w₁⟩
    · simp only [replaced] at ran
      cases ran
    · obtain ⟨message, contents, room⟩ := replaceThrough_ok replaced
      obtain ⟨w₂, run, files⟩ := run_replaceRecord_of_found key place found contents room
      cases run.symm.trans h
      exact ⟨temporary, message, place, contents, room, files⟩
  · obtain ⟨failed, run⟩ := run_replaceRecord_of_no_temporary key plain place
    cases h.symm.trans run

theorem update_of_updatable [KeySource σ] {c : Circumstances} {plain crypt : String}
    {location : Location} {key : Key} {message : Bytes}
    (h : Updatable c plain crypt w location key message) :
    ((update c plain crypt).run w).1 = .ok () := by
  obtain ⟨stored, old, read, accepted⟩ := h.opens.accepted
  have first := run_openRecord_eq_ok_iff.mpr ⟨stored, read, h.opens.answered, accepted⟩
  rcases opened : (openRecord crypt).run w with ⟨result, w₁⟩
  have quiet := (quiet_openRecord crypt).files_eq opened
  rw [opened] at first
  cases first
  obtain ⟨mode, stored', found⟩ := h.opens.found
  obtain ⟨temporary, place⟩ := h.temporary
  have contents := (read_started h.unclaimed place).mpr h.contents
  have room := h.room
  rw [← key.length_sealed c.iv] at room
  rw [← quiet] at place found contents
  obtain ⟨w', run, -⟩ := run_replaceRecord_of_found key place found contents room
  rw [update_eq, run_bind_of_ok opened, run]

/-- What an update reads under the path of the new contents, once its temporary file is there. -/
def Supplies (c : Circumstances) (plain crypt : String) (fs : FileSystem) (message : Bytes) :
    Prop :=
  ∃ temporary, TemporaryFor fs crypt c.endings temporary ∧
    (fs.put temporary (.file ownerOnly [])).read plain = .ok message

theorem Supplies.read {c : Circumstances} {plain crypt : String} {fs : FileSystem}
    {message : Bytes} (h : Supplies c plain crypt fs message)
    (unclaimed : Unclaimed fs plain crypt c.endings) : fs.read plain = .ok message := by
  obtain ⟨temporary, place, contents⟩ := h
  exact (read_started unclaimed place).mp contents

/-- A successful update puts the record of what it reads in the place of the one that it has
opened. -/
theorem update_ok_supplies [KeySource σ] {c : Circumstances} {plain crypt : String}
    {w' : Workspace σ} (h : (update c plain crypt).run w = (.ok (), w')) :
    ∃ location key message, Opens crypt w location key ∧
      Supplies c plain crypt w.files message ∧
      fits c.limit (48 + 16 * (message.length / 16 + 1)) ∧
      w'.files = w.files.put location (.file ownerOnly (key.sealed c.iv message).toBytes) := by
  rw [update_eq] at h
  rcases opened : (openRecord crypt).run w with ⟨failed | ⟨key, old⟩, w₁⟩
  · rw [run_bind_of_error opened] at h
    cases h
  · rw [run_bind_of_ok opened] at h
    obtain ⟨stored, read, answered, accepted⟩ :=
      run_openRecord_eq_ok_iff.mp (congrArg Prod.fst opened)
    have quiet := (quiet_openRecord crypt).files_eq opened
    obtain ⟨location, mode, leads, there, -⟩ := FileSystem.read_eq_ok_iff.mp read
    have opens : Opens crypt w location key := ⟨leads, answered, stored, old, read, accepted⟩
    have found : w₁.files.find crypt = .ok (location, mode, stored) := by
      rw [quiet]
      exact FileSystem.find_eq_ok_iff.mpr ⟨leads, there⟩
    obtain ⟨temporary, message, place, contents, room, files⟩ := replaceRecord_ok found h
    rw [quiet] at place contents files
    rw [key.length_sealed] at room
    exact ⟨location, key, message, opens, ⟨temporary, place, contents⟩, room, files⟩

theorem update_ok [KeySource σ] {c : Circumstances} {plain crypt : String} {w' : Workspace σ}
    (h : (update c plain crypt).run w = (.ok (), w')) :
    ∃ location key message, Opens crypt w location key ∧
      (Unclaimed w.files plain crypt c.endings → Updatable c plain crypt w location key message) ∧
      w'.files = w.files.put location (.file ownerOnly (key.sealed c.iv message).toBytes) := by
  obtain ⟨location, key, message, opens, supplies, room, files⟩ := update_ok_supplies h
  have ⟨temporary, place, _⟩ := supplies
  exact ⟨location, key, message, opens,
    fun unclaimed => ⟨opens, ⟨temporary, place⟩, supplies.read unclaimed, room⟩, files⟩

/-- An update does all of its work or nothing. If it fails, all files are as they were. If it
succeeds, the encrypted file holds a record of the new contents under the key that opened the old
one, and everything else is as it was. It succeeds exactly if it has everything it needs. -/
theorem update_all_or_nothing [KeySource σ] (c : Circumstances) (plain crypt : String)
    (w : Workspace σ) :
    (∀ fault, ((update c plain crypt).run w).1 = .error fault →
      ((update c plain crypt).run w).2.files = w.files) ∧
    (((update c plain crypt).run w).1 = .ok () →
      ∃ location key message stored, Opens crypt w location key ∧
        (Unclaimed w.files plain crypt c.endings → w.files.read plain = .ok message) ∧
        key.decrypt stored = .ok message ∧
        ((update c plain crypt).run w).2.files.find crypt = .ok (location, ownerOnly, stored) ∧
        ∀ other, other ≠ location →
          ((update c plain crypt).run w).2.files.node? other = w.files.node? other) ∧
    (Unclaimed w.files plain crypt c.endings →
      (((update c plain crypt).run w).1 = .ok () ↔
        ∃ location key message, Updatable c plain crypt w location key message)) := by
  refine ⟨?_, ?_, fun unclaimed => ⟨?_, ?_⟩⟩
  · intro fault failed
    exact update_failed (Prod.ext failed rfl)
  · intro done
    obtain ⟨location, key, message, opens, updatable, files⟩ := update_ok (Prod.ext done rfl)
    obtain ⟨mode, old, found⟩ := opens.found
    have there := (FileSystem.find_eq_ok_iff.mp found).2
    refine ⟨location, key, message, (key.sealed c.iv message).toBytes, opens,
      fun unclaimed => (updatable unclaimed).contents, key.decrypt_sealed c.iv message, ?_, ?_⟩
    · rw [files]
      exact FileSystem.find_put_self opens.leads (by simp [there]) _ _
    · intro other ne
      rw [files]
      exact FileSystem.node?_put_of_ne _ opens.leads.below _ ne
  · intro done
    obtain ⟨location, key, message, -, updatable, -⟩ := update_ok (Prod.ext done rfl)
    exact ⟨location, key, message, updatable unclaimed⟩
  · intro h
    obtain ⟨location, key, message, updatable⟩ := h
    exact update_of_updatable updatable

/-- Two files in the root directory, the second with the new contents for the first, and a key. -/
def twoFiles (key : Key) (stored : Bytes) : Workspace BasicSource where
  files :=
    { nodes := [(["old"], .file 0o640 stored), (["new"], .file 0o644 [104, 105])]
      working := [] }
  source := .constant key

theorem find_twoFiles (key : Key) (stored : Bytes) :
    (twoFiles key stored).files.find "old" = .ok (["old"], 0o640, stored) :=
  rfl

theorem updatable_twoFiles {key : Key} {stored old : Bytes} (iv : Block)
    (accepted : key.decrypt stored = .ok old) :
    Updatable { iv, endings := ["aBcDeF"] } "new" "old" (twoFiles key stored) ["old"] key
      [104, 105] where
  opens :=
    { leads := (FileSystem.find_eq_ok_iff.mp (find_twoFiles key stored)).1
      answered := rfl
      accepted := ⟨stored, old, rfl, accepted⟩ }
  temporary := ⟨[".tmpaBcDeF"], "", rfl, rfl⟩
  contents := rfl
  room := rfl

theorem update_all_or_nothing_twoFiles :
    let key : Key := ⟨Octets.replicate 32 0⟩
    let w := twoFiles key (key.sealed (Octets.replicate 16 0) []).toBytes
    let c : Circumstances := { iv := Octets.replicate 16 1, endings := ["aBcDeF"] }
    Unclaimed w.files "new" "old" c.endings ∧ ((update c "new" "old").run w).1 = .ok () ∧
      ∃ stored, key.decrypt stored = .ok [104, 105] ∧
        ((update c "new" "old").run w).2.files.find "old" = .ok (["old"], ownerOnly, stored) := by
  intro key
  have accepted := key.decrypt_sealed (Octets.replicate 16 0) []
  -- From here on the record is just bytes that the key opens: nothing has to compute it.
  generalize (key.sealed (Octets.replicate 16 0) []).toBytes = old at accepted ⊢
  generalize Octets.replicate 16 1 = iv
  generalize key = anyKey at accepted ⊢
  intro w c
  have updatable := updatable_twoFiles iv accepted
  obtain ⟨-, replaced, succeeds⟩ := update_all_or_nothing c "new" "old" w
  have done := (succeeds updatable.unclaimed).mpr ⟨_, _, _, updatable⟩
  obtain ⟨location, key', message, stored, opens, contents, opened, found, -⟩ := replaced done
  cases opens.leads.unique updatable.opens.leads
  cases opens.answered
  cases (contents updatable.unclaimed).symm.trans updatable.contents
  exact ⟨updatable.unclaimed, done, stored, opened, found⟩

end Files

end FileSeal
