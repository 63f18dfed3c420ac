import FileSeal.Proofs.FileRuns

namespace FileSeal

namespace Key

theorem ofBytes_toBytes (key : Key) : ofBytes key.toBytes = .ok key := by
  rw [ofBytes, toBytes, Octets.ofBytes?_toBytes]

theorem toBytes_of_ofBytes {bytes : Bytes} {key : Key} (h : ofBytes bytes = .ok key) :
    bytes = key.toBytes := by
  unfold ofBytes Octets.ofBytes? at h
  split at h
  next octets read =>
    obtain ⟨length, same⟩ := Option.dite_none_right_eq_some.mp read
    cases same
    cases h
    rfl
  next => cases h

theorem ofBytes_of_length_ne {bytes : Bytes} (h : bytes.length ≠ 32) :
    ofBytes bytes = .error (lengthFault bytes.length) := by
  rw [ofBytes, Octets.ofBytes?, dif_neg h]

@[simp] theorem length_toBytes (key : Key) : key.toBytes.length = 32 :=
  key.octets.length_toBytes

theorem ofBytes_eq_error {bytes : Bytes} {fault : Fault} (h : ofBytes bytes = .error fault) :
    fault = lengthFault bytes.length := by
  unfold ofBytes at h
  split at h
  next => cases h
  next => exact (Except.error.inj h).symm

end Key

namespace BasicSource

theorem result_read_file_of_ok {fs : FileSystem} {path : String} {bytes : Bytes}
    (h : fs.read path = .ok bytes) :
    (KeySource.read fs (BasicSource.file path)).result =
      (Key.ofBytes bytes).mapError (invalidKeyFault path) := by
  simp [KeySource.read, BasicSource.read, readFile, h]

/-- A key file gives the key whose bytes it holds. -/
theorem result_read_file_eq_ok_iff {fs : FileSystem} {path : String} {key : Key} :
    (KeySource.read fs (BasicSource.file path)).result = .ok key ↔
      fs.read path = .ok key.toBytes := by
  constructor
  · intro h
    cases found : fs.read path with
    | error failure => simp [KeySource.read, BasicSource.read, readFile, found] at h
    | ok bytes =>
      rw [result_read_file_of_ok found] at h
      cases parsed : Key.ofBytes bytes with
      | error fault => simp [parsed] at h
      | ok other =>
        rw [parsed, mapError_ok] at h
        cases h
        rw [Key.toBytes_of_ofBytes parsed]
  · intro h
    rw [result_read_file_of_ok h, key.ofBytes_toBytes, mapError_ok]

end BasicSource

namespace FileSystem

theorem findVacant_of_find {fs : FileSystem} {text : String} {found : Location × Nat × Bytes}
    (h : fs.find text = .ok found) : fs.findVacant text = .error .alreadyExists := by
  obtain ⟨location, mode, bytes⟩ := found
  obtain ⟨⟨path, parent, name, parsed, walked, last, slash, short, rfl⟩, there⟩ :=
    find_eq_ok_iff.mp h
  simp [findVacant, parsed, walked, last, slash, there, Nat.not_lt_of_le short, bind, Except.bind]

end FileSystem

namespace Files

open Job

variable {σ : Type} {w : Workspace σ}

theorem run_writeKey_of_error {limit : Option Nat} {path : String} {key : Key}
    {failure : IoFailure} (h : w.files.findVacant path = .error failure) :
    (writeKey limit path key : Job σ Unit).run w = (.error (createFault path failure), w) :=
  run_bind_of_error (by rw [run_examine, h, mapError_error])

theorem run_writeKey_of_ok {limit : Option Nat} {path : String} {key : Key} {location : Location}
    (h : w.files.findVacant path = .ok location) :
    (writeKey limit path key : Job σ Unit).run w =
      let started := w.performed [.create location ownerOnly]
      let filled := started.performed [.append location (kept limit key.toBytes)]
      if fits limit 32 then
        (.ok (), (filled.performed [.synchronize location]).logged [.keyFileWritten path])
      else (.error (writeKeyFault path .tooLarge), filled) := by
  simp only [writeKey, run_bind, run_examine, h, mapError_ok, run_perform, run_fill,
    Key.length_toBytes]
  cases fits limit 32 <;> rfl

/-- Whether or not all of the key gets into it, the new file is the only change. -/
theorem files_writeKey {limit : Option Nat} {path : String} {key : Key} {location : Location}
    (h : w.files.findVacant path = .ok location) :
    ((writeKey limit path key : Job σ Unit).run w).2.files =
      w.files.put location (.file ownerOnly (kept limit key.toBytes)) := by
  have below := (FileSystem.findVacant_leads h).1.below
  have written : Effect.replay w.files
      [.create location ownerOnly, .append location (kept limit key.toBytes)] =
        w.files.put location (.file ownerOnly (kept limit key.toBytes)) := by
    simp [Effect.replay, Effect.apply, FileSystem.modifyFile_put _ below]
  rw [run_writeKey_of_ok h, ← written]
  cases fits limit 32 <;> rfl

/-- A file with the given bytes, its owner's own, has come to lie where a path leads. There was none
before, and nothing else has changed. -/
structure AddsFile (path : String) (location : Location) (bytes : Bytes)
    (before after : FileSystem) : Prop where
  leads : before.Leads path location
  absent : before.node? location = none
  found : after.find path = .ok (location, ownerOnly, bytes)
  others : ∀ other, other ≠ location → after.node? other = before.node? other

theorem AddsFile.read {path : String} {location : Location} {bytes : Bytes}
    {before after : FileSystem} (h : AddsFile path location bytes before after) :
    after.read path = .ok bytes := by
  obtain ⟨leads, there⟩ := FileSystem.find_eq_ok_iff.mp h.found
  exact FileSystem.read_eq_ok_iff.mpr ⟨location, ownerOnly, leads, there, rfl⟩

theorem AddsFile.keeps {path : String} {location : Location} {bytes : Bytes}
    {before after : FileSystem} (h : AddsFile path location bytes before after)
    {other : Location} (there : before.node? other ≠ none) :
    after.node? other = before.node? other := by
  apply h.others
  rintro rfl
  exact there h.absent

theorem addsFile_writeKey (limit : Option Nat) {path : String} (key : Key) {location : Location}
    (h : w.files.findVacant path = .ok location) :
    AddsFile path location (kept limit key.toBytes) w.files
      ((writeKey limit path key : Job σ Unit).run w).2.files := by
  obtain ⟨leads, absent⟩ := FileSystem.findVacant_leads h
  rw [files_writeKey h]
  exact
    { leads
      absent
      found := FileSystem.find_put_self leads (by simp [absent]) _ _
      others := fun other ne => FileSystem.node?_put_of_ne _ leads.below _ ne }

/-- A key is written exactly if its file can be created and may grow to its length. -/
theorem result_writeKey_eq_ok_iff {limit : Option Nat} {path : String} {key : Key} :
    ((writeKey limit path key : Job σ Unit).run w).1 = .ok () ↔
      (∃ location, w.files.findVacant path = .ok location) ∧ fits limit 32 := by
  cases vacant : w.files.findVacant path with
  | error failure => simp [run_writeKey_of_error vacant]
  | ok location =>
    rw [run_writeKey_of_ok vacant]
    cases fits limit 32 <;> simp

theorem kept_of_room {limit : Option Nat} {key : Key} (room : fits limit 32) :
    kept limit key.toBytes = key.toBytes := by
  apply kept_of_fits
  rw [key.length_toBytes]
  exact room

/-- How an attempt to write a key can fail: nothing is created, or the limit cuts the key short. -/
theorem result_writeKey_eq_error {limit : Option Nat} {path : String} {key : Key} {fault : Fault}
    (h : ((writeKey limit path key : Job σ Unit).run w).1 = .error fault) :
    (∃ failure, w.files.findVacant path = .error failure ∧ fault = createFault path failure ∧
      (writeKey limit path key).run w = (.error fault, w)) ∨
    ∃ location most, w.files.findVacant path = .ok location ∧ limit = some most ∧ most < 32 ∧
      fault = writeKeyFault path .tooLarge := by
  cases vacant : w.files.findVacant path with
  | error failure =>
    rw [run_writeKey_of_error vacant] at h
    cases h
    exact .inl ⟨failure, rfl, rfl, run_writeKey_of_error vacant⟩
  | ok location =>
    rw [run_writeKey_of_ok vacant] at h
    cases room : fits limit 32 with
    | true => simp [room] at h
    | false =>
      simp only [room] at h
      cases h
      cases limit with
      | none => cases room
      | some most => exact .inr ⟨location, most, rfl, rfl, by simpa [fits] using room, rfl⟩

/-- An attempt to write a key where a file is fails, and changes nothing. -/
theorem run_writeKey_of_found {limit : Option Nat} {path : String} {key : Key}
    {found : Location × Nat × Bytes} (h : w.files.find path = .ok found) :
    (writeKey limit path key : Job σ Unit).run w =
      (.error (createFault path .alreadyExists), w) :=
  run_writeKey_of_error (FileSystem.findVacant_of_find h)

/-- The files after some attempts to write a key to a path, each with its own key and under its own
limit, and the keys of the attempts that have succeeded. -/
def writeKeys (path : String) : FileSystem → List (Option Nat × Key) → FileSystem × List Key
  | fs, [] => (fs, [])
  | fs, (limit, key) :: rest =>
    let w : Workspace Unit := { files := fs, source := () }
    match (writeKey limit path key).run w with
    | (.ok (), w') => ((writeKeys path w'.files rest).1, key :: (writeKeys path w'.files rest).2)
    | (.error _, w') => writeKeys path w'.files rest

theorem writeKeys_cons_of_ok {path : String} {fs : FileSystem} {limit : Option Nat} {key : Key}
    {w' : Workspace Unit}
    (h : (writeKey limit path key).run { files := fs, source := () } = (.ok (), w'))
    (rest : List (Option Nat × Key)) :
    writeKeys path fs ((limit, key) :: rest) =
      ((writeKeys path w'.files rest).1, key :: (writeKeys path w'.files rest).2) := by
  rw [writeKeys, h]

theorem writeKeys_cons_of_error {path : String} {fs : FileSystem} {limit : Option Nat} {key : Key}
    {fault : Fault} {w' : Workspace Unit}
    (h : (writeKey limit path key).run { files := fs, source := () } = (.error fault, w'))
    (rest : List (Option Nat × Key)) :
    writeKeys path fs ((limit, key) :: rest) = writeKeys path w'.files rest := by
  rw [writeKeys, h]

theorem writeKeys_of_found {path : String} {fs : FileSystem} {found : Location × Nat × Bytes}
    (h : fs.find path = .ok found) (attempts : List (Option Nat × Key)) :
    writeKeys path fs attempts = (fs, []) := by
  induction attempts with
  | nil => rfl
  | cons attempt rest ih =>
    obtain ⟨limit, key⟩ := attempt
    rw [writeKeys_cons_of_error (run_writeKey_of_found h)]
    exact ih

/-- What can be read of a key that the limit has cut short is not a key. -/
theorem result_read_cut {fs : FileSystem} {path : String} {key : Key} {most : Nat}
    (short : most < 32) (h : fs.read path = .ok (key.toBytes.take most)) :
    ∃ fault, (KeySource.read fs (BasicSource.file path)).result = .error fault ∧
      fault.kind = some .keyLength := by
  have length : (key.toBytes.take most).length ≠ 32 := by
    rw [List.length_take, key.length_toBytes]
    omega
  rw [BasicSource.result_read_file_of_ok h, Key.ofBytes_of_length_ne length, mapError_error]
  exact ⟨_, rfl, rfl⟩

/-- Of the attempts to write a key where no file is at first, one succeeds at most, and the file
then gives its key. -/
theorem writeKeys_of_absent {path : String} {fs : FileSystem}
    (absent : ∀ found, fs.find path ≠ .ok found) (attempts : List (Option Nat × Key)) :
    (writeKeys path fs attempts).2.length ≤ 1 ∧
    ∀ key, (KeySource.read (writeKeys path fs attempts).1 (BasicSource.file path)).result =
        .ok key ↔ (writeKeys path fs attempts).2 = [key] := by
  induction attempts with
  | nil =>
    refine ⟨Nat.zero_le 1, fun key => ⟨fun h => ?_, fun h => nomatch h⟩⟩
    obtain ⟨location, mode, leads, there, -⟩ :=
      FileSystem.read_eq_ok_iff.mp (BasicSource.result_read_file_eq_ok_iff.mp h)
    exact absurd (FileSystem.find_eq_ok_iff.mpr ⟨leads, there⟩) (absent _)
  | cons attempt rest ih =>
    obtain ⟨limit, key⟩ := attempt
    let w : Workspace Unit := { files := fs, source := () }
    cases vacant : fs.findVacant path with
    | error failure =>
      rw [writeKeys_cons_of_error (run_writeKey_of_error vacant)]
      exact ih
    | ok location =>
      have adds := addsFile_writeKey (w := w) limit key vacant
      rcases ran : (writeKey limit path key).run w with ⟨fault | ⟨⟨⟩⟩, w'⟩
      -- Either way there is a file now, which the attempts that are left cannot change.
      · rw [ran] at adds
        obtain ⟨failure, impossible, -⟩ | ⟨-, most, -, rfl, short, -⟩ :=
          result_writeKey_eq_error (congrArg Prod.fst ran)
        · simp [w, vacant] at impossible
        · obtain ⟨unusable, failed, -⟩ := result_read_cut short adds.read
          rw [writeKeys_cons_of_error ran, writeKeys_of_found adds.found, failed]
          exact ⟨Nat.zero_le 1, fun other => ⟨nofun, nofun⟩⟩
      · rw [ran, kept_of_room (result_writeKey_eq_ok_iff.mp (congrArg Prod.fst ran)).2] at adds
        rw [writeKeys_cons_of_ok ran, writeKeys_of_found adds.found,
          BasicSource.result_read_file_eq_ok_iff.mpr adds.read]
        exact ⟨Nat.le_refl 1, fun other => by simp⟩

/-- A path that gives no key, because of the length of the file there, and will never give one:
every attempt to write a key fails, blames the user and changes nothing. -/
structure Unusable (path : String) (fs : FileSystem) : Prop where
  noKey : ∃ fault, (KeySource.read fs (BasicSource.file path)).result = .error fault ∧
    fault.kind = some .keyLength
  stuck : ∀ (σ : Type) (limit : Option Nat) (key : Key) (w : Workspace σ), w.files = fs →
    ∃ fault, (writeKey limit path key).run w = (.error fault, w) ∧
      fault.category = .user ∧ fault.kind = some .io

/-- A key file comes to hold all of a new key, or never gives one. An attempt that succeeds has
found no file and leaves one that its owner alone may read, and that gives the key. An attempt that
fails changes nothing that was there, and blames the user exactly if there was something at the
path. If it leaves a new file, that is one that the limit has cut short, and it is of no use. So
after any number of attempts where no file was at first, the file gives the key of the one that has
succeeded, and no other. -/
theorem written_whole_or_unusable (limit : Option Nat) (path : String) (key : Key)
    (w : Workspace σ) :
    (((writeKey limit path key).run w).1 = .ok () ↔
      (∃ location, w.files.findVacant path = .ok location) ∧ fits limit 32) ∧
    (((writeKey limit path key).run w).1 = .ok () →
      (∃ location, AddsFile path location key.toBytes w.files
        ((writeKey limit path key).run w).2.files) ∧
      (KeySource.read ((writeKey limit path key).run w).2.files (BasicSource.file path)).result =
        .ok key) ∧
    (∀ fault, ((writeKey limit path key).run w).1 = .error fault →
      (∀ location, w.files.node? location ≠ none →
        ((writeKey limit path key).run w).2.files.node? location = w.files.node? location) ∧
      (fault.category = .user ↔
        ∃ failure, w.files.findVacant path = .error failure ∧ failure.kind = .alreadyExists) ∧
      (((writeKey limit path key).run w).2.files = w.files ∨
        ∃ location most, limit = some most ∧ most < 32 ∧
          AddsFile path location (key.toBytes.take most) w.files
            ((writeKey limit path key).run w).2.files ∧
          Unusable path ((writeKey limit path key).run w).2.files)) ∧
    ∀ attempts, (∀ found, w.files.find path ≠ .ok found) →
      (writeKeys path w.files attempts).2.length ≤ 1 ∧
      ∀ other, (KeySource.read (writeKeys path w.files attempts).1
          (BasicSource.file path)).result = .ok other ↔
        (writeKeys path w.files attempts).2 = [other] := by
  refine ⟨result_writeKey_eq_ok_iff, ?_, ?_, fun attempts absent => writeKeys_of_absent absent _⟩
  · intro done
    obtain ⟨⟨location, vacant⟩, room⟩ := result_writeKey_eq_ok_iff.mp done
    have adds := addsFile_writeKey limit key vacant
    rw [kept_of_room room] at adds
    exact ⟨⟨location, adds⟩, BasicSource.result_read_file_eq_ok_iff.mpr adds.read⟩
  · intro fault failed
    rcases result_writeKey_eq_error failed with
      ⟨failure, occupied, rfl, ran⟩ | ⟨location, most, vacant, rfl, short, rfl⟩
    · rw [ran]
      refine ⟨fun _ _ => rfl, ?_, .inl rfl⟩
      rw [createFault, Fault.category_ofIoBlaming]
      simp [occupied]
    · have adds := addsFile_writeKey (some most) key vacant
      refine ⟨fun other there => adds.keeps there, ?_, .inr ⟨location, most, rfl, short, adds, ?_⟩⟩
      · simp [vacant, writeKeyFault, internalIo, Fault.category, Fault.report]
      · refine ⟨result_read_cut short adds.read, fun _ _ _ w' files => ?_⟩
        have found := adds.found
        rw [← files] at found
        exact ⟨_, run_writeKey_of_found found, rfl, rfl⟩

end Files

end FileSeal
