import FileSeal.Proofs.CallRuns
import FileSeal.Proofs.FileRoundTrip
import FileSeal.Proofs.WireFormat

namespace FileSeal

namespace Record

/-- The digest of a stored record is in its last bytes. What stands before them only has to have the
right length. -/
theorem map_digest_ofBytes {bytes other : Bytes} (length : other.length = bytes.length)
    (ending : other.drop (other.length - 32) = bytes.drop (bytes.length - 32)) :
    (ofBytes other).map Record.digest = (ofBytes bytes).map Record.digest := by
  by_cases short : bytes.length < minimumLength
  · have short' : other.length < minimumLength := length ▸ short
    rw [ofBytes_of_short short, ofBytes_of_short short', length]
  · have long : minimumLength ≤ bytes.length := Nat.le_of_not_lt short
    have long' : minimumLength ≤ other.length := length ▸ long
    by_cases aligned : (bytes.length - overhead) % 16 = 0
    · have aligned' : (other.length - overhead) % 16 = 0 := length ▸ aligned
      obtain ⟨record, read⟩ := exists_ofBytes long aligned
      obtain ⟨record', read'⟩ := exists_ofBytes long' aligned'
      have same : record'.digest = record.digest := by
        rw [← toBytes_of_ofBytes read, ← toBytes_of_ofBytes read', drop_toBytes, drop_toBytes]
          at ending
        exact Octets.ext ending
      rw [read, read']
      exact congrArg Except.ok same
    · have odd : (other.length - overhead) % 16 ≠ 0 := length ▸ aligned
      rw [ofBytes_of_misaligned long aligned, ofBytes_of_misaligned long' odd, length]

end Record

namespace FileSystem

variable {fs : FileSystem} {location : Location} {mode : Nat} {old : Bytes}

theorem enter_put_file (there : fs.node? location = some (.file mode old)) (below : location ≠ [])
    (m : Nat) (bytes : Bytes) : (fs.put location (.file m bytes)).enter = fs.enter := by
  funext here name
  unfold enter
  rw [node?_put fs below]
  split
  next => rfl
  next =>
    split
    next => rfl
    next =>
      split
      next => rfl
      next =>
        by_cases same : here ++ [name] = location
        · rw [if_pos same, same, there]
        · rw [if_neg same]

/-- A path that leads to no file with new contents is read as before, failures included. -/
theorem read_put_file (there : fs.node? location = some (.file mode old)) (below : location ≠ [])
    {text : String} (elsewhere : ¬ fs.Leads text location) (m : Nat) (bytes : Bytes) :
    (fs.put location (.file m bytes)).read text = fs.read text := by
  have walk : ∀ path, (fs.put location (.file m bytes)).walk path = fs.walk path := by
    intro path
    rw [FileSystem.walk, enter_put_file there below]
    rfl
  have find : (fs.put location (.file m bytes)).find text = fs.find text := by
    unfold FileSystem.find
    cases parsed : Path.ofText text with
    | error failure => rfl
    | ok path =>
      simp only [bind, Except.bind, walk]
      cases walked : fs.walk path with
      | error failure => rfl
      | ok parent =>
        dsimp only
        cases last : path.last with
        | none => rfl
        | some name =>
          dsimp only
          rw [node?_put fs below]
          split
          next => rfl
          next short =>
            by_cases same : parent ++ [name] = location
            · rw [if_pos same, same, there]
              cases slash : path.slash with
              | true => rfl
              | false =>
                have leads : fs.Leads text location := ⟨path, parent, name, parsed, walked, last,
                  slash, Nat.le_of_not_lt short, same.symm⟩
                exact absurd leads elsewhere
            · rw [if_neg same]
  rw [read, find]
  rfl

end FileSystem

namespace Files

open Job

variable {σ τ : Type} {w : Workspace σ}

/-- A verification reads the record for its digest, and then the other file. -/
theorem run_verify (plain crypt : String) :
    (verify plain crypt : Job σ Unit).run w =
      match w.files.read crypt with
      | .error failure => (.error (readFault crypt failure), w)
      | .ok stored =>
        let read := w.logged [.recordRead crypt stored.length]
        match (Record.ofBytes stored).map Record.digest with
        | .error fault => (.error (recordFault crypt fault), read)
        | .ok expected =>
          match w.files.read plain with
          | .error failure => (.error (readFault plain failure), read)
          | .ok contents =>
            if FileSeal.digest contents = expected then
              (.ok (), read.logged [.digestsMatched plain crypt])
            else (.error (mismatchFault plain crypt), read) := by
  unfold verify digest
  cases stored : w.files.read crypt with
  | error failure => simp only [run_bind, run_readRecord_of_error stored]
  | ok bytes =>
    simp only [run_bind, run_readRecord_of_ok stored, map_eq_pure_bind]
    cases Record.ofBytes bytes with
    | error fault => rfl
    | ok record =>
      simp only [mapError_ok, run_readBytes, Workspace.files_logged]
      cases w.files.read plain with
      | error failure => rfl
      | ok contents =>
        simp only [mapError_ok, run_pure]
        by_cases same : FileSeal.digest contents = record.digest
        · simp [same, Except.map]
        · simp [same, Except.map]

theorem result_verify_of_read {plain crypt : String} {stored contents : Bytes} {record : Record}
    (read : w.files.read crypt = .ok stored) (parsed : Record.ofBytes stored = .ok record)
    (read' : w.files.read plain = .ok contents) :
    ((verify plain crypt : Job σ Unit).run w).1 =
      if FileSeal.digest contents = record.digest then .ok ()
      else .error (mismatchFault plain crypt) := by
  rw [run_verify, read]
  simp only [parsed, Except.map, read']
  split <;> rfl

/-- A verification succeeds if both files can be read, one of them holds a record, and the record
ends in the digest of the other. -/
theorem result_verify_eq_ok_iff {plain crypt : String} :
    ((verify plain crypt : Job σ Unit).run w).1 = .ok () ↔
      ∃ stored record contents, w.files.read crypt = .ok stored ∧
        Record.ofBytes stored = .ok record ∧ w.files.read plain = .ok contents ∧
        (FileSeal.digest contents).toBytes = stored.drop (stored.length - 32) := by
  constructor
  · intro done
    rw [run_verify] at done
    cases read : w.files.read crypt with
    | error failure => simp [read] at done
    | ok stored =>
      cases parsed : Record.ofBytes stored with
      | error fault => simp [read, parsed, Except.map] at done
      | ok record =>
        cases read' : w.files.read plain with
        | error failure => simp [read, parsed, read', Except.map] at done
        | ok contents =>
          refine ⟨stored, record, contents, rfl, parsed, rfl, ?_⟩
          by_cases same : FileSeal.digest contents = record.digest
          · rw [same, ← Record.toBytes_of_ofBytes parsed, Record.drop_toBytes]
          · simp [read, parsed, read', same, Except.map] at done
  · intro h
    obtain ⟨stored, record, contents, read, parsed, read', same⟩ := h
    rw [← Record.toBytes_of_ofBytes parsed, Record.drop_toBytes] at same
    rw [result_verify_of_read read parsed read', if_pos (Octets.ext same)]

/-- The record of one file's contents has been put where another path leads. -/
structure SealsInto (plain crypt : String) (message : Bytes) (before after : FileSystem) :
    Prop where
  read : before.read plain = .ok message
  put : ∃ location, before.Leads crypt location ∧
    (∀ mode, before.node? location ≠ some (.directory mode)) ∧
    ∃ (key : Key) (iv : Block),
      after = before.put location (.file ownerOnly (key.sealed iv message).toBytes)

/-- One path leads to a file, and another does not lead to the same one. -/
def Apart (fs : FileSystem) (plain crypt : String) : Prop :=
  ∃ location mode bytes, fs.find plain = .ok (location, mode, bytes) ∧ ¬ fs.Leads crypt location

theorem sealsInto_encrypt [KeySource τ] {c : Circumstances} {plain crypt : String}
    {v : Workspace τ} (done : ((encrypt c plain crypt).run v).1 = .ok ()) :
    ∃ message, SealsInto plain crypt message v.files ((encrypt c plain crypt).run v).2.files := by
  rw [encrypt_eq] at done ⊢
  rcases ran : (sealContents c plain crypt).run v with ⟨fault | contents, v'⟩
  · rw [run_bind_of_error ran] at done
    cases done
  · rw [run_bind_of_ok ran] at done ⊢
    have prepared := congrArg Prod.fst ran
    obtain ⟨message, key, read, -, rfl⟩ := run_sealContents_eq_ok_iff.mp prepared
    have quiet := (quiet_sealContents c plain crypt).files_eq ran
    cases opened : v'.files.findWritable crypt with
    | error failure =>
      rw [run_deliver_of_error opened] at done
      cases done
    | ok place =>
      obtain ⟨location, present⟩ := place
      have room : fits c.limit (key.sealed c.iv message).toBytes.length := by
        rw [run_deliver_of_ok opened] at done
        dsimp only at done
        split at done
        next room => exact room
        next => cases done
      obtain ⟨leads, noDirectory⟩ := FileSystem.findWritable_leads opened
      rw [quiet] at leads noDirectory
      refine ⟨message, read, location, leads, noDirectory, key, c.iv, ?_⟩
      rw [files_deliver_of_ok opened, kept_of_fits room, quiet]

theorem sealsInto_update [KeySource τ] {c : Circumstances} {plain crypt : String}
    {v : Workspace τ} (apart : Apart v.files plain crypt)
    (done : ((update c plain crypt).run v).1 = .ok ()) :
    ∃ message, SealsInto plain crypt message v.files ((update c plain crypt).run v).2.files := by
  obtain ⟨location, key, message, opens, supplies, -, files⟩ :=
    update_ok_supplies (Prod.ext done rfl)
  obtain ⟨place, mode, bytes, found, -⟩ := apart
  obtain ⟨leads, there⟩ := FileSystem.find_eq_ok_iff.mp found
  -- The plain file is there before the temporary file, so it is not taken for it.
  have unclaimed : Unclaimed v.files plain crypt c.endings := by
    intro temporary chosen leads'
    obtain ⟨-, vacant⟩ := chosen.vacant
    cases leads.unique leads'
    simp [vacant] at there
  exact ⟨message, supplies.read unclaimed, location, opens.leads, opens.noDirectory, key, c.iv,
    files⟩

/-- Whatever put the record there, a verification takes the plain file itself, and of all readable
files those with its digest. -/
theorem SealsInto.verify {plain crypt : String} {message : Bytes} {before : FileSystem}
    (h : SealsInto plain crypt message before w.files) (apart : Apart before plain crypt) :
    w.files.read plain = .ok message ∧ ((verify plain crypt : Job σ Unit).run w).1 = .ok () ∧
      ∀ other contents, w.files.read other = .ok contents →
        ((Files.verify other crypt : Job σ Unit).run w).1 =
          if FileSeal.digest contents = FileSeal.digest message then .ok ()
          else .error (mismatchFault other crypt) := by
  obtain ⟨place, leads, noDirectory, key, iv, files⟩ := h.put
  obtain ⟨location, mode, bytes, found, elsewhere⟩ := apart
  have notLeads : ¬ before.Leads plain place := by
    intro leads'
    cases (FileSystem.find_eq_ok_iff.mp found).1.unique leads'
    exact elsewhere leads
  have stored : w.files.read crypt = .ok (key.sealed iv message).toBytes := by
    rw [files]
    exact FileSystem.read_put_self leads noDirectory _
  have kept : w.files.read plain = .ok message := by
    rw [files]
    exact (FileSystem.read_put_of_not_leads leads.below noDirectory notLeads _ _).mpr h.read
  have answer : ∀ other contents, w.files.read other = .ok contents →
      ((Files.verify other crypt : Job σ Unit).run w).1 =
        if FileSeal.digest contents = FileSeal.digest message then .ok ()
        else .error (mismatchFault other crypt) := by
    intro other contents read
    exact result_verify_of_read stored (Record.ofBytes_toBytes _) read
  refine ⟨kept, ?_, answer⟩
  rw [answer plain message kept, if_pos rfl]

/-- What a verification comes to hangs on the last bytes of the encrypted file and on its length. -/
theorem verify_put_of_ending {plain crypt : String} {location : Location} {mode : Nat}
    {stored other : Bytes} (found : w.files.find crypt = .ok (location, mode, stored))
    (elsewhere : ¬ w.files.Leads plain location) (length : other.length = stored.length)
    (ending : other.drop (other.length - 32) = stored.drop (stored.length - 32)) :
    let v := { w with files := w.files.put location (.file mode other) }
    ((verify plain crypt : Job σ Unit).run v).1 = ((verify plain crypt).run w).1 := by
  intro v
  obtain ⟨leads, there⟩ := FileSystem.find_eq_ok_iff.mp found
  have read : w.files.read crypt =
      if ownerReads mode then .ok stored else .error .permissionDenied := by
    simp [FileSystem.read, found, bind, Except.bind]
  have read' : v.files.read crypt =
      if ownerReads mode then .ok other else .error .permissionDenied := by
    have found' := FileSystem.find_put_self leads (by simp [there]) mode other
    simp [v, FileSystem.read, found', bind, Except.bind]
  have kept : v.files.read plain = w.files.read plain :=
    FileSystem.read_put_file there leads.below elsewhere mode other
  have digests := Record.map_digest_ofBytes length ending
  rw [run_verify, run_verify, read, read']
  cases ownerReads mode with
  | false => rfl
  | true =>
    simp only [if_true, digests, kept, length]
    cases (Record.ofBytes stored).map Record.digest with
    | error fault => rfl
    | ok expected =>
      cases w.files.read plain with
      | error failure => rfl
      | ok contents =>
        dsimp only
        split <;> rfl

theorem journal_verify (plain crypt : String) :
    ((verify plain crypt : Job σ Unit).run w).2.journal = w.journal := by
  rw [run_verify]
  split
  next => rfl
  next stored read =>
    dsimp only
    split
    next => rfl
    next expected parsed =>
      split
      next => rfl
      next => split <;> rfl

/-- A verification compares digests and does nothing else. It succeeds exactly if both files can be
read, the encrypted one holds a record, and the record ends in the digest of the plain one. After an
encryption or an update from one file into another it accepts the plain file, and refuses any file
with another digest. What stands before the digest in the encrypted file makes no difference to it,
beyond its length. -/
theorem verify_compares_digests (plain crypt : String) (w : Workspace σ) :
    (((verify plain crypt).run w).1 = .ok () ↔
      ∃ stored record contents, w.files.read crypt = .ok stored ∧
        Record.ofBytes stored = .ok record ∧ w.files.read plain = .ok contents ∧
        (FileSeal.digest contents).toBytes = stored.drop (stored.length - 32)) ∧
    ((verify plain crypt).run w).2.files = w.files ∧
    ((verify plain crypt).run w).2.journal = w.journal ∧
    (∀ (τ : Type) [KeySource τ] (c : Circumstances) (v : Workspace τ), Apart v.files plain crypt →
      (((encrypt c plain crypt).run v).1 = .ok () ∧
          w.files = ((encrypt c plain crypt).run v).2.files ∨
        ((update c plain crypt).run v).1 = .ok () ∧
          w.files = ((update c plain crypt).run v).2.files) →
      ((verify plain crypt).run w).1 = .ok () ∧
      ∃ message, v.files.read plain = .ok message ∧
        ∀ other contents, w.files.read other = .ok contents →
          ((verify other crypt).run w).1 =
            if FileSeal.digest contents = FileSeal.digest message then .ok ()
            else .error (mismatchFault other crypt)) ∧
    (∀ location mode stored start, w.files.find crypt = .ok (location, mode, stored) →
      ¬ w.files.Leads plain location → start.length = stored.length - 32 →
      let damaged := start ++ stored.drop (stored.length - 32)
      let v := { w with files := w.files.put location (.file mode damaged) }
      ((verify plain crypt).run v).1 = ((verify plain crypt).run w).1) := by
  refine ⟨result_verify_eq_ok_iff, quiet_verify plain crypt w, journal_verify plain crypt, ?_, ?_⟩
  · intro τ _ c v apart done
    have sealed : ∃ message, SealsInto plain crypt message v.files w.files := by
      rcases done with ⟨done, files⟩ | ⟨done, files⟩
      · rw [files]
        exact sealsInto_encrypt done
      · rw [files]
        exact sealsInto_update apart done
    obtain ⟨message, sealed⟩ := sealed
    obtain ⟨-, accepted, answer⟩ := sealed.verify apart
    exact ⟨accepted, message, sealed.read, answer⟩
  · intro location mode stored start found elsewhere count damaged v
    have length : damaged.length = stored.length := by
      simp only [damaged, List.length_append, List.length_drop]
      omega
    have ending : damaged.drop (damaged.length - 32) = stored.drop (stored.length - 32) := by
      rw [length]
      exact List.drop_left' count
    exact verify_put_of_ending found elsewhere length ending

theorem encrypt_beside (key : Key) (iv : Block) (bytes : Bytes) :
    ((encrypt { iv, endings := [] } "a" "b").run (oneFile key bytes)).1 = .ok () :=
  encrypt_succeeds rfl rfl rfl rfl

theorem leads_beside (key : Key) (bytes : Bytes) : (oneFile key bytes).files.Leads "b" ["b"] :=
  ⟨⟨false, [], some "b", false⟩, [], "b", rfl, rfl, rfl, rfl, by decide, rfl⟩

/-- The file that was encrypted is accepted, and still is when the record has lost everything but
its digest. -/
theorem verify_compares_digests_damaged :
    let key : Key := ⟨Octets.replicate 32 0⟩
    let c : Circumstances := { iv := Octets.replicate 16 1, endings := [] }
    let v := oneFile key [104, 105]
    let w : Workspace Unit := { files := ((encrypt c "a" "b").run v).2.files, source := () }
    Apart v.files "a" "b" ∧ ((encrypt c "a" "b").run v).1 = .ok () ∧
      ((verify "a" "b").run w).1 = .ok () ∧
      ∃ location stored, w.files.find "b" = .ok (location, ownerOnly, stored) ∧
        ¬ w.files.Leads "a" location ∧
        let damaged := List.replicate (stored.length - 32) 0 ++ stored.drop (stored.length - 32)
        let damagedFiles := w.files.put location (.file ownerOnly damaged)
        ((verify "a" "b").run { w with files := damagedFiles }).1 = .ok () := by
  intro key c v w
  have done : ((encrypt c "a" "b").run v).1 = .ok () := encrypt_beside key _ _
  have leads := leads_beside key [104, 105]
  have found : v.files.find "a" = .ok (["a"], 0o644, [104, 105]) := rfl
  have apart : Apart v.files "a" "b" := by
    refine ⟨["a"], _, _, found, fun same => ?_⟩
    exact absurd (same.unique leads) (by decide)
  obtain ⟨-, -, -, after, damage⟩ := verify_compares_digests "a" "b" w
  obtain ⟨accepted, -⟩ := after BasicSource c v apart (.inl ⟨done, rfl⟩)
  obtain ⟨message, sealed⟩ := sealsInto_encrypt done
  obtain ⟨place, leads', noDirectory, key', iv, files⟩ := sealed.put
  cases leads'.unique leads
  have found' : w.files.find "b" = .ok (["b"], ownerOnly, (key'.sealed iv message).toBytes) := by
    rw [show w.files = _ from files]
    exact FileSystem.find_put_self leads noDirectory _ _
  have elsewhere : ¬ w.files.Leads "a" ["b"] := by
    rw [show w.files = _ from files]
    intro other
    have other := other.of_put leads.below noDirectory
    exact absurd (other.unique (FileSystem.find_eq_ok_iff.mp found).1) (by decide)
  have same := damage ["b"] ownerOnly _ (List.replicate _ 0) found' elsewhere List.length_replicate
  exact ⟨apart, done, accepted, ["b"], _, found', elsewhere, same.trans accepted⟩

end Files

end FileSeal
