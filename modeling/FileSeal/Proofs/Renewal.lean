import Mathlib.Data.List.Chain
import FileSeal.Proofs.Refusal
import FileSeal.Proofs.Update

namespace FileSeal.Files

open Job

variable {σ : Type} {w : Workspace σ}

/-- A path leads to a record that a key opens, and to this message in it. -/
def Holds (fs : FileSystem) (path : String) (key : Key) (message : Bytes) : Prop :=
  ∃ stored, fs.read path = .ok stored ∧ key.decrypt stored = .ok message

theorem Holds.unique {fs : FileSystem} {path : String} {key : Key} {message other : Bytes}
    (h : Holds fs path key message) (h' : Holds fs path key other) : other = message := by
  obtain ⟨stored, read, opened⟩ := h
  obtain ⟨stored', read', opened'⟩ := h'
  cases read.symm.trans read'
  exact Except.ok.inj (opened'.symm.trans opened)

/-- Two keys may open one record, but only to messages of one digest. -/
theorem Holds.digest_eq {fs : FileSystem} {path : String} {key key' : Key}
    {message other : Bytes} (h : Holds fs path key message) (h' : Holds fs path key' other) :
    FileSeal.digest other = FileSeal.digest message := by
  obtain ⟨stored, read, opened⟩ := h
  obtain ⟨stored', read', opened'⟩ := h'
  cases read.symm.trans read'
  exact Octets.eq_of_suffix (Key.decrypt_eq_ok_digest opened') (Key.decrypt_eq_ok_digest opened)

/-- A change of the files that leaves what can be read under a path as it is. -/
def Spares (path : String) (before after : FileSystem) : Prop :=
  ∀ stored, before.read path = .ok stored → after.read path = .ok stored

/-- Whatever happens to other files spares a file. -/
theorem spares_of_sameDirectories {path : String} {before after : FileSystem}
    (same : before.SameDirectories after)
    (kept : ∀ location, before.Leads path location →
      after.node? location = before.node? location) : Spares path before after := by
  intro stored read
  obtain ⟨location, mode, leads, there, reads⟩ := FileSystem.read_eq_ok_iff.mp read
  rw [← kept location leads] at there
  exact FileSystem.read_eq_ok_iff.mpr ⟨location, mode, same.leads leads, there, reads⟩

theorem Holds.spared {path : String} {before after : FileSystem} {key : Key} {message : Bytes}
    (h : Holds before path key message) (spares : Spares path before after) :
    Holds after path key message := by
  obtain ⟨stored, read, opened⟩ := h
  exact ⟨stored, spares stored read, opened⟩

theorem Supplies.unique {c : Circumstances} {plain crypt : String} {fs : FileSystem}
    {message other : Bytes} (h : Supplies c plain crypt fs message)
    (h' : Supplies c plain crypt fs other) : other = message := by
  obtain ⟨temporary, ⟨parent, isParent, found⟩, contents⟩ := h
  obtain ⟨temporary', ⟨parent', isParent', found'⟩, contents'⟩ := h'
  cases isParent.symm.trans isParent'
  cases found.symm.trans found'
  exact Except.ok.inj (contents'.symm.trans contents)

/-- An update that has succeeded: the files before it, the key of its source, and the contents that
it has read. -/
structure Renewal where
  before : FileSystem
  key : Key
  message : Bytes

/-- The updates of an encrypted file that have succeeded so far. Others may have failed, and the
files may have changed in between in any way that spares the encrypted one. -/
inductive History (crypt : String) (start : FileSystem) : FileSystem → List Renewal → Prop
  | start : History crypt start start []
  | changed {before after : FileSystem} {done : List Renewal} :
      History crypt start before done → Spares crypt before after →
      History crypt start after done
  | failed {σ : Type} [KeySource σ] {w : Workspace σ} {c : Circumstances} {plain : String}
      {fault : Fault} {done : List Renewal} :
      History crypt start w.files done → ((update c plain crypt).run w).1 = .error fault →
      History crypt start ((update c plain crypt).run w).2.files done
  | renewed {σ : Type} [KeySource σ] {w : Workspace σ} {c : Circumstances} {plain : String}
      {key : Key} {message : Bytes} {done : List Renewal} :
      History crypt start w.files done → ((update c plain crypt).run w).1 = .ok () →
      w.answer = .ok key → Supplies c plain crypt w.files message →
      History crypt start ((update c plain crypt).run w).2.files
        (done ++ [⟨w.files, key, message⟩])

/-- Between two renewals the file holds what the first has put there. The key of the second opens
that too: to the same message if it is the same key, and to one with the same digest in any case. -/
structure Continues (crypt : String) (earlier later : Renewal) : Prop where
  holds : Holds later.before crypt earlier.key earlier.message
  opens : ∃ old, Holds later.before crypt later.key old ∧
    FileSeal.digest old = FileSeal.digest earlier.message ∧
    (later.key = earlier.key → old = earlier.message)

/-- After a renewal the file holds the new contents under the key that has opened the old ones. -/
theorem holds_of_renewed [KeySource σ] {c : Circumstances} {plain crypt : String} {key : Key}
    {message : Bytes} (done : ((update c plain crypt).run w).1 = .ok ())
    (answered : w.answer = .ok key) (supplies : Supplies c plain crypt w.files message) :
    (∃ old, Holds w.files crypt key old) ∧
      Holds ((update c plain crypt).run w).2.files crypt key message := by
  obtain ⟨location, key', message', opens, supplies', -, files⟩ :=
    update_ok_supplies (Prod.ext done rfl)
  cases answered.symm.trans opens.answered
  cases supplies.unique supplies'
  obtain ⟨stored, old, read, accepted⟩ := opens.accepted
  refine ⟨⟨old, stored, read, accepted⟩, _, ?_, key.decrypt_sealed c.iv message⟩
  rw [files]
  exact FileSystem.read_put_self opens.leads opens.noDirectory _

/-- The latest renewal so far, or what there was at first. -/
def latest (first : Renewal) (done : List Renewal) : Renewal := done.getLastD first

theorem latest_snoc (first : Renewal) (done : List Renewal) (next : Renewal) :
    latest first (done ++ [next]) = next := by
  simp [latest]

theorem getLast?_renewals (first : Renewal) (done : List Renewal) :
    (first :: done).getLast? = some (latest first done) := by
  rw [List.getLast?_cons, latest, List.getLastD_eq_getLast?]

/-- One more update extends the history, or it fails and leaves it at that. -/
theorem History.updated [KeySource σ] {crypt : String} {start : FileSystem} {done : List Renewal}
    (history : History crypt start w.files done) (c : Circumstances) (plain : String) :
    let call := (update c plain crypt).run w
    (∃ fault, call.1 = .error fault ∧ call.2.files = w.files) ∨
      call.1 = .ok () ∧ ∃ key message, w.answer = .ok key ∧
        Supplies c plain crypt w.files message ∧
        History crypt start call.2.files (done ++ [⟨w.files, key, message⟩]) := by
  intro call
  cases result : call.1 with
  | error fault => exact .inl ⟨fault, rfl, update_failed (Prod.ext result rfl)⟩
  | ok _ =>
    obtain ⟨location, key, message, opens, supplies, -⟩ := update_ok_supplies (Prod.ext result rfl)
    exact .inr ⟨rfl, key, message, opens.answered, supplies,
      .renewed history result opens.answered supplies⟩

theorem History.holds {crypt : String} {start now : FileSystem} {key : Key} {message : Bytes}
    {done : List Renewal} (history : History crypt start now done)
    (opens : Holds start crypt key message) :
    let first : Renewal := ⟨start, key, message⟩
    Holds now crypt (latest first done).key (latest first done).message ∧
      List.IsChain (Continues crypt) (first :: done) := by
  intro first
  -- What the file holds now is what the next key has to open, so both parts go together.
  induction history with
  | start => exact ⟨opens, List.isChain_singleton first⟩
  | changed _ spares ih => exact ⟨ih.1.spared spares, ih.2⟩
  | failed _ failed ih =>
    rw [update_failed (Prod.ext failed rfl)]
    exact ih
  | @renewed σ _ w c plain key' message' done _ succeeded answered supplies ih =>
    obtain ⟨held, chain⟩ := ih
    obtain ⟨⟨old, opened⟩, holds⟩ := holds_of_renewed succeeded answered supplies
    have continues : Continues crypt (latest first done) ⟨w.files, key', message'⟩ :=
      ⟨held, old, opened, held.digest_eq opened, fun same => held.unique (same ▸ opened)⟩
    rw [latest_snoc, ← List.cons_append]
    refine ⟨holds, chain.append (List.isChain_singleton _) ?_⟩
    intro last isLast next isNext
    cases (getLast?_renewals first done).symm.trans isLast
    cases isNext
    exact continues

theorem Holds.refused [KeySource σ] {crypt : String} {key used : Key} {message : Bytes}
    (h : Holds w.files crypt key message) (answered : w.answer = .ok used)
    (closed : ∀ old, ¬ Holds w.files crypt used old) : Refused crypt w := by
  obtain ⟨stored, read, opened⟩ := h
  cases parsed : Record.ofBytes stored with
  | error fault =>
    rw [Key.decrypt_of_ofBytes_error parsed] at opened
    cases opened
  | ok record =>
    cases tried : used.tryDecrypt record with
    | error rejection => exact ⟨stored, record, used, rejection, read, parsed, answered, tried⟩
    | ok old =>
      refine absurd ⟨stored, read, ?_⟩ (closed old)
      rw [Key.decrypt_of_ofBytes parsed]
      exact Key.decryptRecord_eq_ok.mpr tried

theorem run_update_of_refused [KeySource σ] (c : Circumstances) (plain : String) {crypt : String}
    (refused : Refused crypt w) : ((update c plain crypt).run w).1 = .error fileRefusal := by
  obtain ⟨before, after, -, -, ran⟩ := run_openRecord_of_refused refused
  rw [update_eq, run_bind_of_error ran]

/-- An encrypted file stays readable whatever updates are made to it. At the end the key of the
last one that has succeeded opens it, to what that one has read; the key can only have changed to
one that opens what was there before, to bytes of the same digest. Every further update makes the
history longer or fails and changes nothing, as it does with a key that does not open the file. -/
theorem key_survives_updates {crypt : String} {start now : FileSystem} {key : Key}
    {message : Bytes} {done : List Renewal} (opens : Holds start crypt key message)
    (history : History crypt start now done) :
    let first : Renewal := ⟨start, key, message⟩
    Holds now crypt (latest first done).key (latest first done).message ∧
      List.IsChain (Continues crypt) (first :: done) ∧
      ∀ (σ : Type) [KeySource σ] (c : Circumstances) (plain : String) (w : Workspace σ),
        w.files = now →
        let call := (update c plain crypt).run w
        ((∃ fault, call.1 = .error fault ∧ call.2.files = now) ∨
          call.1 = .ok () ∧ ∃ used contents, w.answer = .ok used ∧
            Supplies c plain crypt now contents ∧
            (Unclaimed now plain crypt c.endings → now.read plain = .ok contents) ∧
            History crypt start call.2.files (done ++ [⟨now, used, contents⟩])) ∧
        ∀ used, w.answer = .ok used → (∀ old, ¬ Holds now crypt used old) →
          ∃ fault, fault.isIntegrity = true ∧ call.1 = .error fault ∧ call.2.files = now := by
  intro first
  obtain ⟨held, chain⟩ := history.holds opens
  refine ⟨held, chain, ?_⟩
  rintro σ _ c plain w rfl call
  constructor
  · rcases history.updated c plain with failed | ⟨succeeded, used, contents, answered, read, more⟩
    · exact .inl failed
    · exact .inr ⟨succeeded, used, contents, answered, read, read.read, more⟩
  · intro used answered closed
    have failed := run_update_of_refused c plain (held.refused answered closed)
    exact ⟨fileRefusal, rfl, failed, update_failed (Prod.ext failed rfl)⟩

theorem spares_twoFiles (key : Key) (stored : Bytes) :
    Spares "old" ((twoFiles key stored).files.put ["new"] (.file 0o644 []))
      (twoFiles key stored).files := by
  have there : (twoFiles key stored).files.node? ["new"] = some (.file 0o644 [104, 105]) := rfl
  have same : ((twoFiles key stored).files.put ["new"] (.file 0o644 [])).SameDirectories
      (twoFiles key stored).files :=
    FileSystem.sameDirectories_put (by simp) (by simp [there]) _ _
  apply spares_of_sameDirectories same
  intro location leads
  have leads' := (FileSystem.find_eq_ok_iff.mp (find_twoFiles key stored)).1
  cases (same.leads leads).unique leads'
  rfl

theorem update_keyless [KeySource σ] {fault : Fault} (keyless : w.answer = .error fault)
    (c : Circumstances) (plain crypt : String) :
    ∃ failure, ((update c plain crypt).run w).1 = .error failure := by
  cases result : ((update c plain crypt).run w).1 with
  | error failure => exact ⟨failure, rfl⟩
  | ok _ =>
    obtain ⟨location, key, message, opens, -⟩ := update_ok_supplies (Prod.ext result rfl)
    cases keyless.symm.trans opens.answered

/-- The new contents come to lie beside the encrypted file, an update without a key fails, and one
with the key succeeds. -/
theorem key_survives_updates_twoFiles :
    let key : Key := ⟨Octets.replicate 32 0⟩
    let w := twoFiles key (key.sealed (Octets.replicate 16 0) []).toBytes
    let c : Circumstances := { iv := Octets.replicate 16 1, endings := ["aBcDeF"] }
    let start := w.files.put ["new"] (.file 0o644 [])
    let now := ((update c "new" "old").run w).2.files
    Holds start "old" key [] ∧ History "old" start now [⟨w.files, key, [104, 105]⟩] ∧
      Holds now "old" key [104, 105] := by
  intro key
  have accepted := key.decrypt_sealed (Octets.replicate 16 0) []
  -- The record is just bytes that the key opens, as in the case of a single update.
  generalize (key.sealed (Octets.replicate 16 0) []).toBytes = old at accepted ⊢
  generalize Octets.replicate 16 1 = iv
  generalize key = anyKey at accepted ⊢
  intro w c start now
  have updatable := updatable_twoFiles iv accepted
  have supplies : Supplies c "new" "old" w.files [104, 105] := by
    obtain ⟨temporary, place⟩ := updatable.temporary
    exact ⟨temporary, place, (read_started updatable.unclaimed place).mpr updatable.contents⟩
  have opens : Holds start "old" anyKey [] := ⟨old, rfl, accepted⟩
  let keyless : Workspace BasicSource := { w with source := .stream [] }
  have unanswered : keyless.answer = .error (Key.lengthFault 0) := rfl
  obtain ⟨fault, failed⟩ := update_keyless unanswered c "new" "old"
  have ready : History "old" start w.files [] := by
    have same := update_failed (Prod.ext failed rfl)
    rw [← same]
    exact .failed (.changed .start (spares_twoFiles anyKey old)) failed
  have history : History "old" start now [⟨w.files, anyKey, [104, 105]⟩] :=
    .renewed ready (update_of_updatable updatable) rfl supplies
  exact ⟨opens, history, (key_survives_updates opens history).1⟩

end FileSeal.Files
