import FileSeal.Proofs.KeyFile
import FileSeal.Proofs.Shape
import FileSeal.Proofs.Stages

namespace FileSeal

open FileSystem

theorem Record.failAlike_ofBytes {stored stored' : Bytes}
    (length : stored.length = stored'.length) : FailAlike (ofBytes stored) (ofBytes stored') := by
  by_cases short : stored.length < minimumLength
  · rw [ofBytes_of_short short, ofBytes_of_short (length ▸ short), length]
    exact .error _
  · have long : minimumLength ≤ stored.length := Nat.le_of_not_lt short
    by_cases aligned : (stored.length - overhead) % 16 = 0
    · obtain ⟨record, read⟩ := exists_ofBytes long aligned
      obtain ⟨record', read'⟩ := exists_ofBytes (length ▸ long) (length ▸ aligned)
      rw [read, read']
      exact .ok trivial
    · rw [ofBytes_of_misaligned long aligned,
        ofBytes_of_misaligned (length ▸ long) (length ▸ aligned), length]
      exact .error _

theorem Key.failAlike_ofBytes {bytes bytes' : Bytes} (length : bytes.length = bytes'.length) :
    FailAlike (ofBytes bytes) (ofBytes bytes') := by
  by_cases right : bytes.length = 32
  · have right' : bytes'.length = 32 := length ▸ right
    simp only [ofBytes, Octets.ofBytes?, dif_pos right, dif_pos right']
    exact .ok trivial
  · rw [ofBytes_of_length_ne right, ofBytes_of_length_ne (length ▸ right), length]
    exact .error _

namespace BasicSource

/-- Two sources between which only the bytes of the key differ. -/
inductive Same : BasicSource → BasicSource → Prop
  | constant (key key' : Key) : Same (.constant key) (.constant key')
  | file (path : String) : Same (.file path) (.file path)
  | stream {chunks chunks' : List Chunk}
      (length : SameLength (readToEnd chunks).1 (readToEnd chunks').1) :
      Same (.stream chunks) (.stream chunks')

variable {fs fs' : FileSystem} {source source' : BasicSource}

theorem Same.failAlike (same : Same source source') (shape : SameShape fs fs') :
    FailAlike (KeySource.read fs source).result (KeySource.read fs' source').result := by
  cases same with
  | constant key key' => exact .ok trivial
  | file path =>
    have read := shape.read path
    simp only [KeySource.read, BasicSource.read, readFile]
    generalize fs.read path = x, fs'.read path = y at read
    cases read with
    | error failure => exact .error _
    | ok length => exact (Key.failAlike_ofBytes length).mapError _
  | stream length =>
    simp only [KeySource.read, BasicSource.read, readStream]
    rename_i chunks chunks'
    generalize readToEnd chunks = read, readToEnd chunks' = read' at length
    obtain ⟨x, rest⟩ := read
    obtain ⟨y, rest'⟩ := read'
    cases length with
    | error failure => exact .error _
    | ok length => exact Key.failAlike_ofBytes length

theorem Same.events (same : Same source source') (shape : SameShape fs fs') :
    (KeySource.read fs source).events = (KeySource.read fs' source').events := by
  cases same with
  | constant key key' => rfl
  | file path =>
    have read := shape.read path
    simp only [KeySource.read, BasicSource.read, readFile]
    generalize fs.read path = x, fs'.read path = y at read
    cases read <;> rfl
  | stream length => rfl

end BasicSource

namespace Stage

variable {ε α β : Type} {related : α → β → Prop}

theorem of_congr {x : Except Fault α} {y : Except Fault β} (h : Agree related x y)
    (events : List Event) : of x events = of y events := by
  cases h <;> rfl

theorem given_congr {x : Except ε α} {y : Except ε β} (h : Agree related x y)
    {stages : α → List Stage} {stages' : β → List Stage}
    (next : ∀ a b, related a b → stages a = stages' b) : given x stages = given y stages' := by
  cases h with
  | error e => rfl
  | ok h => exact next _ _ h

end Stage

theorem length_kept (limit : Option Nat) {bytes bytes' : Bytes}
    (length : bytes.length = bytes'.length) :
    (kept limit bytes).length = (kept limit bytes').length := by
  cases limit with
  | none => exact length
  | some most => simp only [kept, List.length_take, length]

/-- Two starting points that differ in the bytes of keys and of files at most. -/
structure Workspace.Alike {σ : Type} [KeySource σ] (w w' : Workspace σ) : Prop where
  files : SameShape w.files w'.files
  answer : FailAlike w.answer w'.answer
  asking : (KeySource.read w.files w.source).events = (KeySource.read w'.files w'.source).events
  events : w.events = w'.events

namespace Files

open Job

variable {σ : Type} {w w' : Workspace σ} {fs fs' : FileSystem} {c c' : Circumstances}

/-- Two ends of a run that differ in the bytes of files at most. -/
structure EndAlike (ran ran' : Except Fault Unit × Workspace σ) : Prop where
  result : ran.1 = ran'.1
  events : ran.2.events = ran'.2.events
  files : SameShape ran.2.files ran'.2.files

theorem endAlike_of_takes {job job' : Job σ Unit} {stages stages' : List Stage}
    (events : w.events = w'.events) (first : Takes job w stages)
    (second : Takes job' w' stages') (same : stages = stages')
    (files : SameShape (job.run w).2.files (job'.run w').2.files) :
    EndAlike (job.run w) (job'.run w') where
  result := by rw [first.ends, second.ends, same]
  events := by rw [first.events, second.events, events, same]
  files := files

theorem reading_eq (shape : SameShape fs fs') (path : String) :
    reading fs path = reading fs' path :=
  Stage.of_congr ((shape.read path).mapError _) _

theorem seeking_eq (shape : SameShape fs fs') (path : String) :
    seeking fs path = seeking fs' path := by
  unfold seeking
  rw [reading_eq shape]
  congr 1
  refine Stage.given_congr (shape.read path) fun stored stored' length => ?_
  unfold parsing
  rw [length, Stage.of_congr ((Record.failAlike_ofBytes length).mapError _)]

theorem keying_eq [KeySource σ] (alike : w.Alike w') :
    keying w.files w.source = keying w'.files w'.source := by
  unfold keying
  rw [alike.asking]
  exact Stage.of_congr alike.answer _

theorem writing_eq (shape : SameShape fs fs') (limit : Option Nat) (output : String)
    (length : Nat) : writing limit output fs length = writing limit output fs' length := by
  unfold writing deliveryResult
  rw [shape.findWritable]

/-- What is prepared for an output may differ in its bytes. -/
def SameSize (contents contents' : Bytes × Event) : Prop :=
  contents.1.length = contents'.1.length

theorem sameShape_deliver (shape : SameShape w.files w'.files) (limit : Option Nat)
    (output : String) {contents contents' : Bytes × Event} (size : SameSize contents contents') :
    SameShape ((deliver limit output contents).run w).2.files
      ((deliver limit output contents').run w').2.files := by
  have same := shape.findWritable output
  cases opened : w.files.findWritable output with
  | error failure =>
    rw [opened] at same
    rw [run_deliver_of_error opened, run_deliver_of_error same.symm]
    exact shape
  | ok place =>
    obtain ⟨location, present⟩ := place
    rw [opened] at same
    rw [files_deliver_of_ok opened, files_deliver_of_ok same.symm]
    exact shape.put (FileSystem.findWritable_leads opened).1.below _ (length_kept limit size)

theorem sameShape_prepared {prepare prepare' : Job σ (Bytes × Event)} (quiet : Quiet prepare)
    (quiet' : Quiet prepare') (shape : SameShape w.files w'.files) (limit : Option Nat)
    (output : String) (agree : Agree SameSize (prepare.run w).1 (prepare'.run w').1) :
    SameShape ((prepare >>= deliver limit output).run w).2.files
      ((prepare' >>= deliver limit output).run w').2.files := by
  rcases ran : prepare.run w with ⟨x, w₁⟩
  rcases ran' : prepare'.run w' with ⟨y, w₁'⟩
  have files := quiet.files_eq ran
  have files' := quiet'.files_eq ran'
  rw [ran, ran'] at agree
  rw [← files, ← files'] at shape
  cases agree with
  | error fault =>
    rw [run_bind_of_error ran, run_bind_of_error ran']
    exact shape
  | ok size =>
    rw [run_bind_of_ok ran, run_bind_of_ok ran']
    exact sameShape_deliver shape limit output size

theorem encryptStages_eq (shape : SameShape fs fs') (limit : c.limit = c'.limit)
    (input output : String) :
    encryptStages c input output fs = encryptStages c' input output fs' := by
  refine Stage.given_congr (shape.read input) fun message message' length => ?_
  rw [length, limit, writing_eq shape]

theorem result_sealContents [KeySource σ] (c : Circumstances) (input output : String) :
    ((sealContents c input output).run w).1 =
      (w.files.read input).mapError (readFault input) >>= fun message =>
        w.answer >>= fun key =>
          .ok ((key.sealed c.iv message).toBytes, .fileEncrypted input output message.length) := by
  rw [run_sealContents]
  cases w.files.read input with
  | error failure => rfl
  | ok message => cases w.answer <;> rfl

theorem encrypt_alike [KeySource σ] (alike : w.Alike w') (limit : c.limit = c'.limit)
    (input output : String) :
    EndAlike ((encrypt c input output).run w) ((encrypt c' input output).run w') := by
  refine endAlike_of_takes alike.events (takes_encrypt c input output)
    (takes_encrypt c' input output) ?_ ?_
  · rw [reading_eq alike.files, keying_eq alike, encryptStages_eq alike.files limit]
  · rw [encrypt_eq, encrypt_eq, limit]
    refine sameShape_prepared (quiet_sealContents c input output)
      (quiet_sealContents c' input output) alike.files c'.limit output ?_
    rw [result_sealContents, result_sealContents]
    refine ((alike.files.read input).mapError _).bind fun message message' length => ?_
    refine alike.answer.bind fun key key' _ => .ok ?_
    show List.length _ = List.length _
    rw [key.length_sealed, key'.length_sealed, length]

/-- Two records with keys that open them, to messages of one length. -/
def OpenAlike (first second : Record × Key) : Prop :=
  ∃ message message', first.2.tryDecrypt first.1 = .ok message ∧
    second.2.tryDecrypt second.1 = .ok message' ∧ message.length = message'.length

theorem failAlike_recordAndKey [KeySource σ] (alike : w.Alike w') (path : String) :
    FailAlike (recordAndKey path w) (recordAndKey path w') := by
  unfold recordAndKey
  refine ((alike.files.read path).mapError _).bind fun stored stored' length => ?_
  refine ((Record.failAlike_ofBytes length).mapError _).bind fun record record' _ => ?_
  exact alike.answer.bind fun key key' _ => .ok trivial

/-- If two runs both come to a record and a key, the keys open the records, to messages of one
length. -/
def OpensAlike [KeySource σ] (path : String) (w w' : Workspace σ) : Prop :=
  ∀ found found', recordAndKey path w = .ok found → recordAndKey path w' = .ok found' →
    OpenAlike found found'

theorem agree_recordAndKey [KeySource σ] (alike : w.Alike w') {path : String}
    (opens : OpensAlike path w w') :
    Agree OpenAlike (recordAndKey path w) (recordAndKey path w') := by
  have agree := failAlike_recordAndKey alike path
  unfold OpensAlike at opens
  generalize recordAndKey path w = x, recordAndKey path w' = y at agree opens
  cases agree with
  | error fault => exact .error fault
  | ok => exact .ok (opens _ _ rfl rfl)

theorem checking_eq {found found' : Record × Key} (opens : OpenAlike found found') :
    checking found.2 found.1 = checking found'.2 found'.1 := by
  obtain ⟨message, message', opened, opened', length⟩ := opens
  simp only [checking, decryptEvent, opened, opened', length]
  rfl

theorem decryptStages_eq [KeySource σ] (alike : w.Alike w') (limit : c.limit = c'.limit)
    {input : String} (opens : OpensAlike input w w') (output : String) :
    decryptStages c input output w = decryptStages c' input output w' := by
  refine Stage.given_congr (agree_recordAndKey alike opens) fun found found' opens => ?_
  obtain ⟨message, message', opened, opened', length⟩ := id opens
  dsimp only
  rw [checking_eq opens, opened, opened', limit]
  dsimp only [Stage.given]
  rw [length, writing_eq alike.files]

theorem result_openContents [KeySource σ] (input output : String) :
    ((openContents input output).run w).1 =
      recordAndKey input w >>= fun found =>
        (found.2.tryDecrypt found.1).mapError decryptFault >>= fun message =>
          .ok (message, .fileDecrypted input output message.length) := by
  rw [run_openContents, run_openRecord]
  unfold recordAndKey
  generalize w.files.read input = read
  cases read with
  | error failure => rfl
  | ok stored =>
    dsimp only [mapError_ok, bind, Except.bind]
    cases Record.ofBytes stored with
    | error fault => rfl
    | ok record =>
      dsimp only [mapError_ok]
      cases w.answer with
      | error fault => rfl
      | ok key =>
        dsimp only [pure, Except.pure]
        cases key.tryDecrypt record <;> rfl

theorem decrypt_alike [KeySource σ] (alike : w.Alike w') (limit : c.limit = c'.limit)
    {input : String} (opens : OpensAlike input w w') (output : String) :
    EndAlike ((decrypt c input output).run w) ((decrypt c' input output).run w') := by
  refine endAlike_of_takes alike.events (takes_decrypt c input output)
    (takes_decrypt c' input output) ?_ ?_
  · rw [seeking_eq alike.files, keying_eq alike, decryptStages_eq alike limit opens]
  · rw [decrypt_eq, decrypt_eq, limit]
    refine sameShape_prepared (quiet_openContents input output)
      (quiet_openContents input output) alike.files c'.limit output ?_
    rw [result_openContents, result_openContents]
    refine (agree_recordAndKey alike opens).bind fun found found' opens => ?_
    obtain ⟨message, message', opened, opened', length⟩ := opens
    rw [opened, opened']
    exact .ok length

/-- The random names of an update are of use: one of them is left for its temporary file, and none
is among the components of the path to the new contents. -/
structure Unguessed (c : Circumstances) (plain crypt : String) (fs : FileSystem) : Prop where
  left : temporaryPlace c crypt fs ≠ .error (createTemporaryFault .namesExhausted)
  unnamed : ∀ ending ∈ c.endings, Avoids plain (FileSystem.temporaryStem ++ ending)

/-- Two updates with the same random names, or with names that are of use to both. -/
def NamesAlike (c c' : Circumstances) (plain crypt : String) (fs fs' : FileSystem) : Prop :=
  c.endings = c'.endings ∨ Unguessed c plain crypt fs ∧ Unguessed c' plain crypt fs'

/-- Two places for a temporary file, with which the new contents can be read alike. -/
def StartAlike (plain : String) (fs fs' : FileSystem) (temporary temporary' : Location) : Prop :=
  SameLength ((fs.put temporary (.file ownerOnly [])).read plain)
    ((fs'.put temporary' (.file ownerOnly [])).read plain)

theorem Unguessed.read {plain crypt : String} (unguessed : Unguessed c plain crypt fs)
    {temporary : Location} (place : temporaryPlace c crypt fs = .ok temporary) :
    (fs.put temporary (.file ownerOnly [])).read plain = fs.read plain := by
  obtain ⟨parent, -, found⟩ := temporaryPlace_eq_ok_iff.mp place
  obtain ⟨directory, ending, mem, -, rfl, -⟩ := FileSystem.findTemporary_eq_ok found
  exact FileSystem.read_put_unnamed (unguessed.unnamed ending mem)

theorem agree_temporaryPlace (shape : SameShape fs fs') {plain crypt : String}
    (names : NamesAlike c c' plain crypt fs fs') :
    Agree (StartAlike plain fs fs') (temporaryPlace c crypt fs) (temporaryPlace c' crypt fs') := by
  rcases names with same | ⟨unguessed, unguessed'⟩
  · have places : temporaryPlace c crypt fs = temporaryPlace c' crypt fs' := by
      unfold temporaryPlace
      simp only [same, shape.findTemporary]
    refine (Agree.of_eq places).imp fun temporary _ place _ (.refl _) => ?_
    obtain ⟨below, -⟩ := (temporaryPlace_eq_ok_iff.mp place).vacant
    exact (shape.put below ownerOnly rfl).read plain
  · have places : FailAlike (temporaryPlace c crypt fs) (temporaryPlace c' crypt fs') := by
      have left := unguessed.left
      have left' := unguessed'.left
      unfold temporaryPlace at left left' ⊢
      generalize Path.parentText? crypt = text at left left' ⊢
      cases text with
      | none => exact .error _
      | some parent =>
        dsimp only at left left' ⊢
        refine (shape.failAlike_findTemporary ?_ ?_).mapError _
        · intro taken
          exact left (by rw [taken, mapError_error])
        · intro taken
          exact left' (by rw [taken, mapError_error])
    refine places.imp fun temporary temporary' place place' _ => ?_
    unfold StartAlike
    rw [unguessed.read place, unguessed'.read place']
    exact shape.read plain

theorem Supplies.length_eq (shape : SameShape fs fs') {plain crypt : String}
    (names : NamesAlike c c' plain crypt fs fs') {message message' : Bytes}
    (supplies : Supplies c plain crypt fs message)
    (supplies' : Supplies c' plain crypt fs' message') : message.length = message'.length := by
  obtain ⟨temporary, place, read⟩ := supplies
  obtain ⟨temporary', place', read'⟩ := supplies'
  have places := agree_temporaryPlace shape names
  rw [temporaryPlace_eq_ok_iff.mpr place, temporaryPlace_eq_ok_iff.mpr place'] at places
  have started : StartAlike plain fs fs' temporary temporary' := places.of_ok
  rw [StartAlike, read, read'] at started
  exact started.of_ok

theorem fillStages_eq {limit : Option Nat} {plain : String}
    (read : SameLength (fs.read plain) (fs'.read plain)) :
    fillStages limit plain fs = fillStages limit plain fs' := by
  unfold fillStages reading
  rw [Stage.of_congr (read.mapError (readFault plain)) []]
  congr 1
  refine Stage.given_congr read fun message message' length => ?_
  rw [length]

theorem replaceStages_eq (shape : SameShape fs fs') (limit : c.limit = c'.limit)
    {plain crypt : String} (names : NamesAlike c c' plain crypt fs fs') :
    replaceStages c plain crypt fs = replaceStages c' plain crypt fs' := by
  have places := agree_temporaryPlace shape names
  unfold replaceStages
  rw [Stage.of_congr places []]
  refine congrArg (_ :: ·) ?_
  refine Stage.given_congr places fun temporary temporary' started => ?_
  dsimp only
  rw [limit, fillStages_eq started]
  refine congrArg (List.append _) ?_
  exact Stage.given_congr started fun message message' length => by rw [length]

theorem updateStages_eq [KeySource σ] (alike : w.Alike w') (limit : c.limit = c'.limit)
    {plain crypt : String} (opens : OpensAlike crypt w w')
    (names : NamesAlike c c' plain crypt w.files w'.files) :
    updateStages c plain crypt w = updateStages c' plain crypt w' := by
  unfold updateStages
  rw [replaceStages_eq alike.files limit names]
  congr 1
  refine Stage.given_congr (agree_recordAndKey alike opens) fun found found' opens => ?_
  dsimp only
  rw [checking_eq opens]

theorem update_alike [KeySource σ] (alike : w.Alike w') (limit : c.limit = c'.limit)
    {plain crypt : String} (opens : OpensAlike crypt w w')
    (names : NamesAlike c c' plain crypt w.files w'.files) :
    EndAlike ((update c plain crypt).run w) ((update c' plain crypt).run w') := by
  have takes := takes_update (w := w) c plain crypt
  have takes' := takes_update (w := w') c' plain crypt
  have stages : seeking w.files crypt ++ keying w.files w.source :: updateStages c plain crypt w =
      seeking w'.files crypt ++ keying w'.files w'.source ::
        updateStages c' plain crypt w' := by
    rw [seeking_eq alike.files, keying_eq alike, updateStages_eq alike limit opens names]
  refine endAlike_of_takes alike.events takes takes' stages ?_
  have result : ((update c plain crypt).run w).1 = ((update c' plain crypt).run w').1 := by
    rw [takes.ends, takes'.ends, stages]
  cases ended : ((update c plain crypt).run w).1 with
  | error fault =>
    rw [ended] at result
    rw [update_failed (Prod.ext ended rfl), update_failed (Prod.ext result.symm rfl)]
    exact alike.files
  | ok done =>
    rw [ended] at result
    obtain ⟨location, key, message, opened, supplies, -, files⟩ :=
      update_ok_supplies (Prod.ext ended rfl)
    obtain ⟨location', key', message', opened', supplies', -, files'⟩ :=
      update_ok_supplies (Prod.ext result.symm rfl)
    cases (alike.files.sameDirectories.leads opened.leads).unique opened'.leads
    rw [files, files']
    apply alike.files.put opened.leads.below
    have length := Supplies.length_eq alike.files names supplies supplies'
    rw [key.length_sealed, key'.length_sealed, length]

end Files

end FileSeal
