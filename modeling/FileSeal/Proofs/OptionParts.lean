import FileSeal.Proofs.OptionSpelling

namespace FileSeal

namespace Progress

variable {p q : Progress} {verb : Option Verb} {switch : Switch} {value word : String}

/-- Reads words that are not the name of a command. -/
def takeAll (p : Progress) (verb : Option Verb) (words : List String) : Except Halt Progress :=
  words.foldlM (fun p word => p.take verb word) p

theorem takeAll_cons_eq_ok_iff {words : List String} :
    p.takeAll verb (word :: words) = .ok q ↔
      ∃ r, p.take verb word = .ok r ∧ r.takeAll verb words = .ok q := by
  rw [takeAll, List.foldlM_cons, bind_eq_ok_iff]
  rfl

theorem takeAll_cons_of_ok {words : List String} (taken : p.take verb word = .ok q) :
    p.takeAll verb (word :: words) = q.takeAll verb words := by
  rw [takeAll, List.foldlM_cons, taken]
  rfl

theorem takeAll_append_of_ok {words : List String} (taken : p.takeAll verb words = .ok q)
    (more : List String) : p.takeAll verb (words ++ more) = q.takeAll verb more := by
  rw [takeAll] at taken
  rw [takeAll, List.foldlM_append, taken]
  rfl

/-- The reading of a part is between two options. -/
structure Idle (p : Progress) : Prop where
  going : p.ended = false
  awaited : p.awaited = none

/-- One option of a compatible list is taken, and the rest of the list is left. -/
theorem takeWhole_of_idle (idle : p.Idle) {given : List (Switch × String)}
    (compatible : Compatible (p.items ++ (switch, value) :: given)) (verb : Option Verb)
    (noHelp : switch ≠ .help) (noVersion : switch ≠ .version) :
    ∃ q, p.takeWhole verb switch value = .ok q ∧ q.Idle ∧
      p.items ++ (switch, value) :: given = q.items ++ given := by
  rw [List.append_cons] at compatible ⊢
  exact ⟨_, (takeWhole_eq_ok_iff (compatible_given compatible.left.left)).mpr
    ⟨noHelp, noVersion, idle.awaited, compatible.left, rfl⟩, ⟨idle.going, rfl⟩, rfl⟩

/-- Words that spell compatible options are read as these. -/
theorem takeAll_of_spells {words : List String} {given : List (Switch × String)}
    (spells : Spells verb words given) :
    ∀ p : Progress, p.Idle → Compatible (p.items ++ given) →
      ∃ q, p.takeAll verb words = .ok q ∧ q.Idle ∧ q.items = p.items ++ given := by
  induction spells with
  | nil =>
    intro p idle _
    exact ⟨p, rfl, idle, (List.append_nil _).symm⟩
  | flag mem flag named _ ih =>
    intro p idle compatible
    obtain ⟨-, noHelp, noVersion⟩ := Switch.isFlag_iff.mp flag
    obtain ⟨q, whole, idle', items⟩ := takeWhole_of_idle idle compatible verb noHelp noVersion
    rw [items] at compatible ⊢
    rw [takeAll_cons_of_ok ((take_flag idle.going mem flag named).trans whole)]
    exact ih q idle' compatible
  | cluster mem flag letter noDash _ ih =>
    intro p idle compatible
    obtain ⟨takes, noHelp, noVersion⟩ := Switch.isFlag_iff.mp flag
    obtain ⟨q, whole, idle', items⟩ := takeWhole_of_idle idle compatible verb noHelp noVersion
    rw [items] at compatible ⊢
    obtain ⟨r, taken, rest⟩ := ih q idle' compatible
    -- The rest of the word is read as if it had a dash of its own.
    have found := Switch.ofShort?_eq_some_iff.mpr ⟨mem, letter⟩
    refine ⟨r, ?_, rest⟩
    rw [← taken, takeAll, takeAll, List.foldlM_cons, List.foldlM_cons,
      take_short idle.going (Switch.ne_dash_of_short? letter), take_short idle'.going noDash,
      takeShort, found]
    simp only [takes, Bool.false_eq_true, if_false, whole]
    rfl
  | @apart switch word value words given mem takes name free _ ih =>
    intro p idle compatible
    rw [List.append_cons] at compatible ⊢
    let opened : Progress := { p.settled with pending := some (switch, none) }
    have named : p.takeOpen switch = .ok opened :=
      (takeOpen_eq_ok_iff (compatible_given compatible.left.left)).mpr
        ⟨idle.awaited, compatible.left.left, rfl⟩
    have filled : opened.take verb value =
        .ok { opened with pending := some (switch, some value) } :=
      take_free idle.going free
    rw [takeAll_cons_of_ok ((take_apart idle.going mem takes name).trans named),
      takeAll_cons_of_ok filled]
    exact ih _ ⟨idle.going, rfl⟩ compatible
  | @attached switch word value words given mem takes attached _ ih =>
    intro p idle compatible
    obtain ⟨noHelp, noVersion⟩ := Switch.ne_of_takesValue takes
    obtain ⟨q, whole, idle', items⟩ := takeWhole_of_idle idle compatible verb noHelp noVersion
    rw [items] at compatible ⊢
    rw [takeAll_cons_of_ok ((take_attached idle.going mem takes attached).trans whole)]
    exact ih q idle' compatible

/-- What completes a part of a command line. The value of an option may be due first. -/
inductive Completes (verb : Option Verb) :
    Option Switch → List String → List (Switch × String) → Prop
  | idle {words : List String} {given : List (Switch × String)} :
      Spells verb words given → Completes verb none words given
  | due {switch : Switch} {value : String} {words : List String}
      {given : List (Switch × String)} :
      IsFree value → Spells verb words given →
      Completes verb (some switch) (value :: words) ((switch, value) :: given)

/-- A word adds options to a part. Together with all that completes the part after it, it completes
the part before it. -/
structure Extends (verb : Option Verb) (p : Progress) (word : String)
    (more : List (Switch × String)) (q : Progress) : Prop where
  going : q.ended = false
  compatible : Compatible q.given
  items : q.items = p.items ++ more
  completes : ∀ {words given}, Completes verb q.awaited words given →
    Completes verb p.awaited (word :: words) (more ++ given)

theorem extends_of_takeWhole (going : p.ended = false) (h : Compatible p.given)
    (taken : p.takeWhole verb switch value = .ok q)
    (spells : ∀ {words given}, Spells verb words given →
      Spells verb (word :: words) ((switch, value) :: given)) :
    Extends verb p word [(switch, value)] q := by
  obtain ⟨-, -, idle, compatible, rfl⟩ := (takeWhole_eq_ok_iff h).mp taken
  refine ⟨going, compatible, rfl, fun rest => ?_⟩
  cases rest with
  | idle rest =>
    rw [idle]
    exact .idle (spells rest)

theorem extends_of_takeOpen (going : p.ended = false) (h : Compatible p.given)
    (taken : p.takeOpen switch = .ok q) (mem : switch ∈ Switch.inForce verb)
    (takes : switch.takesValue) (named : switch.Names word) : Extends verb p word [] q := by
  obtain ⟨idle, compatible, rfl⟩ := (takeOpen_eq_ok_iff h).mp taken
  refine ⟨going, compatible, (List.append_nil _).symm, fun rest => ?_⟩
  cases rest with
  | due free rest =>
    rw [idle]
    exact .idle (.apart mem takes named free rest)

theorem isFlag_of_takeWhole (h : Compatible p.given) (takes : switch.takesValue = false)
    (taken : p.takeWhole verb switch value = .ok q) : switch.IsFlag := by
  obtain ⟨noHelp, noVersion, -⟩ := (takeWhole_eq_ok_iff h).mp taken
  exact Switch.isFlag_iff.mpr ⟨takes, noHelp, noVersion⟩

theorem extends_of_takeLong {body : List Char} (going : p.ended = false) (h : Compatible p.given)
    (taken : p.takeLong verb body = .ok q) :
    ∃ more, Extends verb p (.ofList ('-' :: '-' :: body)) more q := by
  by_cases equals : '=' ∈ body
  · obtain ⟨name, rest, rfl, plain⟩ := List.eq_append_cons_of_mem equals
    rw [takeLong_equals plain] at taken
    cases found : Switch.ofLong? verb (.ofList name) with
    | none => simp [found] at taken
    | some switch =>
      obtain ⟨mem, long⟩ := Switch.ofLong?_eq_some_iff.mp found
      cases takes : switch.takesValue with
      | false => simp [found, takes] at taken
      | true =>
        simp only [found, takes, if_true] at taken
        have word : String.ofList ('-' :: '-' :: (name ++ '=' :: rest)) =
            "--" ++ switch.long ++ "=" ++ .ofList rest := by
          rw [long]
          exact String.toList_inj.mp (by simp)
        rw [word]
        exact ⟨_, extends_of_takeWhole going h taken (.attached mem takes .long)⟩
  · rw [takeLong_plain equals] at taken
    cases found : Switch.ofLong? verb (.ofList body) with
    | none => simp [found] at taken
    | some switch =>
      obtain ⟨mem, long⟩ := Switch.ofLong?_eq_some_iff.mp found
      have word : String.ofList ('-' :: '-' :: body) = "--" ++ switch.long := by
        rw [long]
        exact String.toList_inj.mp (by simp)
      rw [word]
      cases takes : switch.takesValue with
      | true =>
        simp only [found, takes, if_true] at taken
        exact ⟨_, extends_of_takeOpen going h taken mem takes .long⟩
      | false =>
        simp only [found, takes, Bool.false_eq_true, if_false] at taken
        have flag := isFlag_of_takeWhole h takes taken
        exact ⟨_, extends_of_takeWhole going h taken (.flag mem flag .long)⟩

/-- A letter of an option with a value is followed by nothing or by the value. -/
theorem extends_of_takeShort_value {letter : Char} {rest : List Char} (going : p.ended = false)
    (h : Compatible p.given) (mem : switch ∈ Switch.inForce verb) (takes : switch.takesValue)
    (short : switch.short? = some letter) (taken : p.takeShort verb (letter :: rest) = .ok q) :
    ∃ more, Extends verb p (.ofList ('-' :: letter :: rest)) more q := by
  rw [takeShort, Switch.ofShort?_eq_some_iff.mpr ⟨mem, short⟩] at taken
  simp only [takes, if_true] at taken
  split at taken
  next => exact ⟨_, extends_of_takeOpen going h taken mem takes (.short short)⟩
  next value =>
    have attached : switch.Attaches (.ofList value)
        (.ofList ('-' :: letter :: '=' :: (String.ofList value).toList)) := .shortEquals short
    rw [String.toList_ofList] at attached
    exact ⟨_, extends_of_takeWhole going h taken (.attached mem takes attached)⟩
  next filled noEquals =>
    have attached : switch.Attaches (.ofList rest)
        (.ofList ('-' :: letter :: (String.ofList rest).toList)) := by
      refine .short short ?_ ?_
      · intro empty
        exact filled (by simpa using congrArg String.toList empty)
      · rw [String.toList_ofList]
        intro equals
        obtain ⟨value, rfl⟩ := List.head?_eq_some_iff.mp equals
        exact noEquals value rfl
    rw [String.toList_ofList] at attached
    exact ⟨_, extends_of_takeWhole going h taken (.attached mem takes attached)⟩

theorem extends_of_takeShort {letters : List Char} (given : letters ≠ []) :
    ∀ {p : Progress}, p.ended = false → Compatible p.given →
      p.takeShort verb letters = .ok q →
      letters.head? ≠ some '-' ∧ ∃ more, Extends verb p (.ofList ('-' :: letters)) more q := by
  induction letters with
  | nil => exact absurd rfl given
  | cons letter rest ih =>
    intro p going h taken
    cases found : Switch.ofShort? verb letter with
    | none => simp [takeShort, found] at taken
    | some switch =>
      obtain ⟨mem, short⟩ := Switch.ofShort?_eq_some_iff.mp found
      refine ⟨by simpa using Switch.ne_dash_of_short? short, ?_⟩
      cases takes : switch.takesValue with
      | true => exact extends_of_takeShort_value going h mem takes short taken
      | false =>
        simp only [takeShort, found, takes, Bool.false_eq_true, if_false, bind_eq_ok_iff] at taken
        obtain ⟨p', whole, taken⟩ := taken
        have flag := isFlag_of_takeWhole h takes whole
        have first : Extends verb p _ [(switch, "")] p' :=
          extends_of_takeWhole going h whole (.flag mem flag (.short short))
        cases rest with
        | nil =>
          cases taken
          exact ⟨_, first⟩
        | cons next rest =>
          obtain ⟨-, -, idle, -, same⟩ := (takeWhole_eq_ok_iff h).mp whole
          obtain ⟨noDash, more, later⟩ :=
            ih (List.cons_ne_nil next rest) first.going first.compatible taken
          have noDash : next ≠ '-' := by simpa using noDash
          have idle' : p'.awaited = none := same ▸ rfl
          refine ⟨(switch, "") :: more, later.going, later.compatible, ?_, fun rest => ?_⟩
          · rw [later.items, first.items, List.append_assoc]
            rfl
          · have rest := later.completes rest
            rw [idle'] at rest
            rw [idle]
            cases rest with
            | idle rest => exact .idle (.cluster mem flag short noDash rest)

/-- A word that is taken ends the options, or adds some to the part. -/
theorem extends_of_take (going : p.ended = false) (h : Compatible p.given)
    (taken : p.take verb word = .ok q) :
    word = "--" ∧ q = { p with ended := true } ∨ ∃ more, Extends verb p word more q := by
  have same : word = .ofList word.toList := String.ofList_toList.symm
  rw [take, going] at taken
  simp only [Bool.false_eq_true, if_false] at taken
  split at taken
  next dashes =>
    cases taken
    exact .inl ⟨String.toList_inj.mp dashes, rfl⟩
  next body _ long =>
    rw [same, long]
    exact .inr (extends_of_takeLong going h taken)
  next letter rest _ _ short =>
    rw [same, short]
    exact .inr (extends_of_takeShort (List.cons_ne_nil letter rest) going h taken).2
  next noDashes noLong noShort =>
    have free : IsFree word := noShort
    split at taken
    next switch pending =>
      cases taken
      have awaited : p.awaited = some switch := by rw [Progress.awaited, pending]
      have items : p.items = p.given := by rw [Progress.items, pending]
      refine .inr ⟨[(switch, word)], rfl, h, ?_, fun later => ?_⟩
      · rw [items]
        rfl
      · rw [awaited]
        cases later with
        | idle later => exact .due free later
    next => cases taken

/-- Words that are read spell the options that they are read as. -/
theorem completes_of_takeAll {words : List String} (done : q.awaited = none) :
    ∀ {p : Progress}, p.ended = false → Compatible p.given → p.takeAll verb words = .ok q →
      Compatible q.given ∧ ∃ front given, Completes verb p.awaited front given ∧
        q.items = p.items ++ given ∧
        (words = front ∧ q.ended = false ∨ words = front ++ ["--"] ∧ q.ended = true) := by
  -- On the words: each of them goes in front of what the words after it have been shown to spell.
  induction words with
  | nil =>
    intro p going h taken
    cases taken
    refine ⟨h, [], [], ?_, (List.append_nil _).symm, .inl ⟨rfl, going⟩⟩
    rw [done]
    exact .idle .nil
  | cons word words ih =>
    intro p going h taken
    obtain ⟨r, first, rest⟩ := takeAll_cons_eq_ok_iff.mp taken
    rcases extends_of_take going h first with ⟨rfl, rfl⟩ | ⟨more, extended⟩
    · cases words with
      | nil =>
        cases rest
        refine ⟨h, [], [], ?_, (List.append_nil _).symm, .inr ⟨rfl, rfl⟩⟩
        rw [show p.awaited = none from done]
        exact .idle .nil
      | cons word words =>
        -- Once the options are ended, a part takes no more words.
        obtain ⟨_, stray, -⟩ := takeAll_cons_eq_ok_iff.mp rest
        cases stray
    · obtain ⟨h', front, given, completes, items, ending⟩ :=
        ih extended.going extended.compatible rest
      refine ⟨h', word :: front, more ++ given, extended.completes completes, ?_, ?_⟩
      · rw [items, extended.items, List.append_assoc]
      · simpa using ending

/-- A part that is read from its start has been spelt. -/
theorem spells_of_takeAll {words : List String} (done : q.awaited = none)
    (taken : ({} : Progress).takeAll verb words = .ok q) :
    Compatible q.given ∧ ∃ front, Spells verb front q.items ∧
      (words = front ∧ q.ended = false ∨ words = front ++ ["--"] ∧ q.ended = true) := by
  obtain ⟨h, front, given, completes, items, ending⟩ :=
    completes_of_takeAll done rfl .nil taken
  have items : q.items = given := items
  subst items
  cases completes with
  | idle spells => exact ⟨h, front, spells, ending⟩

end Progress

/-- A reading ends because a command line names two sources for the key. -/
def Conflicts {α : Type} (x : Except Halt α) : Prop :=
  x = .error (.usage .conflictingKeys)

theorem not_conflicts_bind {α β : Type} {x : Except Halt α} {f : α → Except Halt β}
    (first : ¬ Conflicts x) (later : ∀ a, ¬ Conflicts (f a)) : ¬ Conflicts (x >>= f) := by
  cases x with
  | error halt => exact fun same => first (congrArg Except.error (Except.error.inj same))
  | ok a => exact later a

/-- A reading that succeeds, or finds two sources for the key. -/
def Accepts {α : Type} (x : Except Halt α) : Prop :=
  (∃ a, x = .ok a) ∨ Conflicts x

theorem accepts_bind {α β : Type} {x : Except Halt α} {f : α → Except Halt β}
    (first : ¬ Conflicts x) (h : Accepts (x >>= f)) : ∃ a, x = .ok a ∧ Accepts (f a) := by
  cases x with
  | ok a => exact ⟨a, rfl, h⟩
  | error halt =>
    rcases h with ⟨b, none⟩ | conflict
    · cases none
    · exact absurd (congrArg Except.error (Except.error.inj conflict)) first

namespace Progress

variable {verb : Option Verb}

theorem not_conflicts_accept (p : Progress) (switch : Switch) (value : String) :
    ¬ Conflicts (p.accept switch value) := by
  unfold accept Conflicts
  split
  next => simp
  next => split <;> simp

theorem not_conflicts_settle (p : Progress) : ¬ Conflicts p.settle := by
  unfold settle
  split
  next => simp [Conflicts]
  next => simp [Conflicts]
  next => exact not_conflicts_accept _ _ _

theorem not_conflicts_takeWhole (p : Progress) (switch : Switch) (value : String) :
    ¬ Conflicts (p.takeWhole verb switch value) := by
  refine not_conflicts_bind p.not_conflicts_settle fun q => ?_
  split
  next => simp [Conflicts, throw, throwThe, MonadExceptOf.throw]
  next => simp [Conflicts, throw, throwThe, MonadExceptOf.throw]
  next => exact not_conflicts_accept _ _ _

theorem not_conflicts_takeOpen (p : Progress) (switch : Switch) :
    ¬ Conflicts (p.takeOpen switch) :=
  not_conflicts_bind p.not_conflicts_settle fun _ => nofun

theorem not_conflicts_takeLong (p : Progress) (body : List Char) :
    ¬ Conflicts (p.takeLong verb body) := by
  unfold takeLong
  dsimp only
  split
  next => simp [Conflicts]
  next =>
    split
    next => exact not_conflicts_takeWhole _ _ _
    next => exact not_conflicts_takeOpen _ _
    next => simp [Conflicts]
    next => exact not_conflicts_takeWhole _ _ _

theorem not_conflicts_takeShort (letters : List Char) :
    ∀ p : Progress, ¬ Conflicts (p.takeShort verb letters) := by
  induction letters with
  | nil => simp [takeShort, Conflicts]
  | cons letter rest ih =>
    intro p
    unfold takeShort
    split
    next => simp [Conflicts]
    next =>
      split
      next =>
        split
        next => exact not_conflicts_takeOpen _ _
        next => exact not_conflicts_takeWhole _ _ _
        next => exact not_conflicts_takeWhole _ _ _
      next => exact not_conflicts_bind (not_conflicts_takeWhole _ _ _) ih

theorem not_conflicts_stray (p : Progress) (word : String) :
    p.stray verb word ≠ .usage .conflictingKeys := by
  unfold stray
  split
  next => simp
  next => split <;> simp

theorem not_conflicts_take (p : Progress) (word : String) : ¬ Conflicts (p.take verb word) := by
  have stray : ¬ Conflicts (.error (p.stray verb word) : Except Halt Progress) :=
    fun same => p.not_conflicts_stray word (Except.error.inj same)
  unfold take
  split
  next => exact stray
  next =>
    split
    next => simp [Conflicts]
    next => exact not_conflicts_takeLong _ _
    next => exact not_conflicts_takeShort _ _
    next =>
      split
      next => simp [Conflicts]
      next => exact stray

theorem not_conflicts_takeAll (words : List String) :
    ∀ p : Progress, ¬ Conflicts (p.takeAll verb words) := by
  induction words with
  | nil => simp [takeAll, Conflicts, pure, Except.pure]
  | cons word words ih =>
    intro p
    rw [takeAll, List.foldlM_cons]
    exact not_conflicts_bind (p.not_conflicts_take word) ih

end Progress

end FileSeal
