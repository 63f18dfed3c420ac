import FileSeal.Proofs.OptionParts

namespace FileSeal

namespace Part

variable {p : Progress} {environment : Option String} {part : Part}

/-- A part that gives some options. -/
def ofGiven (environment : Option String) (given : List (Switch × String)) : Part where
  keyFile := match given.lookup .keyFile with
    | some path => some (path, .commandLine)
    | none => environment.map fun path => (path, .environment)
  keyStdin := given.countP (·.1 = .keyStdin) ≠ 0
  verbosity := given.countP (·.1 = .verbose)
  value? := fun switch => given.lookup switch

theorem keyFile_ofGiven_of_some {given : List (Switch × String)} {path : String}
    (h : given.lookup .keyFile = some path) :
    (ofGiven environment given).keyFile = some (path, .commandLine) := by
  simp [ofGiven, h]

theorem keyFile_ofGiven_of_none {given : List (Switch × String)}
    (h : given.lookup .keyFile = none) :
    (ofGiven environment given).keyFile = environment.map fun path => (path, .environment) := by
  simp [ofGiven, h]

/-- A part does without the key file that the environment names by the empty string. -/
def Admits (environment : Option String) (given : List (Switch × String)) : Prop :=
  environment = some "" → given.lookup .keyFile ≠ none

theorem ofProgress_of_admits {given : List (Switch × String)} (idle : p.awaited = none)
    (items : p.items = given) (compatible : Compatible given) (admits : Admits environment given) :
    ofProgress environment p = .ok (ofGiven environment given) := by
  subst items
  have ready := (Progress.settle_eq_ok_iff (Progress.compatible_given compatible)).mpr
    ⟨idle, compatible, rfl⟩
  have value : p.settled.value? .keyFile = p.items.lookup .keyFile := rfl
  simp only [ofProgress, ready, bind, Except.bind, value]
  cases given : p.items.lookup .keyFile with
  | some path =>
    simp only [ofGiven, given]
    rfl
  | none =>
    simp only [ofGiven, given]
    rcases environment with _ | path
    · rfl
    · have filled : path ≠ "" := by
        rintro rfl
        exact admits rfl given
      split
      next same => cases same
      next same => cases same; exact absurd rfl filled
      next same => cases same; rfl
      next same => cases same

theorem ofProgress_of_not_admits {given : List (Switch × String)} (idle : p.awaited = none)
    (items : p.items = given) (compatible : Compatible given)
    (refuses : ¬ Admits environment given) :
    ofProgress environment p = .error (.usage (.missingValue .keyFile)) := by
  subst items
  have ready := (Progress.settle_eq_ok_iff (Progress.compatible_given compatible)).mpr
    ⟨idle, compatible, rfl⟩
  have value : p.settled.value? .keyFile = p.items.lookup .keyFile := rfl
  simp only [Admits, Classical.not_imp, Decidable.not_not] at refuses
  obtain ⟨rfl, given⟩ := refuses
  simp only [ofProgress, ready, bind, Except.bind, value, given]
  rfl

theorem not_conflicts_ofProgress (environment : Option String) (p : Progress) :
    ¬ Conflicts (ofProgress environment p) := by
  refine not_conflicts_bind p.not_conflicts_settle fun q => ?_
  dsimp only
  split <;> exact not_conflicts_bind nofun fun _ => nofun

theorem awaited_of_ofProgress (done : ofProgress environment p = .ok part) : p.awaited = none := by
  obtain ⟨given, pending, ended⟩ := p
  rcases pending with _ | ⟨switch, _ | value⟩
  · rfl
  · simp [ofProgress, Progress.settle, bind, Except.bind] at done
  · rfl

theorem ofProgress_eq_ok (h : Compatible p.given) (done : ofProgress environment p = .ok part) :
    Compatible p.items ∧ Admits environment p.items ∧ part = ofGiven environment p.items := by
  obtain ⟨r, ready, -⟩ := bind_eq_ok_iff.mp done
  obtain ⟨idle, compatible, -⟩ := (Progress.settle_eq_ok_iff h).mp ready
  by_cases admits : Admits environment p.items
  · rw [ofProgress_of_admits idle rfl compatible admits] at done
    cases done
    exact ⟨compatible, admits, rfl⟩
  · rw [ofProgress_of_not_admits idle rfl compatible admits] at done
    cases done

end Part

namespace Command

def verb : Command → Verb
  | keygen _ => .keygen
  | encrypt .. => .encrypt
  | decrypt .. => .decrypt
  | update .. => .update
  | verify .. => .verify

/-- The options that name the files of a command. -/
def values : Command → List (Switch × String)
  | keygen output => [(.output, output)]
  | encrypt input output | decrypt input output | update input output =>
    [(.input, input), (.output, output)]
  | verify input crypt => [(.input, input), (.crypt, crypt)]

theorem ne_verbose_of_mem_values {command : Command} :
    ∀ item ∈ command.values, item.1 ≠ .verbose := by
  cases command <;> simp [values]

theorem ofValues_eq_ok_iff {verb : Verb} {value? : Switch → Option String} {command : Command} :
    ofValues verb value? = .ok command ↔
      command.verb = verb ∧ ∀ item ∈ command.values, value? item.1 = some item.2 := by
  constructor
  · intro done
    unfold ofValues at done
    dsimp only at done
    split at done <;> cases done <;> simp_all [Command.verb, values]
  · rintro ⟨rfl, named⟩
    cases command <;> simp_all [Command.verb, values, ofValues]

end Command

/-- What a command line for a command says: the options before the command, the command, and the
options after it. The files of the command are named after it. -/
structure CommandLine where
  outer : List (Switch × String)
  command : Command
  inner : List (Switch × String)
  outer_compatible : Compatible outer
  inner_compatible : Compatible inner
  named : command.values ⊆ inner

namespace CommandLine

open Invocation

/-- The words of a command line. There can be `--` at its end. -/
inductive Reads (line : CommandLine) : List String → Prop
  | intro {front back ending : List String} {name : String} :
      Spells none front line.outer → name ∈ line.command.verb.names →
      Spells (some line.command.verb) back line.inner → ending = [] ∨ ending = ["--"] →
      line.Reads (front ++ name :: (back ++ ending))

def keyStdin (line : CommandLine) : Bool :=
  (line.outer ++ line.inner).any (·.1 = .keyStdin)

/-- The key file that the options name. The one after the command counts first. -/
def keyFile? (line : CommandLine) : Option String :=
  (line.inner ++ line.outer).lookup .keyFile

def verbosity (line : CommandLine) : Nat :=
  let inner := line.inner.countP (·.1 = .verbose)
  if inner = 0 then line.outer.countP (·.1 = .verbose) else inner

/-- Both parts do without the key file that the environment names by the empty string. -/
def Admits (line : CommandLine) (environment : Option String) : Prop :=
  Part.Admits environment line.outer ∧ Part.Admits environment line.inner

/-- What a command line asks for if nothing is wrong with it. The environment can name the key
file if the options do not. -/
def invocation (line : CommandLine) (environment : Option String) : Invocation where
  command := line.command
  keyFile := line.keyFile?.or environment
  keyStdin := line.keyStdin
  verbosity := line.verbosity

variable {line : CommandLine} {environment : Option String} {arguments : List String}

theorem keyStdin_eq (line : CommandLine) : line.keyStdin =
    ((Part.ofGiven environment line.outer).keyStdin ||
      (Part.ofGiven environment line.inner).keyStdin) := by
  have given : ∀ given : List (Switch × String),
      given.any (·.1 = .keyStdin) = decide (given.countP (·.1 = .keyStdin) ≠ 0) := by
    intro given
    rw [Bool.eq_iff_iff, List.any_eq_true, decide_eq_true_iff, Ne, List.countP_eq_zero]
    simp
  rw [keyStdin, List.any_append, given, given]
  rfl

theorem join_ofGiven (line : CommandLine) (environment : Option String) :
    join (Part.ofGiven environment line.outer) (Part.ofGiven environment line.inner)
        line.command =
      if line.keyStdin ∧ line.keyFile?.isSome then .error (.usage .conflictingKeys)
      else .ok (line.invocation environment) := by
  have keyFile : line.keyFile? =
      (line.inner.lookup .keyFile).or (line.outer.lookup .keyFile) := List.lookup_append
  have verbosity : line.verbosity =
      if (Part.ofGiven environment line.inner).verbosity = 0 then
        (Part.ofGiven environment line.outer).verbosity
      else (Part.ofGiven environment line.inner).verbosity := rfl
  simp only [join, invocation, keyFile, verbosity, ← keyStdin_eq]
  rcases Option.eq_none_or_eq_some (line.inner.lookup .keyFile) with inner | ⟨path, inner⟩ <;>
  rcases Option.eq_none_or_eq_some (line.outer.lookup .keyFile) with outer | ⟨path', outer⟩ <;>
  cases environment <;>
  simp [Part.keyFile_ofGiven_of_some, Part.keyFile_ofGiven_of_none, inner, outer]

theorem readFrom_name {p : Progress} (idle : p.Idle) {name : String} {verb : Verb}
    (named : name ∈ verb.names) (rest : List String) :
    readFrom environment p (name :: rest) = (do
      let (inner, command) ← complete environment verb rest
      let outer ← Part.ofProgress environment p
      join outer inner command) := by
  have waits : p.awaitsValue = false := by rw [Progress.awaitsValue_eq, idle.awaited]; rfl
  rw [readFrom]
  simp only [idle.going, waits, Bool.false_eq_true, or_self, if_false,
    Verb.ofName?_eq_some_iff.mpr named]

theorem isFree_of_command {word : String} (h : (Verb.ofName? word).isSome ∨ word = "help") :
    IsFree word := by
  rcases h with command | rfl
  · obtain ⟨verb, found⟩ := Option.isSome_iff_exists.mp command
    have named := Verb.ofName?_eq_some_iff.mp found
    cases verb <;> simp only [Verb.names, List.mem_cons, List.not_mem_nil, or_false] at named
    case keygen | verify =>
      subst named
      intro letter rest same
      simp at same
    all_goals
      rcases named with rfl | rfl <;>
      · intro letter rest same
        simp at same
  · intro letter rest same
    simp at same

/-- A word that is taken for an option or a value is not taken for a command. -/
theorem readFrom_cons_of_take {p q : Progress} {word : String} (taken : p.take none word = .ok q)
    (rest : List String) : readFrom environment p (word :: rest) = readFrom environment q rest := by
  have going : p.ended = false := by
    cases ended : p.ended with
    | false => rfl
    | true => simp [Progress.take, ended] at taken
  cases waits : p.awaitsValue with
  | true => simp [readFrom, going, waits, taken, bind, Except.bind]
  | false =>
    have awaited : p.awaited = none := by
      rw [Progress.awaitsValue_eq] at waits
      simpa using waits
    have noCommand : ¬ ((Verb.ofName? word).isSome ∨ word = "help") := by
      intro command
      rw [Progress.take_free going (isFree_of_command command), awaited] at taken
      cases taken
    simp only [not_or, Bool.not_eq_true, Option.isSome_eq_false_iff, Option.isNone_iff_eq_none]
      at noCommand
    simp [readFrom, going, waits, noCommand, taken, bind, Except.bind]

theorem readFrom_append_of_takeAll {words : List String} (rest : List String) :
    ∀ {p q : Progress}, p.takeAll none words = .ok q →
      readFrom environment p (words ++ rest) = readFrom environment q rest := by
  induction words with
  | nil =>
    intro p q taken
    cases taken
    rfl
  | cons word words ih =>
    intro p q taken
    obtain ⟨r, first, later⟩ := Progress.takeAll_cons_eq_ok_iff.mp taken
    rw [List.cons_append, readFrom_cons_of_take first, ih later]

theorem readPart_eq (verb : Verb) (words : List String) :
    readPart verb words = ({} : Progress).takeAll (some verb) words := rfl

theorem readPart_of_spells {verb : Verb} {words ending : List String}
    {given : List (Switch × String)} (spells : Spells (some verb) words given)
    (compatible : Compatible given) (closed : ending = [] ∨ ending = ["--"]) :
    ∃ q, readPart verb (words ++ ending) = .ok q ∧ q.awaited = none ∧ q.items = given := by
  obtain ⟨q, taken, idle, items⟩ := Progress.takeAll_of_spells spells {} ⟨rfl, rfl⟩ compatible
  have items : q.items = given := items
  rw [readPart_eq, Progress.takeAll_append_of_ok taken]
  rcases closed with rfl | rfl
  · exact ⟨q, rfl, idle.awaited, items⟩
  · exact ⟨{ q with ended := true }, Progress.takeAll_cons_of_ok (Progress.take_dashes idle.going),
      idle.awaited, items⟩

/-- A command line for a command is read as that, unless it names two sources for the key. Where the
environment is no good, that is what fails. -/
theorem ofArguments_of_reads (reads : line.Reads arguments) :
    (line.Admits environment → ofArguments environment arguments =
      if line.keyStdin ∧ line.keyFile?.isSome then .error (.usage .conflictingKeys)
      else .ok (line.invocation environment)) ∧
    (¬ line.Admits environment →
      ofArguments environment arguments = .error (.usage (.missingValue .keyFile))) := by
  cases reads with
  | @intro front back ending name spells named spells' closed =>
    obtain ⟨p, taken, idle, items⟩ :=
      Progress.takeAll_of_spells spells {} ⟨rfl, rfl⟩ line.outer_compatible
    have items : p.items = line.outer := items
    obtain ⟨q, read, done, items'⟩ := readPart_of_spells spells' line.inner_compatible closed
    have values : Command.ofValues line.command.verb
        (Part.ofGiven environment line.inner).value? = .ok line.command := by
      refine Command.ofValues_eq_ok_iff.mpr ⟨rfl, fun item mem => ?_⟩
      have single := Command.ne_verbose_of_mem_values item mem
      exact (line.inner_compatible.lookup_eq_some_iff single).mpr (line.named mem)
    rw [ofArguments, readFrom_append_of_takeAll _ taken, readFrom_name idle named, complete, read]
    constructor
    · rintro ⟨outer, inner⟩
      have outer := Part.ofProgress_of_admits idle.awaited items line.outer_compatible outer
      have inner := Part.ofProgress_of_admits done items' line.inner_compatible inner
      simp only [bind, Except.bind, pure, Except.pure, inner, values, outer, join_ofGiven]
    · intro refuses
      by_cases inner : Part.Admits environment line.inner
      · have outer : ¬ Part.Admits environment line.outer := fun outer => refuses ⟨outer, inner⟩
        have outer := Part.ofProgress_of_not_admits idle.awaited items line.outer_compatible outer
        have inner := Part.ofProgress_of_admits done items' line.inner_compatible inner
        simp only [bind, Except.bind, pure, Except.pure, inner, values, outer]
      · have inner := Part.ofProgress_of_not_admits done items' line.inner_compatible inner
        simp only [bind, Except.bind, inner]

theorem not_conflicts_complete (environment : Option String) (verb : Verb) (words : List String) :
    ¬ Conflicts (complete environment verb words) := by
  refine not_conflicts_bind (Progress.not_conflicts_takeAll words {}) fun q => ?_
  refine not_conflicts_bind (Part.not_conflicts_ofProgress environment q) fun part => ?_
  split <;> simp [Conflicts, throw, throwThe, MonadExceptOf.throw, pure, Except.pure]

theorem not_conflicts_readHelp (words : List String) :
    readHelp words ≠ .usage .conflictingKeys := by
  unfold readHelp
  split
  next => simp
  next =>
    dsimp only
    split
    next => simp
    next => split <;> simp

theorem complete_eq_ok {verb : Verb} {words : List String} {part : Part} {command : Command}
    (done : complete environment verb words = .ok (part, command)) :
    ∃ back ending inner, words = back ++ ending ∧ (ending = [] ∨ ending = ["--"]) ∧
      Spells (some verb) back inner ∧ Compatible inner ∧ Part.Admits environment inner ∧
      part = Part.ofGiven environment inner ∧ command.verb = verb ∧ command.values ⊆ inner := by
  obtain ⟨q, read, done⟩ := bind_eq_ok_iff.mp done
  obtain ⟨part', completed, done⟩ := bind_eq_ok_iff.mp done
  split at done
  next command' valued =>
    cases done
    obtain ⟨compatible, back, spells, closed⟩ :=
      Progress.spells_of_takeAll (Part.awaited_of_ofProgress completed) read
    obtain ⟨compatible, admits, rfl⟩ := Part.ofProgress_eq_ok compatible completed
    obtain ⟨sameVerb, values⟩ := Command.ofValues_eq_ok_iff.mp valued
    have named : command.values ⊆ q.items := by
      intro item mem
      have single := Command.ne_verbose_of_mem_values item mem
      exact (compatible.lookup_eq_some_iff single).mp (values item mem)
    rcases closed with ⟨rfl, -⟩ | ⟨rfl, -⟩
    · exact ⟨words, [], q.items, (List.append_nil words).symm, .inl rfl, spells, compatible,
        admits, rfl, sameVerb, named⟩
    · exact ⟨back, ["--"], q.items, rfl, .inr rfl, spells, compatible, admits, rfl, sameVerb,
        named⟩
  next => cases done

/-- A command line that is accepted has a name of a command, with options before it. -/
theorem readFrom_accepts {words : List String} :
    ∀ {p : Progress}, Accepts (readFrom environment p words) →
      ∃ front name rest q, words = front ++ name :: rest ∧ p.takeAll none front = .ok q ∧
        q.Idle ∧ (∃ verb : Verb, name ∈ verb.names) ∧
        Accepts (readFrom environment q (name :: rest)) := by
  induction words with
  | nil =>
    intro p h
    obtain ⟨part, -, shown⟩ := accepts_bind (Part.not_conflicts_ofProgress environment p) h
    rcases shown with ⟨_, none⟩ | conflict
    · cases none
    · split at conflict <;> cases conflict
  | cons word words ih =>
    intro p h
    by_cases command : p.Idle ∧ (Verb.ofName? word).isSome
    · obtain ⟨idle, command⟩ := command
      obtain ⟨verb, found⟩ := Option.isSome_iff_exists.mp command
      exact ⟨[], word, words, p, rfl, rfl, idle, ⟨verb, Verb.ofName?_eq_some_iff.mp found⟩, h⟩
    · have none : (if p.ended ∨ p.awaitsValue then none else Verb.ofName? word) = none := by
        split
        next => rfl
        next waits =>
          have idle : p.Idle := by
            rw [not_or, Progress.awaitsValue_eq] at waits
            exact ⟨by simpa using waits.1, by simpa using waits.2⟩
          simpa [idle] using command
      rw [readFrom] at h
      simp only [none] at h
      split at h
      next =>
        rcases h with ⟨_, none⟩ | conflict
        · cases none
        · exact absurd (Except.error.inj conflict) (not_conflicts_readHelp words)
      next =>
        obtain ⟨r, taken, h⟩ := accepts_bind (p.not_conflicts_take word) h
        obtain ⟨front, name, rest, q, rfl, later, idle, named⟩ := ih h
        exact ⟨word :: front, name, rest, q, rfl, (Progress.takeAll_cons_of_ok taken).trans later,
          idle, named⟩

/-- There is no other way to write a command line for a command. -/
theorem exists_reads (h : Accepts (ofArguments environment arguments)) :
    ∃ line : CommandLine, line.Reads arguments ∧ line.Admits environment := by
  obtain ⟨front, name, rest, p, rfl, taken, idle, ⟨verb, named⟩, h⟩ := readFrom_accepts h
  rw [readFrom_name idle named] at h
  obtain ⟨⟨part, command⟩, completed, h⟩ :=
    accepts_bind (not_conflicts_complete environment verb rest) h
  obtain ⟨part', completed', -⟩ := accepts_bind (Part.not_conflicts_ofProgress environment p) h
  obtain ⟨back, ending, inner, rfl, closed, spells', compatible', admits', rfl, rfl, named'⟩ :=
    complete_eq_ok completed
  obtain ⟨compatible, front', spells, ⟨rfl, -⟩ | ⟨-, ended⟩⟩ :=
    Progress.spells_of_takeAll idle.awaited taken
  · obtain ⟨compatible, admits, rfl⟩ := Part.ofProgress_eq_ok compatible completed'
    exact ⟨⟨p.items, command, inner, compatible, compatible', named'⟩,
      .intro spells named spells' closed, admits, admits'⟩
  · rw [idle.going] at ended
    cases ended

theorem accepts_iff : Accepts (ofArguments environment arguments) ↔
    ∃ line : CommandLine, line.Reads arguments ∧ line.Admits environment := by
  refine ⟨exists_reads, fun ⟨line, reads, admits⟩ => ?_⟩
  rw [(ofArguments_of_reads reads).1 admits]
  split
  next => exact .inr rfl
  next => exact .inl ⟨_, rfl⟩

end CommandLine

end FileSeal
