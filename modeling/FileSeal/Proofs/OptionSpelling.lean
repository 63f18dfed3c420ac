import FileSeal.Options

namespace FileSeal

theorem find?_eq_some_iff_of_unique {α : Type} {p : α → Bool} {l : List α} {a : α}
    (unique : ∀ a b, p a → p b → a = b) : l.find? p = some a ↔ a ∈ l ∧ p a := by
  constructor
  · intro h
    exact ⟨List.mem_of_find?_eq_some h, List.find?_some h⟩
  · rintro ⟨mem, holds⟩
    cases found : l.find? p with
    | none => exact absurd holds (List.find?_eq_none.mp found a mem)
    | some b => rw [unique b a (List.find?_some found) holds]

theorem bind_eq_ok_iff {ε α β : Type} {x : Except ε α} {f : α → Except ε β} {b : β} :
    (x >>= f) = .ok b ↔ ∃ a, x = .ok a ∧ f a = .ok b := by
  cases x <;> simp [bind, Except.bind]

theorem Verb.ofName?_eq_some_iff {name : String} {verb : Verb} :
    Verb.ofName? name = some verb ↔ name ∈ verb.names := by
  constructor
  · intro h
    simpa using List.find?_some h
  · intro h
    cases verb <;> simp only [Verb.names, List.mem_cons, List.not_mem_nil, or_false] at h
    case keygen | verify =>
      subst h
      decide
    all_goals
      rcases h with rfl | rfl <;> decide

namespace Switch

theorem long_injective {a b : Switch} (h : a.long = b.long) : a = b := by
  revert h
  cases a <;> cases b <;> decide

theorem short?_injective {a b : Switch} {letter : Char} (ha : a.short? = some letter)
    (hb : b.short? = some letter) : a = b := by
  have same : a.short? = b.short? := ha.trans hb.symm
  have given : a.short? ≠ none := by simp [ha]
  revert same given
  cases a <;> cases b <;> decide

theorem long_ne_nil (switch : Switch) : switch.long.toList ≠ [] := by
  cases switch <;> decide

theorem equals_not_mem_long (switch : Switch) : '=' ∉ switch.long.toList := by
  cases switch <;> decide

theorem ne_dash_of_short? {switch : Switch} {letter : Char} (h : switch.short? = some letter) :
    letter ≠ '-' := by
  rintro rfl
  revert h
  cases switch <;> decide

theorem ofLong?_eq_some_iff {verb : Option Verb} {name : String} {switch : Switch} :
    ofLong? verb name = some switch ↔ switch ∈ inForce verb ∧ switch.long = name := by
  have unique : ∀ a b : Switch, (a.long == name) = true → (b.long == name) = true → a = b :=
    fun a b ha hb => long_injective ((eq_of_beq ha).trans (eq_of_beq hb).symm)
  rw [ofLong?, find?_eq_some_iff_of_unique unique, beq_iff_eq]

theorem ofShort?_eq_some_iff {verb : Option Verb} {letter : Char} {switch : Switch} :
    ofShort? verb letter = some switch ↔
      switch ∈ inForce verb ∧ switch.short? = some letter := by
  have unique : ∀ a b : Switch, (a.short? == some letter) = true →
      (b.short? == some letter) = true → a = b :=
    fun a b ha hb => short?_injective (eq_of_beq ha) (eq_of_beq hb)
  rw [ofShort?, find?_eq_some_iff_of_unique unique, beq_iff_eq]

/-- A switch that takes no value and does not put the command off. -/
def IsFlag (switch : Switch) : Prop :=
  switch = keyStdin ∨ switch = verbose

theorem isFlag_iff {switch : Switch} :
    switch.IsFlag ↔ switch.takesValue = false ∧ switch ≠ help ∧ switch ≠ version := by
  cases switch <;> simp [IsFlag, takesValue]

theorem ne_of_takesValue {switch : Switch} (takes : switch.takesValue) :
    switch ≠ help ∧ switch ≠ version := by
  cases switch <;> simp [takesValue] at takes ⊢

/-- The words that name an option. -/
inductive Names (switch : Switch) : String → Prop
  | long : switch.Names ("--" ++ switch.long)
  | short {letter : Char} : switch.short? = some letter → switch.Names (.ofList ['-', letter])

/-- The words that name an option together with its value. After a letter the value can stand
alone, unless it could be mistaken. -/
inductive Attaches (switch : Switch) (value : String) : String → Prop
  | long : switch.Attaches value ("--" ++ switch.long ++ "=" ++ value)
  | short {letter : Char} : switch.short? = some letter → value ≠ "" →
      value.toList.head? ≠ some '=' → switch.Attaches value (.ofList ('-' :: letter :: value.toList))
  | shortEquals {letter : Char} : switch.short? = some letter →
      switch.Attaches value (.ofList ('-' :: letter :: '=' :: value.toList))

end Switch

/-- A word that is not read as an option. -/
def IsFree (word : String) : Prop :=
  ∀ letter rest, word.toList ≠ '-' :: letter :: rest

/-- How the options of one part of a command line are written, before the command or after it. -/
inductive Spells (verb : Option Verb) : List String → List (Switch × String) → Prop
  | nil : Spells verb [] []
  | flag {switch : Switch} {word : String} {words : List String}
      {given : List (Switch × String)} :
      switch ∈ Switch.inForce verb → switch.IsFlag → switch.Names word →
      Spells verb words given → Spells verb (word :: words) ((switch, "") :: given)
  /-- The letters of several flags can share one dash, with another option at the end. -/
  | cluster {switch : Switch} {letter next : Char} {rest : List Char} {words : List String}
      {given : List (Switch × String)} :
      switch ∈ Switch.inForce verb → switch.IsFlag → switch.short? = some letter → next ≠ '-' →
      Spells verb (.ofList ('-' :: next :: rest) :: words) given →
      Spells verb (.ofList ('-' :: letter :: next :: rest) :: words) ((switch, "") :: given)
  | apart {switch : Switch} {word value : String} {words : List String}
      {given : List (Switch × String)} :
      switch ∈ Switch.inForce verb → switch.takesValue → switch.Names word → IsFree value →
      Spells verb words given → Spells verb (word :: value :: words) ((switch, value) :: given)
  | attached {switch : Switch} {word value : String} {words : List String}
      {given : List (Switch × String)} :
      switch ∈ Switch.inForce verb → switch.takesValue → switch.Attaches value word →
      Spells verb words given → Spells verb (word :: words) ((switch, value) :: given)

/-- Only one option can be given more than once in a part, and no value is empty. -/
structure Compatible (given : List (Switch × String)) : Prop where
  once : ∀ switch, switch ≠ .verbose → given.countP (·.1 = switch) ≤ 1
  filled : ∀ item ∈ given, item.1.takesValue → item.2 ≠ ""

namespace Compatible

variable {given more : List (Switch × String)} {switch : Switch} {value : String}

theorem nil : Compatible [] :=
  ⟨fun _ _ => Nat.zero_le 1, fun _ mem => absurd mem List.not_mem_nil⟩

theorem left (h : Compatible (given ++ more)) : Compatible given := by
  refine ⟨fun switch single => ?_, fun item mem => h.filled item (List.mem_append_left more mem)⟩
  have once := h.once switch single
  rw [List.countP_append] at once
  omega

theorem concat_iff (h : Compatible given) :
    Compatible (given ++ [(switch, value)]) ↔
      ¬ (switch ≠ .verbose ∧ given.countP (·.1 = switch) ≠ 0) ∧
      ¬ (switch.takesValue ∧ value = "") := by
  constructor
  · intro h'
    refine ⟨fun ⟨single, again⟩ => ?_, fun ⟨takes, empty⟩ => ?_⟩
    · have once := h'.once switch single
      simp only [List.countP_append, List.countP_singleton, decide_true, if_true] at once
      omega
    · exact h'.filled (switch, value) (by simp) takes empty
  · rintro ⟨fresh, filled⟩
    refine ⟨fun other single => ?_, fun item mem => ?_⟩
    · have once := h.once other single
      simp only [List.countP_append, List.countP_singleton]
      by_cases same : switch = other
      · subst same
        have none : given.countP (·.1 = switch) = 0 := by
          by_cases zero : given.countP (·.1 = switch) = 0
          · exact zero
          · exact absurd ⟨single, zero⟩ fresh
        simp [none]
      · simpa [same] using once
    · rcases List.mem_append.mp mem with old | new
      · exact h.filled item old
      · cases List.mem_singleton.mp new
        exact fun takes empty => filled ⟨takes, empty⟩

/-- An option that is given at most once has the value that it is given. -/
theorem lookup_eq_some_iff (h : Compatible given) (single : switch ≠ .verbose) :
    given.lookup switch = some value ↔ (switch, value) ∈ given := by
  rw [List.lookup_eq_some_iff]
  constructor
  · rintro ⟨before, rest, rfl, -⟩
    simp
  · intro mem
    obtain ⟨before, rest, rfl⟩ := List.append_of_mem mem
    refine ⟨before, rest, rfl, fun item earlier => ?_⟩
    have once := h.once switch single
    simp only [List.countP_append, List.countP_cons, decide_true, if_true] at once
    have absent : before.countP (·.1 = switch) = 0 := by omega
    have differs : item.1 ≠ switch := by simpa using List.countP_eq_zero.mp absent item earlier
    simpa using Ne.symm differs

end Compatible

namespace Progress

variable {p q : Progress} {verb : Option Verb} {switch : Switch} {value word : String}

/-- The option that waits for its value. -/
def awaited (p : Progress) : Option Switch :=
  match p.pending with
  | some (switch, none) => some switch
  | _ => none

/-- The options given so far, with one that is still to be checked. -/
def items (p : Progress) : List (Switch × String) :=
  match p.pending with
  | some (switch, some value) => p.given ++ [(switch, value)]
  | _ => p.given

def settled (p : Progress) : Progress :=
  { p with given := p.items, pending := none }

theorem awaitsValue_eq : p.awaitsValue = p.awaited.isSome := by
  obtain ⟨given, pending, ended⟩ := p
  rcases pending with _ | ⟨switch, _ | value⟩ <;> rfl

theorem compatible_given (h : Compatible p.items) : Compatible p.given := by
  unfold items at h
  split at h
  · exact h.left
  · exact h

theorem accept_eq_ok_iff (h : Compatible p.given) :
    p.accept switch value = .ok q ↔
      Compatible (p.given ++ [(switch, value)]) ∧
        { p with given := p.given ++ [(switch, value)] } = q := by
  rw [h.concat_iff, accept, count]
  split
  next again => simp [again]
  next fresh =>
    split
    next empty => simp [empty]
    next filled =>
      rw [Except.ok.injEq]
      exact ⟨fun same => ⟨⟨fresh, filled⟩, same⟩, And.right⟩

theorem settle_eq_ok_iff (h : Compatible p.given) :
    p.settle = .ok q ↔ p.awaited = none ∧ Compatible p.items ∧ p.settled = q := by
  obtain ⟨given, pending, ended⟩ := p
  rcases pending with _ | ⟨switch, _ | value⟩
  · simp [settle, awaited, items, settled, show Compatible given from h]
  · simp [settle, awaited]
  · have h : Compatible (Progress.mk given none ended).given := h
    exact (accept_eq_ok_iff h).trans (by simp [awaited, items, settled])

theorem takeWhole_eq_ok_iff (h : Compatible p.given) :
    p.takeWhole verb switch value = .ok q ↔
      switch ≠ .help ∧ switch ≠ .version ∧ p.awaited = none ∧
        Compatible (p.items ++ [(switch, value)]) ∧
        { p.settled with given := p.items ++ [(switch, value)] } = q := by
  rw [takeWhole, bind_eq_ok_iff]
  constructor
  · rintro ⟨r, ready, taken⟩
    obtain ⟨idle, compatible, rfl⟩ := (settle_eq_ok_iff h).mp ready
    split at taken
    next => cases taken
    next => cases taken
    next noHelp noVersion =>
      obtain ⟨compatible', same⟩ := (accept_eq_ok_iff compatible).mp taken
      exact ⟨noHelp, noVersion, idle, compatible', same⟩
  · rintro ⟨noHelp, noVersion, idle, compatible, same⟩
    refine ⟨p.settled, (settle_eq_ok_iff h).mpr ⟨idle, compatible.left, rfl⟩, ?_⟩
    split
    next => exact absurd rfl noHelp
    next => exact absurd rfl noVersion
    next => exact (accept_eq_ok_iff compatible.left).mpr ⟨compatible, same⟩

theorem takeOpen_eq_ok_iff (h : Compatible p.given) :
    p.takeOpen switch = .ok q ↔
      p.awaited = none ∧ Compatible p.items ∧
        { p.settled with pending := some (switch, none) } = q := by
  rw [takeOpen, bind_eq_ok_iff]
  constructor
  · rintro ⟨r, ready, taken⟩
    obtain ⟨idle, compatible, rfl⟩ := (settle_eq_ok_iff h).mp ready
    exact ⟨idle, compatible, Except.ok.inj taken⟩
  · rintro ⟨idle, compatible, same⟩
    exact ⟨p.settled, (settle_eq_ok_iff h).mpr ⟨idle, compatible, rfl⟩, congrArg Except.ok same⟩

theorem take_dashes (going : p.ended = false) :
    p.take verb "--" = .ok { p with ended := true } := by
  rw [take, going]
  rfl

theorem take_long (going : p.ended = false) {body : List Char} (letters : body ≠ []) :
    p.take verb (.ofList ('-' :: '-' :: body)) = p.takeLong verb body := by
  rw [take, going, String.toList_ofList]
  cases body with
  | nil => exact absurd rfl letters
  | cons => rfl

theorem take_short (going : p.ended = false) {letter : Char} (noDash : letter ≠ '-')
    (rest : List Char) :
    p.take verb (.ofList ('-' :: letter :: rest)) = p.takeShort verb (letter :: rest) := by
  rw [take, going, String.toList_ofList]
  simp only [Bool.false_eq_true, if_false]
  split <;> simp_all

theorem take_free (going : p.ended = false) (free : IsFree word) :
    p.take verb word = match p.awaited with
      | some switch => .ok { p with pending := some (switch, some word) }
      | none => .error (p.stray verb word) := by
  rw [take, going]
  simp only [Bool.false_eq_true, if_false]
  split
  next same => exact absurd same (free '-' [])
  next same => exact absurd same (free '-' _)
  next same => exact absurd same (free _ _)
  next =>
    obtain ⟨given, pending, ended⟩ := p
    rcases pending with _ | ⟨switch, _ | value⟩ <;> rfl

theorem ne_equals_of_plain {name : List Char} (plain : '=' ∉ name) :
    ∀ c ∈ name, decide (c ≠ '=') = true := by
  intro c mem
  rw [decide_eq_true_iff]
  rintro rfl
  exact plain mem

theorem takeLong_plain {name : List Char} (plain : '=' ∉ name) :
    p.takeLong verb name = match Switch.ofLong? verb (.ofList name) with
      | none => .error (.usage (.unexpectedArgument ("--" ++ .ofList name)))
      | some switch =>
        if switch.takesValue then p.takeOpen switch else p.takeWhole verb switch "" := by
  have before : name.takeWhile (· ≠ '=') = name := by
    have all : (name ++ []).takeWhile (· ≠ '=') = name ++ [].takeWhile (· ≠ '=') :=
      List.takeWhile_append_of_pos (ne_equals_of_plain plain)
    rwa [List.append_nil, List.takeWhile_nil, List.append_nil] at all
  rw [takeLong, before]
  cases Switch.ofLong? verb (.ofList name) with
  | none => rfl
  | some switch => cases takes : switch.takesValue <;> simp [takes, plain]

theorem takeLong_equals {name : List Char} (plain : '=' ∉ name) (rest : List Char) :
    p.takeLong verb (name ++ '=' :: rest) = match Switch.ofLong? verb (.ofList name) with
      | none => .error (.usage (.unexpectedArgument ("--" ++ .ofList name)))
      | some switch =>
        if switch.takesValue then p.takeWhole verb switch (.ofList rest)
        else .error (.usage (.unexpectedValue (.ofList rest) switch)) := by
  have before : (name ++ '=' :: rest).takeWhile (· ≠ '=') = name := by
    rw [List.takeWhile_append_of_pos (ne_equals_of_plain plain)]
    simp
  have after : (name ++ '=' :: rest).dropWhile (· ≠ '=') = '=' :: rest := by
    rw [List.dropWhile_append_of_pos (ne_equals_of_plain plain)]
    simp
  rw [takeLong, before, after]
  cases Switch.ofLong? verb (.ofList name) with
  | none => rfl
  | some switch => cases takes : switch.takesValue <;> simp [takes]

theorem takeLong_long (mem : switch ∈ Switch.inForce verb) :
    p.takeLong verb switch.long.toList =
      if switch.takesValue then p.takeOpen switch else p.takeWhole verb switch "" := by
  have found : Switch.ofLong? verb (.ofList switch.long.toList) = some switch :=
    Switch.ofLong?_eq_some_iff.mpr ⟨mem, String.ofList_toList.symm⟩
  rw [takeLong_plain switch.equals_not_mem_long, found]

theorem takeLong_long_equals (mem : switch ∈ Switch.inForce verb) (takes : switch.takesValue)
    (value : String) :
    p.takeLong verb (switch.long.toList ++ '=' :: value.toList) =
      p.takeWhole verb switch value := by
  have found : Switch.ofLong? verb (.ofList switch.long.toList) = some switch :=
    Switch.ofLong?_eq_some_iff.mpr ⟨mem, String.ofList_toList.symm⟩
  rw [takeLong_equals switch.equals_not_mem_long, found]
  simp [takes]

theorem take_flag (going : p.ended = false) (mem : switch ∈ Switch.inForce verb)
    (flag : switch.IsFlag) (named : switch.Names word) :
    p.take verb word = p.takeWhole verb switch "" := by
  obtain ⟨takes, -, -⟩ := Switch.isFlag_iff.mp flag
  cases named with
  | long =>
    have split : "--" ++ switch.long = .ofList ('-' :: '-' :: switch.long.toList) :=
      String.toList_inj.mp (by simp)
    rw [split, take_long going switch.long_ne_nil, takeLong_long mem, takes]
    rfl
  | short letter =>
    have found := Switch.ofShort?_eq_some_iff.mpr ⟨mem, letter⟩
    rw [take_short going (Switch.ne_dash_of_short? letter), takeShort, found]
    simp only [takes, Bool.false_eq_true, if_false, takeShort]
    exact bind_pure _

theorem take_apart (going : p.ended = false) (mem : switch ∈ Switch.inForce verb)
    (takes : switch.takesValue) (named : switch.Names word) :
    p.take verb word = p.takeOpen switch := by
  cases named with
  | long =>
    have split : "--" ++ switch.long = .ofList ('-' :: '-' :: switch.long.toList) :=
      String.toList_inj.mp (by simp)
    rw [split, take_long going switch.long_ne_nil, takeLong_long mem, if_pos takes]
  | short letter =>
    have found := Switch.ofShort?_eq_some_iff.mpr ⟨mem, letter⟩
    rw [take_short going (Switch.ne_dash_of_short? letter), takeShort, found]
    simp only [takes, if_true]

theorem take_attached (going : p.ended = false) (mem : switch ∈ Switch.inForce verb)
    (takes : switch.takesValue) (attached : switch.Attaches value word) :
    p.take verb word = p.takeWhole verb switch value := by
  cases attached with
  | long =>
    have split : "--" ++ switch.long ++ "=" ++ value =
        .ofList ('-' :: '-' :: (switch.long.toList ++ '=' :: value.toList)) :=
      String.toList_inj.mp (by simp)
    rw [split, take_long going (by simp), takeLong_long_equals mem takes]
  | short letter filled noEquals =>
    have found := Switch.ofShort?_eq_some_iff.mpr ⟨mem, letter⟩
    rw [take_short going (Switch.ne_dash_of_short? letter), takeShort, found]
    simp only [takes, if_true]
    split
    next none => exact absurd (String.toList_eq_nil_iff.mp none) filled
    next equals => simp [equals] at noEquals
    next => rw [String.ofList_toList]
  | shortEquals letter =>
    have found := Switch.ofShort?_eq_some_iff.mpr ⟨mem, letter⟩
    rw [take_short going (Switch.ne_dash_of_short? letter), takeShort, found]
    simp only [takes, if_true, String.ofList_toList]

end Progress

end FileSeal
