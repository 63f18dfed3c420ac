import FileSeal.FileSystem

namespace FileSeal.FileSystem

theorem assign_assign (location : Location) (old new : Node) (nodes : List (Location × Node)) :
    assign location new (assign location old nodes) = assign location new nodes := by
  induction nodes with
  | nil => simp [assign]
  | cons entry rest ih =>
    simp only [assign]
    split <;> simp_all [assign]

theorem filter_assign (location : Location) (node : Node) (nodes : List (Location × Node)) :
    (assign location node nodes).filter (·.1 ≠ location) = nodes.filter (·.1 ≠ location) := by
  induction nodes with
  | nil => simp [assign]
  | cons entry rest ih =>
    simp only [assign]
    split
    next same => simp [same]
    next => simp_all

@[simp] theorem put_put (fs : FileSystem) (location : Location) (old new : Node) :
    (fs.put location old).put location new = fs.put location new := by
  simp [put, assign_assign]

@[simp] theorem erase_put (fs : FileSystem) (location : Location) (node : Node) :
    (fs.put location node).erase location = fs.erase location := by
  simp only [put, erase, filter_assign]

theorem erase_eq_self {fs : FileSystem} {location : Location} (below : location ≠ [])
    (vacant : fs.node? location = none) : fs.erase location = fs := by
  have absent : fs.nodes.lookup location = none := by
    cases location with
    | nil => exact absurd rfl below
    | cons => exact vacant
  have kept : fs.nodes.filter (·.1 ≠ location) = fs.nodes := by
    apply List.filter_eq_self.mpr
    intro entry mem
    have distinct := List.lookup_eq_none_iff.mp absent entry mem
    exact decide_eq_true (Ne.symm (bne_iff_ne.mp distinct))
  rw [erase, kept]

theorem node?_put_self (fs : FileSystem) {location : Location} (below : location ≠ [])
    (node : Node) : (fs.put location node).node? location = some node := by
  rw [node?_put fs below, if_pos rfl]

theorem node?_put_of_ne (fs : FileSystem) {location other : Location} (below : location ≠ [])
    (node : Node) (ne : other ≠ location) :
    (fs.put location node).node? other = fs.node? other := by
  rw [node?_put fs below, if_neg ne]

theorem modifyFile_of_file {fs : FileSystem} {location : Location} {mode : Nat} {bytes : Bytes}
    (h : fs.node? location = some (.file mode bytes)) (change : Nat → Bytes → Nat × Bytes) :
    fs.modifyFile location change =
      fs.put location (.file (change mode bytes).1 (change mode bytes).2) := by
  simp [modifyFile, h]

theorem modifyFile_put (fs : FileSystem) {location : Location} (below : location ≠ [])
    (mode : Nat) (bytes : Bytes) (change : Nat → Bytes → Nat × Bytes) :
    (fs.put location (.file mode bytes)).modifyFile location change =
      fs.put location (.file (change mode bytes).1 (change mode bytes).2) := by
  rw [modifyFile_of_file (fs.node?_put_self below _), put_put]

/-- Two trees that are walked alike: what differs between them are files. -/
structure SameDirectories (fs fs' : FileSystem) : Prop where
  working : fs.working = fs'.working
  directory : ∀ location mode,
    fs.node? location = some (.directory mode) ↔ fs'.node? location = some (.directory mode)

theorem SameDirectories.symm {fs fs' : FileSystem} (same : SameDirectories fs fs') :
    SameDirectories fs' fs :=
  ⟨same.working.symm, fun location mode => (same.directory location mode).symm⟩

theorem SameDirectories.refl (fs : FileSystem) : SameDirectories fs fs :=
  ⟨rfl, fun _ _ => Iff.rfl⟩

theorem SameDirectories.trans {fs fs' fs'' : FileSystem} (first : SameDirectories fs fs')
    (second : SameDirectories fs' fs'') : SameDirectories fs fs'' :=
  ⟨first.working.trans second.working, fun location mode =>
    (first.directory location mode).trans (second.directory location mode)⟩

theorem sameDirectories_put {fs : FileSystem} {location : Location} (below : location ≠ [])
    (noDirectory : ∀ mode, fs.node? location ≠ some (.directory mode)) (mode : Nat)
    (bytes : Bytes) : SameDirectories (fs.put location (.file mode bytes)) fs := by
  refine ⟨rfl, fun other m => ?_⟩
  rw [node?_put fs below]
  split
  next same => simp [same, noDirectory]
  next => rfl

theorem enter_eq_ok_iff {fs : FileSystem} {here there : Location} {name : String} :
    fs.enter here name = .ok there ↔
      (name = "." ∧ there = here) ∨
      (name ≠ "." ∧ name = ".." ∧ there = here.dropLast) ∨
      (name ≠ "." ∧ name ≠ ".." ∧ name.utf8ByteSize ≤ Path.longestName ∧
        there = here ++ [name] ∧ ∃ mode, fs.node? (here ++ [name]) = some (.directory mode)) := by
  unfold enter
  split
  next dot => simp [dot, eq_comm]
  next notDot =>
    split
    next dots => simp [dots, eq_comm]
    next notDots =>
      split
      next long => simp [notDot, notDots, Nat.not_le_of_lt long]
      next short =>
        cases found : fs.node? (here ++ [name]) with
        | none => simp [notDot, notDots]
        | some node => cases node <;> simp [notDot, notDots, Nat.le_of_not_lt short, eq_comm]

theorem SameDirectories.enter {fs fs' : FileSystem} (same : SameDirectories fs fs')
    {here there : Location} {name : String} (h : fs.enter here name = .ok there) :
    fs'.enter here name = .ok there := by
  rw [enter_eq_ok_iff] at h ⊢
  simpa only [same.directory] using h

theorem SameDirectories.foldlM_enter {fs fs' : FileSystem} (same : SameDirectories fs fs')
    {names : List String} {here there : Location}
    (h : names.foldlM fs.enter here = .ok there) : names.foldlM fs'.enter here = .ok there := by
  induction names generalizing here with
  | nil => exact h
  | cons name names ih =>
    simp only [List.foldlM_cons] at h ⊢
    cases entered : fs.enter here name with
    | error failure => simp [entered, bind, Except.bind] at h
    | ok next =>
      rw [entered] at h
      rw [same.enter entered]
      exact ih h

theorem SameDirectories.walk {fs fs' : FileSystem} (same : SameDirectories fs fs') {path : Path}
    {location : Location} (h : fs.walk path = .ok location) : fs'.walk path = .ok location := by
  have start : fs'.start path = fs.start path := by simp [FileSystem.start, same.working]
  rw [FileSystem.walk, start]
  exact same.foldlM_enter h

/-- A path leads to a location: its directories can be walked, and the name that it ends in is the
location's last. Whether anything lies there is left open. -/
def Leads (fs : FileSystem) (text : String) (location : Location) : Prop :=
  ∃ path parent name, Path.ofText text = .ok path ∧ fs.walk path = .ok parent ∧
    path.last = some name ∧ path.slash = false ∧ name.utf8ByteSize ≤ Path.longestName ∧
    location = parent ++ [name]

theorem Leads.below {fs : FileSystem} {text : String} {location : Location}
    (leads : fs.Leads text location) : location ≠ [] := by
  obtain ⟨_, _, _, _, _, _, _, _, rfl⟩ := leads
  simp

theorem Leads.unique {fs : FileSystem} {text : String} {location other : Location}
    (leads : fs.Leads text location) (leads' : fs.Leads text other) : location = other := by
  obtain ⟨path, parent, name, parsed, walked, last, _, _, rfl⟩ := leads
  obtain ⟨path', parent', name', parsed', walked', last', _, _, rfl⟩ := leads'
  cases Except.ok.inj (parsed.symm.trans parsed')
  cases Except.ok.inj (walked.symm.trans walked')
  cases Option.some.inj (last.symm.trans last')
  rfl

theorem SameDirectories.leads {fs fs' : FileSystem} (same : SameDirectories fs fs')
    {text : String} {location : Location} (leads : fs.Leads text location) :
    fs'.Leads text location := by
  obtain ⟨path, parent, name, parsed, walked, rest⟩ := leads
  exact ⟨path, parent, name, parsed, same.walk walked, rest⟩

/-- What a lookup that parses and walks a path first comes down to. -/
theorem lookup_eq_ok {α : Type} {fs : FileSystem} {text : String}
    {next : Path → Location → Except IoFailure α} {a : α}
    (h : (do let path ← Path.ofText text; let parent ← fs.walk path; next path parent) = .ok a) :
    ∃ path parent, Path.ofText text = .ok path ∧ fs.walk path = .ok parent ∧
      next path parent = .ok a := by
  cases parsed : Path.ofText text with
  | error failure => simp [parsed, bind, Except.bind] at h
  | ok path =>
    cases walked : fs.walk path with
    | error failure => simp [parsed, walked, bind, Except.bind] at h
    | ok parent =>
      refine ⟨path, parent, rfl, walked, ?_⟩
      simpa [parsed, walked, bind, Except.bind] using h

/-- What a lookup for writing comes down to, which cannot end in a slash. -/
theorem lookup_last_eq_ok {α : Type} {fs : FileSystem} {text : String} {nameless slashed : IoFailure}
    {next : Location → String → Except IoFailure α} {a : α}
    (h : (do
      let path ← Path.ofText text
      let parent ← fs.walk path
      match path.last with
      | none => .error nameless
      | some name =>
        if path.slash then .error slashed
        else if Path.longestName < name.utf8ByteSize then .error .nameTooLong
        else next parent name) = .ok a) :
    ∃ parent name, fs.Leads text (parent ++ [name]) ∧ next parent name = .ok a := by
  obtain ⟨path, parent, parsed, walked, h⟩ := lookup_eq_ok h
  split at h
  next => simp at h
  next name last =>
    split at h
    next => simp at h
    next slash =>
      split at h
      next => simp at h
      next short =>
        exact ⟨parent, name, ⟨path, parent, name, parsed, walked, last, by simpa using slash,
          Nat.le_of_not_lt short, rfl⟩, h⟩

theorem find_eq_ok_iff {fs : FileSystem} {text : String} {location : Location} {mode : Nat}
    {bytes : Bytes} :
    fs.find text = .ok (location, mode, bytes) ↔
      fs.Leads text location ∧ fs.node? location = some (.file mode bytes) := by
  constructor
  · intro h
    obtain ⟨path, parent, parsed, walked, h⟩ := lookup_eq_ok h
    split at h
    next => simp at h
    next name last =>
      split at h
      next => simp at h
      next short =>
        split at h
        next => simp at h
        next => simp at h
        next found =>
          split at h
          next => simp at h
          next slash =>
            cases h
            exact ⟨⟨path, parent, name, parsed, walked, last, by simpa using slash,
              Nat.le_of_not_lt short, rfl⟩, found⟩
  · intro h
    obtain ⟨⟨path, parent, name, parsed, walked, last, slash, short, rfl⟩, found⟩ := h
    simp [find, parsed, walked, last, slash, found, Nat.not_lt_of_le short, bind, Except.bind]

theorem findWritable_eq_ok_iff {fs : FileSystem} {text : String} {location : Location}
    {present : Bool} :
    fs.findWritable text = .ok (location, present) ↔
      fs.Leads text location ∧ (present = false ∧ fs.node? location = none ∨
        present = true ∧
          ∃ mode bytes, fs.node? location = some (.file mode bytes) ∧ ownerWrites mode) := by
  constructor
  · intro h
    obtain ⟨parent, name, leads, h⟩ := lookup_last_eq_ok h
    split at h
    next found =>
      cases h
      exact ⟨leads, .inl ⟨rfl, found⟩⟩
    next => simp at h
    next mode bytes found =>
      split at h
      next writes =>
        cases h
        exact ⟨leads, .inr ⟨rfl, mode, bytes, found, writes⟩⟩
      next => simp at h
  · intro h
    obtain ⟨⟨path, parent, name, parsed, walked, last, slash, short, rfl⟩, h⟩ := h
    rcases h with ⟨rfl, found⟩ | ⟨rfl, mode, bytes, found, writes⟩ <;>
      simp [findWritable, Nat.not_lt_of_le short, *, bind, Except.bind]

theorem findWritable_leads {fs : FileSystem} {text : String} {location : Location}
    {present : Bool} (h : fs.findWritable text = .ok (location, present)) :
    fs.Leads text location ∧ ∀ mode, fs.node? location ≠ some (.directory mode) := by
  obtain ⟨leads, ⟨-, vacant⟩ | ⟨-, mode, bytes, found, -⟩⟩ := findWritable_eq_ok_iff.mp h
  · exact ⟨leads, by simp [vacant]⟩
  · exact ⟨leads, by simp [found]⟩

theorem read_eq_ok_iff {fs : FileSystem} {text : String} {bytes : Bytes} :
    fs.read text = .ok bytes ↔
      ∃ location mode, fs.Leads text location ∧
        fs.node? location = some (.file mode bytes) ∧ ownerReads mode := by
  constructor
  · intro h
    unfold read at h
    cases found : fs.find text with
    | error failure => simp [found, bind, Except.bind] at h
    | ok file =>
      obtain ⟨location, mode, stored⟩ := file
      obtain ⟨leads, there⟩ := find_eq_ok_iff.mp found
      cases reads : ownerReads mode with
      | false => simp [found, reads, bind, Except.bind] at h
      | true =>
        have same : stored = bytes := by simpa [found, reads, bind, Except.bind] using h
        exact ⟨location, mode, leads, same ▸ there, reads⟩
  · intro h
    obtain ⟨location, mode, leads, there, reads⟩ := h
    simp [read, find_eq_ok_iff.mpr ⟨leads, there⟩, reads, bind, Except.bind]

theorem findVacant_leads {fs : FileSystem} {text : String} {location : Location}
    (h : fs.findVacant text = .ok location) :
    fs.Leads text location ∧ fs.node? location = none := by
  obtain ⟨parent, name, leads, h⟩ := lookup_last_eq_ok h
  split at h
  next vacant =>
    cases h
    exact ⟨leads, vacant⟩
  next => simp at h

/-- A temporary file gets an unused name in the directory that is asked for. -/
theorem findTemporary_eq_ok {fs : FileSystem} {directory : String} {endings : List String}
    {location : Location} (h : fs.findTemporary directory endings = .ok location) :
    ∃ parent, ∃ ending ∈ endings, fs.findDirectory directory = .ok parent ∧
      location = parent ++ [temporaryStem ++ ending] ∧ fs.node? location = none := by
  unfold findTemporary at h
  extract_lets whole at h
  split at h
  next => simp at h
  next =>
    cases found : fs.findDirectory directory with
    | error failure => simp [found, bind, Except.bind] at h
    | ok parent =>
      simp only [found, bind, Except.bind] at h
      split at h
      next => simp at h
      next ending chosen =>
        cases h
        exact ⟨parent, ending, List.mem_of_find?_eq_some chosen, rfl, rfl,
          by simpa using List.find?_some chosen⟩

theorem findTemporary_vacant {fs : FileSystem} {directory : String} {endings : List String}
    {location : Location} (h : fs.findTemporary directory endings = .ok location) :
    location ≠ [] ∧ fs.node? location = none := by
  obtain ⟨parent, ending, -, -, rfl, vacant⟩ := findTemporary_eq_ok h
  exact ⟨by simp, vacant⟩

section NewContents

variable {fs : FileSystem} {location : Location}

theorem Leads.put {text : String} {other : Location} (leads : fs.Leads text other)
    (below : location ≠ []) (noDirectory : ∀ mode, fs.node? location ≠ some (.directory mode))
    (mode : Nat) (bytes : Bytes) : (fs.put location (.file mode bytes)).Leads text other :=
  (sameDirectories_put below noDirectory mode bytes).symm.leads leads

theorem Leads.of_put {text : String} {other : Location} {mode : Nat} {bytes : Bytes}
    (leads : (fs.put location (.file mode bytes)).Leads text other) (below : location ≠ [])
    (noDirectory : ∀ mode, fs.node? location ≠ some (.directory mode)) : fs.Leads text other :=
  (sameDirectories_put below noDirectory mode bytes).leads leads

/-- What is put where a path leads is found under that path. -/
theorem find_put_self {text : String} (leads : fs.Leads text location)
    (noDirectory : ∀ mode, fs.node? location ≠ some (.directory mode)) (mode : Nat)
    (bytes : Bytes) :
    (fs.put location (.file mode bytes)).find text = .ok (location, mode, bytes) :=
  find_eq_ok_iff.mpr ⟨leads.put leads.below noDirectory mode bytes,
    fs.node?_put_self leads.below _⟩

theorem read_put_self {text : String} (leads : fs.Leads text location)
    (noDirectory : ∀ mode, fs.node? location ≠ some (.directory mode)) (bytes : Bytes) :
    (fs.put location (.file ownerOnly bytes)).read text = .ok bytes := by
  obtain ⟨leads', there⟩ := find_eq_ok_iff.mp (find_put_self leads noDirectory ownerOnly bytes)
  exact read_eq_ok_iff.mpr ⟨location, ownerOnly, leads', there, rfl⟩

/-- A path that leads elsewhere finds what it found before. -/
theorem find_put_of_ne {text : String} {other : Location} {mode : Nat} {bytes : Bytes}
    (below : location ≠ []) (noDirectory : ∀ mode, fs.node? location ≠ some (.directory mode))
    (ne : other ≠ location) (m : Nat) (b : Bytes) :
    (fs.put location (.file m b)).find text = .ok (other, mode, bytes) ↔
      fs.find text = .ok (other, mode, bytes) := by
  rw [find_eq_ok_iff, find_eq_ok_iff, node?_put_of_ne fs below _ ne]
  exact and_congr_left' ⟨fun leads => leads.of_put below noDirectory,
    fun leads => leads.put below noDirectory m b⟩

theorem read_put_of_not_leads {text : String} {bytes : Bytes} (below : location ≠ [])
    (noDirectory : ∀ mode, fs.node? location ≠ some (.directory mode))
    (elsewhere : ¬ fs.Leads text location) (m : Nat) (b : Bytes) :
    (fs.put location (.file m b)).read text = .ok bytes ↔ fs.read text = .ok bytes := by
  simp only [read_eq_ok_iff]
  constructor
  · intro h
    obtain ⟨other, mode, leads, there, reads⟩ := h
    have leads := leads.of_put below noDirectory
    have ne : other ≠ location := fun same => elsewhere (same ▸ leads)
    exact ⟨other, mode, leads, by rwa [node?_put_of_ne fs below _ ne] at there, reads⟩
  · intro h
    obtain ⟨other, mode, leads, there, reads⟩ := h
    have ne : other ≠ location := fun same => elsewhere (same ▸ leads)
    exact ⟨other, mode, leads.put below noDirectory m b,
      by rwa [node?_put_of_ne fs below _ ne], reads⟩

end NewContents

end FileSeal.FileSystem
