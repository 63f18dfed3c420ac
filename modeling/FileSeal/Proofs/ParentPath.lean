import FileSeal.Proofs.FileTree

namespace FileSeal

theorem pieces_eq_splitOn (separator : Char) (text : List Char) :
    pieces separator text = text.splitOn separator := by
  induction text with
  | nil => rfl
  | cons c rest ih =>
    obtain ⟨piece, others, cut⟩ := List.exists_cons_of_ne_nil (List.splitOn_ne_nil separator rest)
    rw [List.splitOn_cons_eq_if_modifyHead, pieces, ih, cut]
    by_cases same : c = separator <;> simp [same]

theorem pieces_intercalate {separator : Char} {texts : List (List Char)} (nonempty : texts ≠ [])
    (h : ∀ text ∈ texts, separator ∉ text) :
    pieces separator ([separator].intercalate texts) = texts := by
  rw [pieces_eq_splitOn]
  exact List.splitOn_intercalate separator h nonempty

theorem not_mem_of_mem_pieces {separator : Char} {text piece : List Char}
    (h : piece ∈ pieces separator text) : separator ∉ piece := by
  induction text generalizing piece with
  | nil => simp_all [pieces]
  | cons c rest ih =>
    rw [pieces] at h
    split at h
    next same =>
      rcases List.mem_cons.mp h with rfl | mem
      · exact List.not_mem_nil
      · exact ih mem
    next other =>
      split at h
      next => simp_all [eq_comm]
      next first others cut =>
        rcases List.mem_cons.mp h with rfl | mem
        · have := ih (cut ▸ List.mem_cons_self)
          simp [Ne.symm other, this]
        · exact ih (cut ▸ List.mem_cons_of_mem _ mem)

theorem head?_pieces_eq_nil_iff {separator : Char} {text : List Char} :
    (pieces separator text).head? = some [] ↔ text = [] ∨ text.head? = some separator := by
  cases text with
  | nil => simp [pieces]
  | cons c rest =>
    by_cases same : c = separator
    · simp [pieces, same]
    · rw [pieces, if_neg same]
      cases pieces separator rest <;> simp [same]

namespace Path

/-- A name that leads nowhere: the gap between two slashes, or a dot. -/
def IsIdle (name : String) : Prop := name = "" ∨ name = "."

instance : DecidablePred IsIdle := fun name => inferInstanceAs (Decidable (name = "" ∨ name = "."))

/-- The names of a list that lead somewhere. -/
def busy (names : List String) : List String := names.filter fun name => ¬ IsIdle name

@[simp] theorem busy_append (names others : List String) :
    busy (names ++ others) = busy names ++ busy others :=
  List.filter_append ..

theorem busy_reverse (names : List String) : busy names.reverse = (busy names).reverse :=
  List.filter_reverse ..

theorem busy_cons_of_idle {name : String} (idle : IsIdle name) (names : List String) :
    busy (name :: names) = busy names := by
  simp [busy, idle]

theorem busy_cons_of_not_idle {name : String} (h : ¬ IsIdle name) (names : List String) :
    busy (name :: names) = name :: busy names := by
  simp [busy, h]

theorem busy_of_idle {names : List String} (h : ∀ name ∈ names, IsIdle name) : busy names = [] :=
  List.filter_eq_nil_iff.mpr (by simpa using h)

/-- Only idle names are dropped from the end of a path. -/
theorem exists_dropIdle (absolute : Bool) (names : List String) :
    ∃ idle, names = idle ++ dropIdle absolute names ∧ ∀ name ∈ idle, IsIdle name := by
  fun_induction dropIdle absolute names with
  | case1 => exact ⟨[], rfl, by simp⟩
  | case2 name dropped =>
    refine ⟨[name], rfl, ?_⟩
    simpa [IsIdle] using dropped.imp_right And.right
  | case3 => exact ⟨[], rfl, by simp⟩
  | case4 name rest _ dropped ih =>
    obtain ⟨idle, cut, allIdle⟩ := ih
    refine ⟨name :: idle, by rw [List.cons_append, ← cut], ?_⟩
    simpa using ⟨dropped, allIdle⟩
  | case5 => exact ⟨[], rfl, by simp⟩

theorem rest_eq_nil_of_dropIdle {absolute : Bool} {names rest : List String} {name : String}
    (h : dropIdle absolute names = name :: rest) (idle : IsIdle name) : rest = [] := by
  fun_induction dropIdle absolute names with
  | case1 => cases h
  | case2 => cases h
  | case3 => cases h; rfl
  | case4 first others _ dropped ih => exact ih h
  | case5 first others _ stays => cases h; exact absurd idle stays

def isAbsolute (text : String) : Bool := text.toList.head? = some '/'

/-- The pieces of a path's text. The slash that a path from the root starts with ends no piece. -/
def components (text : String) : List String :=
  (pieces '/' (if isAbsolute text then text.toList.tail else text.toList)).map String.ofList

/-- The names of a path's text that lead somewhere. -/
def steps (text : String) : List String :=
  busy ((pieces '/' text.toList).map String.ofList)

theorem steps_eq (text : String) : steps text = busy (components text) := by
  unfold steps components isAbsolute
  split
  next slash =>
    obtain ⟨rest, chars⟩ := List.head?_eq_some_iff.mp (of_decide_eq_true slash)
    simp [chars, pieces, busy, IsIdle]
  next => rfl

theorem not_mem_of_mem_components {text name : String} (h : name ∈ components text) :
    '/' ∉ name.toList := by
  obtain ⟨piece, mem, rfl⟩ := List.mem_map.mp h
  rw [String.toList_ofList]
  exact not_mem_of_mem_pieces mem

theorem pieces_intercalate_names {names : List String} (nonempty : names ≠ [])
    (h : ∀ name ∈ names, '/' ∉ name.toList) :
    pieces '/' ("/".intercalate names).toList = names.map String.toList := by
  rw [String.toList_intercalate]
  exact pieces_intercalate (by simpa using nonempty) (by simpa using h)

theorem steps_intercalate {names : List String} (h : ∀ name ∈ names, '/' ∉ name.toList) :
    steps ("/".intercalate names) = busy names := by
  cases names with
  | nil => rfl
  | cons name rest =>
    have same : (List.map String.toList (name :: rest)).map String.ofList = name :: rest := by
      simp [Function.comp_def]
    rw [steps, pieces_intercalate_names (by simp) h, same]

theorem steps_slash (text : String) : steps ("/" ++ text) = steps text := by
  have chars : ("/" ++ text).toList = '/' :: text.toList := by simp
  simp [steps, chars, pieces, busy, IsIdle]

/-- What becomes of a path's components on the way to its parent: those in front are kept, and of
those behind one at most leads anywhere. -/
theorem exists_of_parentText? {text parent : String} (h : parentText? text = some parent) :
    ∃ front back, components text = front ++ back ∧
      parent = (if isAbsolute text then "/" ++ "/".intercalate front else "/".intercalate front) ∧
      (busy (components text) = [] ∨ ∃ name, busy back = [name]) := by
  unfold parentText? at h
  extract_lets chars absolute body at h
  split at h
  next => cases h
  next name rest cutText =>
    cases h
    have dropped : dropIdle (isAbsolute text) (components text).reverse = name :: rest := cutText
    obtain ⟨idle, cut, allIdle⟩ := exists_dropIdle (isAbsolute text) (components text).reverse
    obtain ⟨idle', cut', allIdle'⟩ := exists_dropIdle (isAbsolute text) rest
    rw [dropped] at cut
    have whole : components text = (idle ++ name :: rest).reverse := by
      rw [← cut, List.reverse_reverse]
    refine ⟨(dropIdle (isAbsolute text) rest).reverse, (idle ++ name :: idle').reverse, ?_, rfl, ?_⟩
    · rw [whole, ← List.reverse_append, List.append_assoc, List.cons_append, ← cut']
    -- A name that is dropped although it is idle has nothing in front of it.
    · by_cases idleName : IsIdle name
      · left
        rw [whole, rest_eq_nil_of_dropIdle dropped idleName, busy_reverse, busy_append,
          busy_of_idle allIdle, busy_cons_of_idle idleName]
        rfl
      · right
        refine ⟨name, ?_⟩
        rw [busy_reverse, busy_append, busy_of_idle allIdle, busy_cons_of_not_idle idleName,
          busy_of_idle allIdle']
        rfl

theorem steps_directoryText (parent : String) : steps (directoryText parent) = steps parent := by
  unfold directoryText
  split
  next empty =>
    rw [empty]
    rfl
  next => rfl

/-- A path leads one step further than the directory that it lies in. -/
theorem steps_of_parentText? {text parent : String} (h : parentText? text = some parent)
    (somewhere : steps text ≠ []) :
    ∃ name, steps text = steps (directoryText parent) ++ [name] := by
  obtain ⟨front, back, whole, rfl, nowhere | ⟨name, last⟩⟩ := exists_of_parentText? h
  · exact absurd (steps_eq text ▸ nowhere) somewhere
  · have clean : ∀ name ∈ front, '/' ∉ name.toList := by
      intro name mem
      exact not_mem_of_mem_components (whole ▸ List.mem_append_left back mem)
    refine ⟨name, ?_⟩
    rw [steps_directoryText, steps_eq text, whole, busy_append, last, ← steps_intercalate clean]
    split
    next => rw [steps_slash]
    next => rfl

theorem head?_components {text : String} (relative : isAbsolute text = false)
    (nonempty : text ≠ "") : (components text).head? ≠ some "" := by
  intro gap
  have first : (pieces '/' text.toList).head? = some [] := by
    simpa [components, relative] using gap
  rcases head?_pieces_eq_nil_iff.mp first with empty | slash
  · exact nonempty (String.toList_eq_nil_iff.mp empty)
  · simp [isAbsolute, slash] at relative

/-- The directory that a path lies in is looked up from where the path is. -/
theorem isAbsolute_of_parentText? {text parent : String} (h : parentText? text = some parent) :
    isAbsolute (directoryText parent) = isAbsolute text := by
  have nonempty : text ≠ "" := by
    rintro rfl
    cases h
  obtain ⟨front, back, whole, rfl, -⟩ := exists_of_parentText? h
  cases absolute : isAbsolute text with
  | true => simp [directoryText, isAbsolute]
  | false =>
    -- The text could only start with a slash now if its first component were empty.
    cases front with
    | nil => rfl
    | cons name rest =>
      have clean : ∀ other ∈ name :: rest, '/' ∉ other.toList := by
        intro other mem
        exact not_mem_of_mem_components (whole ▸ List.mem_append_left back mem)
      have start : name ≠ "" := by
        rintro rfl
        exact head?_components absolute nonempty (by rw [whole]; rfl)
      have cut := pieces_intercalate_names (by simp) clean
      rw [if_neg (by simp), directoryText]
      split
      next => rfl
      next =>
        refine decide_eq_false fun slash => start ?_
        have gap := head?_pieces_eq_nil_iff.mpr (.inr slash)
        rw [cut] at gap
        simpa using gap

/-- What reading a path's text comes down to for a walk. -/
theorem ofText_eq_ok {text : String} {path : Path} (h : ofText text = .ok path) :
    path.absolute = isAbsolute text ∧
    path.directories ++ path.last.toList =
      ((pieces '/' text.toList).filter (· ≠ [])).map String.ofList ∧
    ∀ name, path.last = some name → isDots name = false := by
  unfold ofText at h
  extract_lets chars names absolute at h
  split at h
  next => cases h
  next =>
    split at h
    next => cases h
    next =>
      split at h
      next => cases h
      next =>
        split at h
        next nothing =>
          cases h
          exact ⟨rfl, (List.getLast?_eq_none_iff.mp nothing).symm, by simp⟩
        next name last =>
          split at h
          next =>
            cases h
            exact ⟨rfl, List.append_nil _, by simp⟩
          next notDots =>
            cases h
            obtain ⟨others, whole⟩ := List.getLast?_eq_some_iff.mp last
            refine ⟨rfl, ?_, by simpa using notDots⟩
            change names.dropLast ++ [name] = names
            rw [whole, List.dropLast_concat]

/-- The names that a path's text is walked by, without those that lead nowhere. -/
theorem busy_names (text : String) :
    busy (((pieces '/' text.toList).filter (· ≠ [])).map String.ofList) = steps text := by
  unfold steps
  induction pieces '/' text.toList with
  | nil => rfl
  | cons piece rest ih =>
    by_cases gap : piece = []
    · have idle : IsIdle (String.ofList piece) := .inl (by rw [gap])
      rw [List.filter_cons_of_neg (by simpa using gap), ih, List.map_cons, busy_cons_of_idle idle]
    · rw [List.filter_cons_of_pos (by simpa using gap), List.map_cons, List.map_cons]
      by_cases idle : IsIdle (String.ofList piece)
      · rw [busy_cons_of_idle idle, busy_cons_of_idle idle, ih]
      · rw [busy_cons_of_not_idle idle, busy_cons_of_not_idle idle, ih]

end Path

namespace FileSystem

/-- Idle names do not matter to a walk, as long as none is empty. -/
theorem foldlM_enter_busy (fs : FileSystem) {names : List String} (h : "" ∉ names)
    (here : Location) :
    (Path.busy names).foldlM fs.enter here = names.foldlM fs.enter here := by
  induction names generalizing here with
  | nil => rfl
  | cons name rest ih =>
    rw [List.mem_cons, not_or] at h
    by_cases idle : Path.IsIdle name
    · have dot : name = "." := idle.resolve_left (Ne.symm h.1)
      have stays : fs.enter here name = .ok here := by rw [enter, if_pos dot]
      rw [Path.busy_cons_of_idle idle, ih h.2, List.foldlM_cons, stays]
      rfl
    · rw [Path.busy_cons_of_not_idle idle, List.foldlM_cons, List.foldlM_cons]
      cases fs.enter here name with
      | error failure => rfl
      | ok there => exact ih h.2 there

/-- A path's names, walked one after the other from where the path starts. -/
def follow (fs : FileSystem) (text : String) (names : List String) : Except IoFailure Location :=
  names.foldlM fs.enter (if Path.isAbsolute text then [] else fs.working)

theorem start_eq (fs : FileSystem) {text : String} {path : Path} (h : Path.ofText text = .ok path) :
    fs.start path = if Path.isAbsolute text then [] else fs.working := by
  rw [start, (Path.ofText_eq_ok h).1]

theorem follow_of_findDirectory {fs : FileSystem} {text : String} {directory : Location}
    (h : fs.findDirectory text = .ok directory) :
    fs.follow text (Path.steps text) = .ok directory := by
  unfold findDirectory at h
  cases parsed : Path.ofText text with
  | error failure => simp [parsed, bind, Except.bind] at h
  | ok path =>
    obtain ⟨-, names, -⟩ := Path.ofText_eq_ok parsed
    have noGap : "" ∉ path.directories ++ path.last.toList := by
      rw [names]
      simp
    rw [follow, ← Path.busy_names, ← names, foldlM_enter_busy fs noGap, ← fs.start_eq parsed]
    simpa [parsed, bind, Except.bind] using h

theorem follow_of_leads {fs : FileSystem} {text : String} {location : Location}
    (h : fs.Leads text location) :
    ∃ steps parent name, Path.steps text = steps ++ [name] ∧ fs.follow text steps = .ok parent ∧
      location = parent ++ [name] := by
  obtain ⟨path, parent, name, parsed, walked, last, -, -, rfl⟩ := h
  obtain ⟨-, names, plain⟩ := Path.ofText_eq_ok parsed
  rw [last, Option.toList_some] at names
  have noGap : "" ∉ path.directories ++ [name] := by
    rw [names]
    simp
  rw [List.mem_append, not_or] at noGap
  refine ⟨Path.busy path.directories, parent, name, ?_, ?_, rfl⟩
  · have real : ¬ Path.IsIdle name := by
      rintro (rfl | rfl)
      · exact noGap.2 List.mem_cons_self
      · cases plain "." last
    rw [← Path.busy_names, ← names, Path.busy_append, Path.busy_cons_of_not_idle real]
    rfl
  · rw [follow, foldlM_enter_busy fs noGap.1, ← fs.start_eq parsed]
    exact walked

/-- The directory of a path's parent text is the one that the file at the path lies in. -/
theorem findDirectory_of_parentText? {fs : FileSystem} {text parent : String}
    {location directory : Location} (leads : fs.Leads text location)
    (h : Path.parentText? text = some parent)
    (found : fs.findDirectory (Path.directoryText parent) = .ok directory) :
    ∃ name, location = directory ++ [name] := by
  obtain ⟨steps, there, name, whole, followed, rfl⟩ := follow_of_leads leads
  obtain ⟨name', whole'⟩ := Path.steps_of_parentText? h (by simp [whole])
  obtain ⟨same, -⟩ := List.append_inj' (whole.symm.trans whole') rfl
  have followed' := follow_of_findDirectory found
  rw [follow, Path.isAbsolute_of_parentText? h, ← same] at followed'
  exact ⟨name, by rw [Except.ok.inj (followed.symm.trans followed')]⟩

end FileSystem

end FileSeal
