import FileSeal.Proofs.Update

namespace FileSeal

/-- Two results that are the same failure, or two values that are related. -/
inductive Agree {ε α β : Type} (related : α → β → Prop) : Except ε α → Except ε β → Prop
  | error (e : ε) : Agree related (.error e) (.error e)
  | ok {a : α} {b : β} (h : related a b) : Agree related (.ok a) (.ok b)

namespace Agree

variable {ε ε' α β α' β' : Type} {related : α → β → Prop} {related' : α' → β' → Prop}
  {x : Except ε α} {y : Except ε β}

theorem of_eq {x y : Except ε α} (same : x = y) : Agree Eq x y := by
  subst same
  cases x with
  | error e => exact .error e
  | ok a => exact .ok rfl

theorem eq {x y : Except ε α} (h : Agree Eq x y) : x = y := by
  cases h with
  | error e => rfl
  | ok same => rw [same]

theorem bind {f : α → Except ε α'} {g : β → Except ε β'} (h : Agree related x y)
    (next : ∀ a b, related a b → Agree related' (f a) (g b)) :
    Agree related' (x >>= f) (y >>= g) := by
  cases h with
  | error e => exact .error e
  | ok h => exact next _ _ h

theorem mapError (h : Agree related x y) (f : ε → ε') :
    Agree related (x.mapError f) (y.mapError f) := by
  cases h with
  | error e => exact .error (f e)
  | ok h => exact .ok h

theorem of_ok {a : α} {b : β}
    (h : Agree related (.ok a : Except ε α) (.ok b : Except ε β)) : related a b := by
  cases h with
  | ok h => exact h

theorem imp {related' : α → β → Prop} (h : Agree related x y)
    (next : ∀ a b, x = .ok a → y = .ok b → related a b → related' a b) : Agree related' x y := by
  cases h with
  | error e => exact .error e
  | ok h => exact .ok (next _ _ rfl rfl h)

end Agree

/-- Two results that fail alike or not at all. -/
abbrev FailAlike {ε α β : Type} (x : Except ε α) (y : Except ε β) : Prop :=
  Agree (fun _ _ => True) x y

/-- Two results that fail alike or give bytes of one length. -/
abbrev SameLength {ε : Type} (x y : Except ε Bytes) : Prop :=
  Agree (fun bytes bytes' : Bytes => bytes.length = bytes'.length) x y

namespace FileSystem

/-- What two trees of one shape have at a location: nothing, or directories, or files of one size,
with the same permission bits. -/
inductive SameNode : Option Node → Option Node → Prop
  | none : SameNode none none
  | directory (mode : Nat) : SameNode (some (.directory mode)) (some (.directory mode))
  | file (mode : Nat) {bytes bytes' : Bytes} (length : bytes.length = bytes'.length) :
      SameNode (some (.file mode bytes)) (some (.file mode bytes'))

/-- Two trees with the same paths, permission bits and sizes. The contents of files may differ. -/
structure SameShape (fs fs' : FileSystem) : Prop where
  working : fs.working = fs'.working
  nodes : ∀ location, SameNode (fs.node? location) (fs'.node? location)

variable {fs fs' : FileSystem}

namespace SameShape

theorem refl (fs : FileSystem) : SameShape fs fs := by
  refine ⟨rfl, fun location => ?_⟩
  rcases fs.node? location with _ | _ | _
  · exact .none
  · exact .directory _
  · exact .file _ rfl

theorem put (same : SameShape fs fs') {location : Location} (below : location ≠ [])
    (mode : Nat) {bytes bytes' : Bytes} (length : bytes.length = bytes'.length) :
    SameShape (fs.put location (.file mode bytes)) (fs'.put location (.file mode bytes')) := by
  refine ⟨same.working, fun other => ?_⟩
  rw [node?_put fs below, node?_put fs' below]
  by_cases here : other = location
  · rw [if_pos here, if_pos here]
    exact .file mode length
  · rw [if_neg here, if_neg here]
    exact same.nodes other

theorem sameDirectories (same : SameShape fs fs') : SameDirectories fs fs' := by
  refine ⟨same.working, fun location mode => ?_⟩
  have node := same.nodes location
  generalize fs.node? location = n, fs'.node? location = n' at node
  cases node <;> simp

theorem enter (same : SameShape fs fs') : fs.enter = fs'.enter := by
  funext here name
  unfold FileSystem.enter
  have node := same.nodes (here ++ [name])
  generalize fs.node? (here ++ [name]) = n, fs'.node? (here ++ [name]) = n' at node
  cases node <;> rfl

theorem start (same : SameShape fs fs') (path : Path) : fs.start path = fs'.start path := by
  unfold FileSystem.start
  rw [same.working]

theorem walk (same : SameShape fs fs') (path : Path) : fs.walk path = fs'.walk path := by
  unfold FileSystem.walk
  rw [same.enter, same.start]

theorem findDirectory (same : SameShape fs fs') (text : String) :
    fs.findDirectory text = fs'.findDirectory text := by
  unfold FileSystem.findDirectory
  simp only [same.enter, same.start]

/-- What is found under a path, in two trees of one shape. -/
def Found : Location × Nat × Bytes → Location × Nat × Bytes → Prop
  | (location, mode, bytes), (location', mode', bytes') =>
    location = location' ∧ mode = mode' ∧ bytes.length = bytes'.length

theorem find (same : SameShape fs fs') (text : String) :
    Agree Found (fs.find text) (fs'.find text) := by
  unfold FileSystem.find
  refine (Agree.of_eq rfl).bind fun path _ (.refl _) => ?_
  refine (Agree.of_eq (same.walk path)).bind fun parent _ (.refl _) => ?_
  cases path.last with
  | none => exact .error _
  | some name =>
    dsimp only
    split
    next => exact .error _
    next =>
      have node := same.nodes (parent ++ [name])
      generalize fs.node? (parent ++ [name]) = n, fs'.node? (parent ++ [name]) = n' at node
      cases node with
      | none => exact .error _
      | directory mode => exact .error _
      | file mode length =>
        dsimp only
        split
        next => exact .error _
        next => exact .ok ⟨rfl, rfl, length⟩

theorem read (same : SameShape fs fs') (text : String) :
    SameLength (fs.read text) (fs'.read text) := by
  unfold FileSystem.read
  refine (same.find text).bind fun (_, mode, bytes) (_, mode', bytes') found => ?_
  obtain ⟨-, rfl, length⟩ := found
  dsimp only
  cases ownerReads mode with
  | true => exact .ok length
  | false => exact .error _

theorem findWritable (same : SameShape fs fs') (text : String) :
    fs.findWritable text = fs'.findWritable text := by
  apply Agree.eq
  unfold FileSystem.findWritable
  refine (Agree.of_eq rfl).bind fun path _ (.refl _) => ?_
  refine (Agree.of_eq (same.walk path)).bind fun parent _ (.refl _) => .of_eq ?_
  cases path.last with
  | none => rfl
  | some name =>
    have node := same.nodes (parent ++ [name])
    dsimp only
    generalize fs.node? (parent ++ [name]) = n, fs'.node? (parent ++ [name]) = n' at node
    cases node <;> rfl

theorem findTemporary (same : SameShape fs fs') (directory : String) (endings : List String) :
    fs.findTemporary directory endings = fs'.findTemporary directory endings := by
  have vacant : ∀ location, (fs.node? location).isNone = (fs'.node? location).isNone := by
    intro location
    have node := same.nodes location
    generalize fs.node? location = n, fs'.node? location = n' at node
    cases node <;> rfl
  unfold FileSystem.findTemporary FileSystem.workingText
  simp only [same.working, same.findDirectory, vacant]

end SameShape

/-- The names that a temporary file may get play a part only once there is a directory for it. -/
theorem exists_findTemporary (fs : FileSystem) (directory : String) :
    ∃ start : Except IoFailure Location, ∀ endings, fs.findTemporary directory endings =
      start >>= fun parent =>
        match endings.find? fun ending =>
          (fs.node? (parent ++ [temporaryStem ++ ending])).isNone with
        | none => .error .namesExhausted
        | some ending => .ok (parent ++ [temporaryStem ++ ending]) := by
  let stem := Path.join (Path.join fs.workingText directory) temporaryStem
  by_cases long : Path.limit ≤ stem.utf8ByteSize + 6
  · exact ⟨.error .nameTooLong, fun endings => if_pos long⟩
  · exact ⟨fs.findDirectory directory, fun endings => if_neg long⟩

/-- With different names to choose from there is a place for a temporary file in both trees or in
none, unless the names of one run are all taken. -/
theorem SameShape.failAlike_findTemporary (same : SameShape fs fs') {directory : String}
    {endings endings' : List String}
    (left : fs.findTemporary directory endings ≠ .error .namesExhausted)
    (left' : fs'.findTemporary directory endings' ≠ .error .namesExhausted) :
    FailAlike (fs.findTemporary directory endings) (fs'.findTemporary directory endings') := by
  obtain ⟨start, form⟩ := fs'.exists_findTemporary directory
  rw [same.findTemporary] at left ⊢
  rw [form] at left left' ⊢
  rw [form]
  cases start with
  | error failure => exact .error failure
  | ok parent =>
    simp only [bind, Except.bind] at left left' ⊢
    generalize endings.find? _ = chosen at left ⊢
    generalize endings'.find? _ = chosen' at left' ⊢
    cases chosen with
    | none => exact absurd rfl left
    | some ending =>
      cases chosen' with
      | none => exact absurd rfl left'
      | some ending' => exact .ok trivial

/-- A path that does not have a name among its components. -/
def Avoids (text name : String) : Prop :=
  ∀ path, Path.ofText text = .ok path → name ∉ path.directories ∧ path.last ≠ some name

section UnnamedPlace

variable {parent : Location} {name : String} {node : Node}

theorem node?_put_unnamed {here : Location} {other : String} (ne : other ≠ name) :
    (fs.put (parent ++ [name]) node).node? (here ++ [other]) = fs.node? (here ++ [other]) := by
  apply node?_put_of_ne fs (by simp)
  intro same
  exact ne (List.singleton_inj.mp (List.append_inj' same rfl).2)

theorem enter_put_unnamed {other : String} (ne : other ≠ name) (here : Location) :
    (fs.put (parent ++ [name]) node).enter here other = fs.enter here other := by
  unfold enter
  rw [node?_put_unnamed ne]

theorem foldlM_enter_put_unnamed {names : List String} (absent : name ∉ names)
    (here : Location) :
    names.foldlM (fs.put (parent ++ [name]) node).enter here = names.foldlM fs.enter here := by
  induction names generalizing here with
  | nil => rfl
  | cons other names ih =>
    rw [List.mem_cons, not_or] at absent
    rw [List.foldlM_cons, List.foldlM_cons, enter_put_unnamed (Ne.symm absent.1)]
    exact bind_congr fun there => ih absent.2 there

/-- What has come to a place that a path does not name makes no difference to what the path leads
to. -/
theorem read_put_unnamed {text : String} (avoids : Avoids text name) :
    (fs.put (parent ++ [name]) node).read text = fs.read text := by
  have found : (fs.put (parent ++ [name]) node).find text = fs.find text := by
    unfold find
    cases parsed : Path.ofText text with
    | error failure => rfl
    | ok path =>
      obtain ⟨absent, notLast⟩ := avoids path parsed
      have walked : (fs.put (parent ++ [name]) node).walk path = fs.walk path :=
        foldlM_enter_put_unnamed absent _
      simp only [bind, Except.bind, walked]
      cases fs.walk path with
      | error failure => rfl
      | ok here =>
        dsimp only
        cases last : path.last with
        | none => rfl
        | some other =>
          have ne : other ≠ name := fun same => notLast (same ▸ last)
          dsimp only
          rw [node?_put_unnamed ne]
  unfold read
  rw [found]

end UnnamedPlace

end FileSystem

end FileSeal
