import FileSeal.Fault

namespace FileSeal

/-- An error as it is met on the way down a failure: a failure with all that lies under it, or an
input or output failure, which may have been made out of a failure. -/
inductive Link where
  | ofFault (fault : Fault)
  | ofIo (failure : IoFailure)
  | ofIoFrom (kind : IoKind) (inner : Fault)

namespace Link

/-- What the link itself says. -/
def cause : Link → Cause
  | .ofFault fault => .report fault.report
  | .ofIo failure => .io failure
  | .ofIoFrom kind inner => .io ⟨kind, inner.message⟩

/-- The error right under a failure. -/
def under? : Fault → Option Link
  | .plain _ => none
  | .ofIo _ failure => some (.ofIo failure)
  | .ofIoFrom _ kind inner => some (.ofIoFrom kind inner)
  | .wrap _ under => some (.ofFault under)

/-- The error right under the link. -/
def source? : Link → Option Link
  | .ofFault fault => under? fault
  | .ofIo _ => none
  | .ofIoFrom _ inner => under? inner

/-- What the link and all that lies under it say, from the top down. -/
def chain : Link → List Cause
  | .ofFault fault => .report fault.report :: fault.causes
  | .ofIo failure => [.io failure]
  | .ofIoFrom kind inner => .io ⟨kind, inner.message⟩ :: inner.causes

/-- What an error says that may be there. -/
def chainOf (link : Option Link) : List Cause := (link.map chain).getD []

theorem causes_eq (fault : Fault) : fault.causes = chainOf (under? fault) := by
  cases fault <;> rfl

theorem chain_eq (link : Link) : link.chain = link.cause :: chainOf link.source? := by
  cases link with
  | ofFault fault => rw [chain, source?, ← causes_eq, cause]
  | ofIo failure => rfl
  | ofIoFrom kind inner => rw [chain, source?, ← causes_eq, cause]

theorem chainOf_eq_nil_iff {link : Option Link} : chainOf link = [] ↔ link = none := by
  cases link with
  | none => simp [chainOf]
  | some link => simp [chainOf, chain_eq]

end Link

/-- A failure that is being printed: the text so far, and the error to go on with. -/
structure Printing where
  text : String
  next : Option Link

namespace Printing

open Link

/-- The message of a failure, before anything under it has been looked at. -/
def start (fault : Fault) : Printing := ⟨fault.message, under? fault⟩

/-- One round adds the text of the next error, and goes on with what is under that. There is none
at the end of the chain. -/
def round? (p : Printing) : Option Printing :=
  p.next.map fun link => ⟨p.text ++ ": " ++ link.cause.text, link.source?⟩

/-- What has become after a number of rounds, if there are as many. -/
def after? : Nat → Printing → Option Printing
  | 0, p => some p
  | n + 1, p => p.round?.bind (after? n)

/-- The text so far, and all that is still to come. -/
def whole (p : Printing) : String :=
  ": ".intercalate (p.text :: (chainOf p.next).map Cause.text)

theorem round?_eq_none_iff {p : Printing} : p.round? = none ↔ chainOf p.next = [] := by
  rw [round?, Option.map_eq_none_iff, chainOf_eq_nil_iff]

/-- A round moves one text from what is to come to what is there, and changes nothing else. -/
theorem of_round? {p p' : Printing} (h : p.round? = some p') :
    (chainOf p.next).length = (chainOf p'.next).length + 1 ∧ p'.whole = p.whole := by
  obtain ⟨link, next, rfl⟩ := Option.map_eq_some_iff.mp h
  have unfolded : chainOf p.next = link.cause :: chainOf link.source? := by
    rw [next]
    exact chain_eq link
  constructor
  · rw [unfolded, List.length_cons]
  · rw [whole, whole, unfolded, List.map_cons, String.intercalate_cons_cons,
      String.intercalate_cons_append]

/-- The printing ends after as many rounds as there are causes, with the whole text. -/
theorem after?_length (p : Printing) :
    p.after? (chainOf p.next).length = some ⟨p.whole, none⟩ := by
  -- Each round leaves one cause less, so that their number carries the induction.
  induction left : (chainOf p.next).length generalizing p with
  | zero =>
    have done : chainOf p.next = [] := List.eq_nil_of_length_eq_zero left
    rw [after?, whole, done, List.map_nil, String.intercalate_singleton,
      ← chainOf_eq_nil_iff.mp done]
  | succ n ih =>
    cases turn : p.round? with
    | none =>
      rw [round?_eq_none_iff.mp turn] at left
      cases left
    | some p' =>
      obtain ⟨shorter, same⟩ := of_round? turn
      have left' : (chainOf p'.next).length = n := Nat.succ.inj (shorter.symm.trans left)
      rw [after?, turn, Option.bind_some, ih p' left', same]

end Printing

namespace Fault

theorem whole_start (fault : Fault) : (Printing.start fault).whole = fault.description := by
  rw [Printing.whole, Printing.start, ← Link.causes_eq]
  rfl

/-- The description is what the printing ends with. -/
theorem after?_start (fault : Fault) :
    (Printing.start fault).after? fault.causes.length = some ⟨fault.description, none⟩ := by
  have ended := Printing.after?_length (.start fault)
  rwa [Printing.start, ← Link.causes_eq, ← Printing.start, whole_start] at ended

variable (fault : Fault) (contexts : List String)

/-- Contexts stand above all that was there before, the last one on top. -/
theorem chain_contexts :
    (Link.ofFault (contexts.foldl withContext fault)).chain =
      contexts.reverse.map (fun context => .report { fault.report with message := context }) ++
        (Link.ofFault fault).chain := by
  induction contexts generalizing fault with
  | nil => rfl
  | cons context rest ih =>
    rw [List.foldl_cons, ih, List.reverse_cons, List.map_append, List.append_assoc]
    rfl

theorem report_contexts :
    (contexts.foldl withContext fault).report =
      { fault.report with message := contexts.getLast?.getD fault.message } := by
  induction contexts generalizing fault with
  | nil => rfl
  | cons context rest ih =>
    rw [List.foldl_cons, ih, report_withContext, List.getLast?_cons]
    rfl

/-- A description puts the texts of the chain together. -/
theorem description_eq :
    fault.description = ": ".intercalate ((Link.ofFault fault).chain.map Cause.text) := rfl

theorem description_contexts :
    (contexts.foldl withContext fault).description =
      ": ".intercalate (contexts.reverse ++ [fault.description]) := by
  have texts : (contexts.reverse.map fun context =>
      Cause.report { fault.report with message := context }).map Cause.text = contexts.reverse := by
    rw [List.map_map]
    exact List.map_id _
  rw [description_eq, chain_contexts, List.map_append, texts]
  cases contexts with
  | nil => rfl
  | cons context rest =>
    have some_context : (context :: rest).reverse ≠ [] := by simp
    rw [String.intercalate_append_of_ne_nil some_context (by simp [Link.chain]),
      String.intercalate_append_of_ne_nil some_context (by simp), ← description_eq,
      String.intercalate_singleton]

/-- However a failure came about and whatever contexts are put around it, one after the other, it
keeps its category and its kind, and so what it counts as. The contexts stand above all that it said
before, each with that category and kind, the last one on top; nothing in the chain is lost or
changes its place. The printing of the chain comes to an end after as many rounds as there are
causes, with the contexts, the last one first, in front of what it prints for the failure alone. -/
theorem contexts_stand_above :
    let wrapped := contexts.foldl withContext fault
    wrapped.category = fault.category ∧ wrapped.kind = fault.kind ∧
    wrapped.isFormat = fault.isFormat ∧ wrapped.isIntegrity = fault.isIntegrity ∧
    wrapped.isKey = fault.isKey ∧
    wrapped.message = contexts.getLast?.getD fault.message ∧
    .report wrapped.report :: wrapped.causes =
      contexts.reverse.map (fun context => .report ⟨fault.category, fault.kind, context⟩) ++
        .report fault.report :: fault.causes ∧
    (Printing.start wrapped).after? wrapped.causes.length = some ⟨wrapped.description, none⟩ ∧
    wrapped.description = ": ".intercalate (contexts.reverse ++ [fault.description]) := by
  intro wrapped
  have report : wrapped.report =
      ⟨fault.category, fault.kind, contexts.getLast?.getD fault.message⟩ :=
    fault.report_contexts contexts
  have kind : wrapped.kind = fault.kind := by rw [Fault.kind, report]
  refine ⟨by rw [category, report], kind, ?_, ?_, ?_, by rw [message, report],
    fault.chain_contexts contexts, wrapped.after?_start, fault.description_contexts contexts⟩
  · rw [isFormat, kind, isFormat]
  · rw [isIntegrity, kind, isIntegrity]
  · rw [isKey, kind, isKey]

end Fault

end FileSeal
