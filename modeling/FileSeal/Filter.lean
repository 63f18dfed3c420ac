import FileSeal.Event
import FileSeal.Pattern

namespace FileSeal

/-- One rule about which events are logged. It speaks of events whose target starts in a given way,
which carry a given field, or which happen inside a given span; no event of this program happens
inside a span. -/
structure Directive where
  /-- The most detailed level that is logged, as its number; 0 logs nothing. -/
  level : Nat := 5
  target : Option String := none
  span : Option String := none
  /-- The name of a field, and whether a value is asked of it. -/
  field : Option (String × Bool) := none
deriving DecidableEq

namespace Directive

/-- The number of a level given by its number or its name, in capitals or not. -/
def levelOf? (text : List Char) : Option Nat :=
  let digits := match text with
    | '+' :: rest => rest
    | _ => text
  if digits ≠ [] ∧ digits.all Char.isDigit then
    let number := digits.foldl (fun n c => 10 * n + (c.toNat - '0'.toNat)) 0
    if number ≤ 5 then some number else none
  else
    [("off", 0), ("error", 1), ("warn", 2), ("info", 3), ("debug", 4), ("trace", 5)].lookup
      (String.ofList (text.map Char.toLower))

/-- Where the reading of a directive stands. A number is the position where a part began. -/
inductive Place where
  | start
  | levelOrTarget (start : Nat)
  | span (start : Nat)
  | field (start : Nat)
  | fieldDone
  | spanDone
  | level (start : Nat)
deriving DecidableEq

/-- A directive starts with a letter, a number or one of three other characters. -/
def isOpening (c : Char) : Bool :=
  isAlphanumeric c || c == '-' || c == ':' || c == '_'

/-- Whether a text starts with digits that make it a decimal number, with a fraction and an exponent
or without. -/
def isDecimal (text : List Char) : Bool :=
  let whole := text.takeWhile Char.isDigit
  let (fraction, rest) := match text.dropWhile Char.isDigit with
    | '.' :: rest => (rest.takeWhile Char.isDigit, rest.dropWhile Char.isDigit)
    | rest => ([], rest)
  let exponent (digits : List Char) : Bool := digits ≠ [] && digits.all Char.isDigit
  whole ++ fraction ≠ [] && match rest with
    | [] => true
    | e :: '+' :: digits | e :: '-' :: digits => e.toLower == 'e' && exponent digits
    | e :: digits => e.toLower == 'e' && exponent digits

/-- Whether a text is a number with a sign or without, infinity among the numbers. -/
def isNumber (text : List Char) : Bool :=
  let size := match text with
    | '+' :: rest | '-' :: rest => rest
    | _ => text
  isDecimal size || ["inf", "infinity", "nan"].contains (String.ofList (size.map Char.toLower))

/-- Reads a field: its name, and whether a value is asked of it. The value ends at a second equals
sign, and is a number or a pattern. -/
def fieldOf? (text : List Char) : Option (String × Bool) :=
  let name := String.ofList (text.takeWhile (· ≠ '='))
  match text.dropWhile (· ≠ '=') with
  | [] => if text = [] then none else some (name, false)
  | _ :: rest =>
    let value := rest.takeWhile (· ≠ '=')
    if isNumber value || Pattern.isValid value then some (name, true) else none

/-- Reads the character at a position. The function gives the part of the text between two
positions. -/
def step (part : Nat → Nat → List Char) (state : Place × Directive) (item : Char × Nat) :
    Option (Place × Directive) :=
  let (c, i) := item
  let (place, directive) := state
  match place with
  | .start =>
    if c = '[' then some (.span (i + 1), directive)
    else if isOpening c then some (.levelOrTarget i, directive)
    else none
  | .levelOrTarget start =>
    let target := some (String.ofList (part start i))
    if c = '=' then some (.level (i + 1), { directive with target })
    else if c = '[' then some (.span (i + 1), { directive with target })
    else some state
  | .span start =>
    let name := String.ofList (part start i)
    if c = ']' then some (.spanDone, { directive with span := some name })
    else if c = '\x7b' then
      some (.field (i + 1), { directive with span := if name = "" then none else some name })
    else some state
  | .field start =>
    if c = '\x7d' then
      (fieldOf? (part start i)).map fun field => (.fieldDone, { directive with field := some field })
    else some state
  | .fieldDone => if c = ']' then some (.spanDone, directive) else none
  | .spanDone => if c = '=' then some (.level (i + 1), directive) else none
  | .level _ => some state

/-- Completes a directive whose characters have all been read. A target without a level logs
everything. -/
def finish (part : Nat → List Char) : Place × Directive → Option Directive
  | (.levelOrTarget start, directive) =>
    let text := part start
    match levelOf? text with
    | some level => some { directive with level }
    | none => some { directive with target := some (String.ofList text) }
  | (.level start, directive) =>
    let text := part start
    if text = [] then some directive
    else (levelOf? text).map fun level => { directive with level }
  | (.spanDone, directive) => some directive
  | _ => none

/-- The characters with their positions, which count bytes. -/
def positions : Nat → List Char → List (Char × Nat)
  | _, [] => []
  | position, c :: rest => (c, position) :: positions (position + c.utf8Size) rest

def partFrom (text : List Char) (start : Nat) : List Char :=
  ((positions 0 text).filter (start ≤ ·.2)).map Prod.fst

def partBetween (text : List Char) (start stop : Nat) : List Char :=
  ((positions 0 text).filter fun item => start ≤ item.2 ∧ item.2 < stop).map Prod.fst

/-- Reads a directive. The positions are counted without the blanks around the directive, and the
parts are then taken from the text with them. -/
def ofText? (text : List Char) : Option Directive :=
  ((positions 0 (trim text)).foldlM (step (partBetween text)) (.start, {})).bind
    (finish (partFrom text))

/-- Whether the directive decides about events at all: one about a span or about the value of a
field only ever decides about what happens inside a span. -/
def isStatic (directive : Directive) : Bool :=
  directive.span.isNone && !directive.field.any Prod.snd

def concerns (directive : Directive) (event : Event) : Bool :=
  directive.target.all (·.isPrefixOf event.target) &&
    directive.field.all fun (name, _) => name == "message" || event.fields.any (·.1 == name)

/-- Whether the first directive comes before the second: the longer target first, then a field
before none. -/
def outranks (x y : Directive) : Bool :=
  let length (d : Directive) : Nat := d.target.elim 0 (·.utf8ByteSize + 1)
  if length x = length y then
    match x.field, y.field with
    | some (a, _), some (b, _) => b < a
    | some _, none => true
    | none, _ => false
  else length y < length x

/-- The directive that decides about an event. Of two equal ones the later decides. -/
def decisive (directives : List Directive) (event : Event) : Option Directive :=
  (directives.filter fun d => d.isStatic && d.concerns event).foldl
    (fun best d => match best with
      | some b => if b.outranks d then best else some d
      | none => some d) none

end Directive

abbrev Filter := List Directive

namespace Filter

def ofText? (text : String) : Option Filter :=
  ((pieces ',' text.toList).filter (· ≠ [])).mapM Directive.ofText?

/-- Warnings at first, and one level more each time that more is asked for. -/
def ofVerbosity (verbosity : Nat) : Filter :=
  [{ level := min (verbosity + 2) 5 }]

/-- The filter that a text asks for, if there is one and it can be read. -/
def choose (text : Option String) (verbosity : Nat) : Filter :=
  (text.bind ofText?).getD (ofVerbosity verbosity)

def allows (filter : Filter) (event : Event) : Bool :=
  match Directive.decisive filter event with
  | some directive => event.level.rank ≤ directive.level
  | none => false

end Filter

end FileSeal
