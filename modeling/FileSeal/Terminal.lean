namespace FileSeal

/-- A control sequence for a terminal that has begun and not ended, by what is read of it so far. -/
inductive ControlSequence where
  | escape
  /-- An escape character and what says how the next character is meant. -/
  | intermediate
  /-- A control function, such as a colour. It ends with a letter. -/
  | function
  /-- A command to the operating system, such as a title. It ends with a bell. -/
  | command
  /-- The parameters of a string for a device. -/
  | device
  /-- A string for a device or for a program. The byte 156 ends it, even as a part of a character. -/
  | string
deriving DecidableEq, Repr

namespace ControlSequence

/-- Reads on in a control sequence, up to nothing if the character ends it. -/
def next (c : Char) : ControlSequence → Option ControlSequence
  | escape =>
    if c = '[' then some function
    else if c = ']' then some command
    else if c = 'P' then some device
    else if c = 'X' ∨ c = '^' ∨ c = '_' then some string
    else if ' ' ≤ c ∧ c ≤ '/' then some intermediate
    else if '0' ≤ c ∧ c ≤ '~' then none
    else some escape
  | intermediate => if '0' ≤ c ∧ c ≤ '~' then none else some intermediate
  | function => if '@' ≤ c ∧ c ≤ '~' then none else some function
  | command => if c = '\x07' then none else some command
  | device => if '@' ≤ c ∧ c ≤ '~' then some string else some device
  | string => if (String.utf8EncodeChar c).contains 0x9C then none else some string

/-- Whether a line feed or a tab within the sequence is carried out at once. -/
def interruptible : ControlSequence → Bool
  | escape | intermediate | function => true
  | command | device | string => false

end ControlSequence

namespace Terminal

/-- The control characters that move the place of writing: tab, line feed, form feed and carriage
return. -/
def isMovement (c : Char) : Bool :=
  c == '\t' || c == '\n' || c == '\x0c' || c == '\r'

/-- Whether a character is more than a control character of ASCII. -/
def isShown (c : Char) : Bool :=
  isMovement c || (' ' ≤ c && c ≠ '\x7f')

/-- Where the reading of a text with control sequences stands. -/
structure Place where
  sequence : Option ControlSequence := none
  /-- Whether the text goes on although the sequence has not ended. A movement within a sequence
  brings this about, and a control character that is no movement leads back to the sequence. -/
  interrupted : Bool := false
deriving DecidableEq, Repr

/-- Reads a character, and says whether it is a part of the text. -/
def Place.step (place : Place) (c : Char) : Bool × Place :=
  if c = '\x1b' then (false, { sequence := some .escape })
  else if c = '\x18' ∨ c = '\x1a' then (false, {})
  else match place.sequence with
    | none => (isShown c, {})
    | some sequence =>
      if place.interrupted then
        if '\x80' ≤ c then (true, {})
        else (isShown c, { place with interrupted := isShown c })
      else if sequence.interruptible && isMovement c then (true, { place with interrupted := true })
      else (false, { sequence := sequence.next c })

/-- The text that a terminal shows from some place on. -/
def shownFrom : Place → List Char → List Char
  | _, [] => []
  | place, c :: rest =>
    let (keep, place) := place.step c
    if keep then c :: shownFrom place rest else shownFrom place rest

/-- The text that is left of another one without the control sequences and the control characters
in it. -/
def shown (text : String) : String :=
  String.ofList (shownFrom {} text.toList)

end Terminal

end FileSeal
