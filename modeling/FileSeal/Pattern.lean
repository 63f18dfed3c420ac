import FileSeal.Alphanumeric
import FileSeal.Text

namespace FileSeal

namespace Pattern

/-- How a part of a pattern is meant. Flags in the pattern change it. -/
structure Mode where
  /-- Blanks are left out, and so is what follows a `#` on its line. -/
  spaced : Bool := false
  /-- Capitals and small letters count as the same. -/
  folding : Bool := false
  /-- The pattern is one of characters. Otherwise it is one of bytes, which has to keep to ASCII for
  what it matches to be text. -/
  unicode : Bool := true
deriving DecidableEq, Repr

/-- The text without the blanks and comments in front; the flag says whether it starts within a
comment. -/
def skipBlanks : Bool → List Char → List Char
  | _, [] => []
  | true, c :: rest => skipBlanks (c ≠ '\n') rest
  | false, c :: rest =>
    if isBlank c then skipBlanks false rest
    else if c = '#' then skipBlanks true rest
    else c :: rest

namespace Mode

/-- The text from the next character that counts. -/
def skip (mode : Mode) (text : List Char) : List Char :=
  if mode.spaced then skipBlanks false text else text

/-- The character after a hyphen, which decides whether the hyphen makes a range. Blanks are passed
over, but of a comment only its sign. -/
def afterHyphen? (mode : Mode) (text : List Char) : Option Char :=
  if mode.spaced then
    (match text.dropWhile isBlank with
      | '#' :: rest => (rest.dropWhile isBlank).head?
      | rest => rest.head?).or text.head?
  else text.head?

/-- The mode after a flag has been turned on or off. The other flags change what a pattern matches,
but not whether it is one. -/
def set (mode : Mode) (flag : Char) (value : Bool) : Mode :=
  match flag with
  | 'x' => { mode with spaced := value }
  | 'i' => { mode with folding := value }
  | 'u' => { mode with unicode := value }
  | _ => mode

end Mode

/-- What a character or an escape in a pattern stands for. -/
inductive Symbol where
  /-- A character, and whether it is written as the number of a byte. -/
  | literal (c : Char) (byte : Bool)
  /-- The digits, the blanks or the characters of words, or all characters but these. -/
  | family (complement : Bool)
  /-- The start or the end of the text. -/
  | edge
  /-- A place next to a word, or any place but those. -/
  | wordEdge
deriving DecidableEq, Repr

namespace Symbol

/-- Whether a symbol can stand in a pattern. No tables of families, of words or of the folding of
case are at hand for characters; for bytes there are those of ASCII. -/
def isAllowed (mode : Mode) : Symbol → Bool
  | literal c byte =>
    if mode.unicode then !mode.folding else !byte || c.toNat < 0x80
  | family complement => !mode.unicode && !complement
  | edge => true
  | wordEdge => !mode.unicode

/-- Whether a symbol can stand between brackets. -/
def isMember (mode : Mode) : Symbol → Bool
  | literal c _ => if mode.unicode then !mode.folding else c.toNat < 0x80
  | family complement => !mode.unicode && !complement
  | edge | wordEdge => false

end Symbol

def hexDigit? (c : Char) : Option Nat :=
  if c.isDigit then some (c.toNat - '0'.toNat)
  else if 'a' ≤ c ∧ c ≤ 'f' then some (c.toNat - 'a'.toNat + 10)
  else if 'A' ≤ c ∧ c ≤ 'F' then some (c.toNat - 'A'.toNat + 10)
  else none

/-- Reads the character whose number is written with a given count of hexadecimal digits. The number
starts with what has been read of it. -/
def readNumber (mode : Mode) : Nat → Nat → List Char → Option (Char × List Char)
  | 0, number, text => if number.isValidChar then some (Char.ofNat number, text) else none
  | count + 1, number, text =>
    match mode.skip text with
    | [] => none
    | c :: rest => do readNumber mode count (16 * number + (← hexDigit? c)) rest

def readEscape (mode : Mode) : List Char → Option (Symbol × List Char)
  | [] => none
  | c :: rest =>
    match c with
    | 'x' => (readNumber mode 2 0 rest).map fun (c, rest) => (.literal c true, rest)
    | 'u' => (readNumber mode 4 0 rest).map fun (c, rest) => (.literal c false, rest)
    | 'U' => (readNumber mode 8 0 rest).map fun (c, rest) => (.literal c false, rest)
    | 'd' | 's' | 'w' => some (.family false, rest)
    | 'D' | 'S' | 'W' => some (.family true, rest)
    | 'A' | 'z' => some (.edge, rest)
    | 'b' | 'B' | '<' | '>' => some (.wordEdge, rest)
    | 'a' => some (.literal '\x07' false, rest)
    | 'f' => some (.literal '\x0c' false, rest)
    | 'n' => some (.literal '\n' false, rest)
    | 'r' => some (.literal '\r' false, rest)
    | 't' => some (.literal '\t' false, rest)
    | 'v' => some (.literal '\x0b' false, rest)
    | _ => if c.toNat < 0x80 ∧ ¬ c.isAlphanum then some (.literal c false, rest) else none

def readSymbol (mode : Mode) : List Char → Option (Symbol × List Char)
  | [] => none
  | '\\' :: rest => readEscape mode rest
  | c :: rest => some (.literal c false, rest)

/-- How deeply parts are nested that follow one another. A single part is not wrapped. -/
def sequenceDepth : List Nat → Nat
  | [] => 0
  | [depth] => depth
  | depths => depths.foldl max 0 + 1

/-- A set between brackets, as far as it has been read. -/
structure Brackets where
  /-- How deeply the set before the last operator is nested. -/
  before : Option Nat := none
  /-- How deeply the members after it are nested. -/
  members : List Nat := []
  /-- Whether nothing but hyphens has been read. -/
  fresh : Bool := true
deriving DecidableEq, Repr

namespace Brackets

def add (brackets : Brackets) (depth : Nat) : Brackets :=
  { brackets with members := depth :: brackets.members }

def depth (brackets : Brackets) : Nat :=
  match brackets.before with
  | none => sequenceDepth brackets.members
  | some depth => max depth (sequenceDepth brackets.members) + 1

/-- The names of sets of ASCII characters. -/
def families : List String :=
  ["alnum", "alpha", "ascii", "blank", "cntrl", "digit", "graph", "lower", "print", "punct",
    "space", "upper", "word", "xdigit"]

/-- Reads a named set after its opening bracket: whether it is a complement, and what follows it. -/
def readFamily : List Char → Option (Bool × List Char)
  | ':' :: rest =>
    let complement := rest.head? = some '^'
    let body := if complement then rest.tail else rest
    match body.dropWhile (· ≠ ':') with
    | ':' :: ']' :: after =>
      if families.contains (String.ofList (body.takeWhile (· ≠ ':'))) then
        some (complement, after)
      else none
    | _ => none
  | _ => none

/-- Reads what follows an opening bracket and precedes the members. -/
def readOpening (mode : Mode) (text : List Char) : Option (List Char) :=
  match mode.skip text with
  | '^' :: rest => if mode.unicode then some rest else none
  | rest => some rest

/-- Reads a member: a symbol, or two of them with a hyphen between. -/
def readMember (mode : Mode) (text : List Char) : Option (List Char) := do
  let (first, rest) ← readSymbol mode text
  let single := if first.isMember mode then some (mode.skip rest) else none
  match mode.skip rest with
  | [] => none
  | '-' :: after =>
    if mode.afterHyphen? after = some ']' ∨ mode.afterHyphen? after = some '-' then single
    else
      let (last, rest) ← readSymbol mode (mode.skip after)
      match first, last with
      | .literal a _, .literal b _ =>
        if a ≤ b ∧ first.isMember mode ∧ last.isMember mode then some rest else none
      | _, _ => none
  | _ => single

/-- Reads on in a set between brackets, with those around it. Gives how deeply the outermost is
nested, and what follows it. Each step takes one character at least, and the first argument
bounds the number of steps. -/
def read (mode : Mode) : Nat → Brackets → List Brackets → List Char → Option (Nat × List Char)
  | 0, _, _, _ => none
  | steps + 1, brackets, outer, text =>
    match mode.skip text with
    | [] => none
    | c :: rest =>
      if brackets.fresh ∧ (c = '-' ∨ (c = ']' ∧ brackets.members = [])) then
        if (Symbol.literal c false).isMember mode then
          read mode steps { brackets.add 0 with fresh := c = '-' } outer rest
        else none
      else
        let brackets := { brackets with fresh := false }
        match c, rest with
        | '[', _ =>
          match readFamily rest with
          | some (complement, rest) =>
            if (if mode.unicode then !mode.folding else !complement) then
              read mode steps (brackets.add 0) outer rest
            else none
          | none => do read mode steps {} (brackets :: outer) (← readOpening mode rest)
        | ']', _ =>
          match outer with
          | [] => some (brackets.depth + 1, rest)
          | enclosing :: outer => read mode steps (enclosing.add (brackets.depth + 1)) outer rest
        | '&', '&' :: rest | '-', '-' :: rest | '~', '~' :: rest =>
          read mode steps { before := brackets.depth, fresh := false } outer rest
        | _, _ => do read mode steps (brackets.add 0) outer (← readMember mode (c :: rest))

end Brackets

/-- A part of a pattern: how deeply it is nested, and whether it can be repeated. -/
structure Part where
  depth : Nat
  repeatable : Bool := true
deriving DecidableEq, Repr

/-- The pattern, or a group in it, as far as it has been read. -/
structure Group where
  /-- How deeply the alternatives are nested that are complete. -/
  alternatives : List Nat := []
  /-- The parts of the last alternative, the last part first. -/
  parts : List Part := []
  mode : Mode := {}
deriving DecidableEq, Repr

namespace Group

def add (group : Group) (part : Part) : Group :=
  { group with parts := part :: group.parts }

def alternate (group : Group) : Group :=
  { group with
    alternatives := sequenceDepth (group.parts.map Part.depth) :: group.alternatives
    parts := [] }

def depth (group : Group) : Nat :=
  let last := sequenceDepth (group.parts.map Part.depth)
  if group.alternatives = [] then last else group.alternatives.foldl max last + 1

end Group

/-- What has been read of a pattern: the innermost group that is open, those around it, and the names
of groups. -/
structure Progress where
  group : Group := {}
  outer : List Group := []
  names : List (List Char) := []
deriving DecidableEq, Repr

namespace Progress

def mode (p : Progress) : Mode := p.group.mode

def add (p : Progress) (part : Part) : Progress :=
  { p with group := p.group.add part }

def enter (p : Progress) (mode : Mode) : Progress :=
  { p with group := { mode }, outer := p.group :: p.outer }

/-- Closes a group. What its flags changed holds no longer. -/
def leave? (p : Progress) : Option Progress :=
  match p.outer with
  | [] => none
  | enclosing :: outer =>
    some { p with group := enclosing.add { depth := p.group.depth + 1 }, outer }

def repeat? (p : Progress) : Option Progress :=
  match p.group.parts with
  | { depth, repeatable := true } :: parts =>
    some { p with group := { p.group with parts := { depth := depth + 1 } :: parts } }
  | _ => none

/-- Reads flags up to the colon or the parenthesis that ends them, given those before, the last one
first. No flag stands twice; those after a hyphen are turned off. -/
def readFlags : Mode → List Char → List Char → Option (Mode × List Char × List Char)
  | _, _, [] => none
  | mode, flags, c :: rest =>
    if c = ':' ∨ c = ')' then
      if flags.head? = some '-' then none else some (mode, flags, c :: rest)
    else if c ∈ flags ∨ c ∉ "-imsUuRx".toList then none
    else readFlags (mode.set c ('-' ∉ flags)) (c :: flags) rest

/-- Reads the name of a group up to the angle bracket that ends it. No two groups share a name. -/
def readName (names : List (List Char)) (text : List Char) :
    Option (List Char × List Char) :=
  let name := text.takeWhile (· ≠ '>')
  match name, text.dropWhile (· ≠ '>') with
  | first :: others, '>' :: rest =>
    let starts := first = '_' ∨ isAlphabetic first
    let continues := others.all fun c => c ∈ "_.[]".toList ∨ isAlphanumeric c
    if starts ∧ continues ∧ name ∉ names then some (name, rest) else none
  | _, _ => none

/-- Reads what follows an opening parenthesis. There are no groups that look ahead or back. -/
def readParenthesis (p : Progress) : List Char → Option (Progress × List Char)
  | '?' :: '=' :: _ | '?' :: '!' :: _ | '?' :: '<' :: '=' :: _ | '?' :: '<' :: '!' :: _ => none
  | '?' :: 'P' :: '<' :: rest | '?' :: '<' :: rest => do
    let (name, rest) ← readName p.names rest
    return ({ p.enter p.mode with names := name :: p.names }, rest)
  | '?' :: rest => do
    match ← readFlags p.mode [] rest with
    | (mode, _, ':' :: rest) => return (p.enter mode, rest)
    | (_, [], _) => none
    | (mode, _, rest) =>
      let p := p.add { depth := 0, repeatable := false }
      return ({ p with group := { p.group with mode } }, rest.tail)
  | text => some (p.enter p.mode, text)

/-- Reads on from a character. A brace would start a count of repetitions. -/
def step (p : Progress) (c : Char) (rest : List Char) : Option (Progress × List Char) :=
  match c with
  | '(' => p.readParenthesis (p.mode.skip rest)
  | ')' => p.leave?.map fun p => (p, rest)
  | '|' => some ({ p with group := p.group.alternate }, rest)
  | '[' => do
    let body ← Brackets.readOpening p.mode rest
    let (depth, rest) ← Brackets.read p.mode (body.length + 1) {} [] body
    return (p.add { depth }, rest)
  | '?' | '*' | '+' =>
    let rest := if rest.head? = some '?' then rest.tail else rest
    p.repeat?.map fun p => (p, rest)
  | '\x7b' => none
  | '.' => if p.mode.unicode then some (p.add { depth := 0 }, rest) else none
  | '^' | '$' => some (p.add { depth := 0 }, rest)
  | _ => do
    let (symbol, rest) ← readSymbol p.mode (c :: rest)
    if symbol.isAllowed p.mode then return (p.add { depth := 0 }, rest) else none

/-- Reads a text to its end. Each step takes one character at least, and the first argument bounds
the number of steps. -/
def read : Nat → Progress → List Char → Option Progress
  | 0, _, _ => none
  | steps + 1, p, text =>
    match p.mode.skip text with
    | [] => some p
    | c :: rest => do
      let (p, rest) ← p.step c rest
      read steps p rest

end Progress

/-- A pattern can be nested this deeply. -/
def deepest : Nat := 250

/-- Whether a text is a regular expression. Counts of repetitions are left out, since the braces
around them cannot stand in a directive's field. -/
def isValid (text : List Char) : Bool :=
  (Progress.read (text.length + 1) {} text).any fun p =>
    p.outer.isEmpty && p.group.depth ≤ deepest

end Pattern

end FileSeal
