import FileSeal.Terminal

namespace FileSeal

inductive Verb where
  | keygen
  | encrypt
  | decrypt
  | update
  | verify
deriving DecidableEq, Repr

inductive Switch where
  | keyFile
  | keyStdin
  | verbose
  | help
  | version
  | input
  | output
  | crypt
deriving DecidableEq, Repr

inductive UsageError where
  | unexpectedArgument (text : String)
  | unexpectedValue (value : String) (switch : Switch)
  | missingValue (switch : Switch)
  | repeated (switch : Switch)
  | unknownCommand (text : String)
  | missingCommand
  | missingArguments (switches : List Switch)
  | conflictingKeys
deriving DecidableEq, Repr

namespace Verb

def all : List Verb := [keygen, encrypt, decrypt, update, verify]

/-- The names of a command; three of them have a short one. -/
def names : Verb → List String
  | keygen => ["keygen"]
  | encrypt => ["encrypt", "e"]
  | decrypt => ["decrypt", "d"]
  | update => ["update", "u"]
  | verify => ["verify"]

def ofName? (name : String) : Option Verb :=
  all.find? (·.names.contains name)

/-- The options that a command cannot do without. -/
def required : Verb → List Switch
  | keygen => [.output]
  | encrypt | decrypt | update => [.input, .output]
  | verify => [.input, .crypt]

end Verb

namespace Switch

def long : Switch → String
  | keyFile => "key-file"
  | keyStdin => "key-stdin"
  | verbose => "verbose"
  | help => "help"
  | version => "version"
  | input => "input"
  | output => "output"
  | crypt => "crypt"

def short? : Switch → Option Char
  | keyFile | keyStdin => none
  | verbose => some 'v'
  | help => some 'h'
  | version => some 'V'
  | input => some 'i'
  | output => some 'o'
  | crypt => some 'c'

def takesValue : Switch → Bool
  | keyFile | input | output | crypt => true
  | keyStdin | verbose | help | version => false

def display (switch : Switch) : String :=
  let name := "--" ++ switch.long
  if switch.takesValue then name ++ " <FILE>"
  else if switch = verbose then name ++ "..." else name

/-- The options that every command takes, before the command and after it. -/
def everywhere : List Switch := [keyFile, keyStdin, verbose]

/-- The options in force before the command, or after a given one. -/
def inForce : Option Verb → List Switch
  | none => everywhere ++ [help, version]
  | some verb => verb.required ++ everywhere ++ [help]

def ofLong? (verb : Option Verb) (name : String) : Option Switch :=
  (inForce verb).find? (·.long == name)

def ofShort? (verb : Option Verb) (letter : Char) : Option Switch :=
  (inForce verb).find? (·.short? == some letter)

end Switch

namespace UsageError

/-- The message, after the word `error`. Words of the command line are shown without control
characters. -/
def message : UsageError → String
  | unexpectedArgument text => s!"unexpected argument '{Terminal.shown text}' found"
  | unexpectedValue value switch =>
    let value := Terminal.shown value
    s!"unexpected value '{value}' for '{switch.display}' found; no more were expected"
  | missingValue switch => s!"a value is required for '{switch.display}' but none was supplied"
  | repeated switch => s!"the argument '{switch.display}' cannot be used multiple times"
  | unknownCommand text => s!"unrecognized subcommand '{Terminal.shown text}'"
  | missingCommand => "'filecipher' requires a subcommand but one was not provided"
  | missingArguments switches =>
    "the following required arguments were not provided:" ++
      String.join (switches.map fun switch => "\n  " ++ switch.display)
  | conflictingKeys =>
    s!"the argument '{Switch.keyStdin.display}' cannot be used with '{Switch.keyFile.display}'"

end UsageError

/-- Why the reading of a command line ends early. -/
inductive Halt where
  | usage (error : UsageError)
  | showVersion
  | showHelp (verb : Option Verb)
  /-- The help that an empty command line gets in place of an error message. -/
  | showHelpAsError
deriving DecidableEq, Repr

/-- What has been read of one part of the command line: before the command, or after it. -/
structure Progress where
  /-- The options given so far with their values. -/
  given : List (Switch × String) := []
  /-- An option that is not complete: its value is still to come, or still to be checked. -/
  pending : Option (Switch × Option String) := none
  /-- Whether a `--` has put an end to the options. -/
  ended : Bool := false
deriving DecidableEq, Repr

namespace Progress

def count (p : Progress) (switch : Switch) : Nat :=
  p.given.countP (·.1 = switch)

def value? (p : Progress) (switch : Switch) : Option String :=
  p.given.lookup switch

def awaitsValue (p : Progress) : Bool :=
  p.pending.any (·.2.isNone)

/-- Takes an option with its value. Only `--verbose` can be given more than once, and no value is
empty. -/
def accept (p : Progress) (switch : Switch) (value : String) : Except Halt Progress :=
  if switch ≠ .verbose ∧ p.count switch ≠ 0 then .error (.usage (.repeated switch))
  else if switch.takesValue ∧ value = "" then .error (.usage (.missingValue switch))
  else .ok { p with given := p.given ++ [(switch, value)] }

/-- Completes the option that is not complete yet. -/
def settle (p : Progress) : Except Halt Progress :=
  match p.pending with
  | none => .ok p
  | some (switch, none) => .error (.usage (.missingValue switch))
  | some (switch, some value) => accept { p with pending := none } switch value

/-- Takes an option that needs no value, or whose value stands in the same word. -/
def takeWhole (p : Progress) (verb : Option Verb) (switch : Switch) (value : String) :
    Except Halt Progress := do
  let p ← p.settle
  match switch with
  | .help => throw (.showHelp verb)
  | .version => throw .showVersion
  | _ => p.accept switch value

/-- Takes an option whose value is the next word. -/
def takeOpen (p : Progress) (switch : Switch) : Except Halt Progress := do
  let p ← p.settle
  return { p with pending := some (switch, none) }

/-- Reads a word that starts with two dashes, given without them. -/
def takeLong (p : Progress) (verb : Option Verb) (body : List Char) : Except Halt Progress :=
  let name := String.ofList (body.takeWhile (· ≠ '='))
  let attached := if body.contains '=' then
    some (String.ofList ((body.dropWhile (· ≠ '=')).drop 1)) else none
  match Switch.ofLong? verb name with
  | none => .error (.usage (.unexpectedArgument ("--" ++ name)))
  | some switch => match switch.takesValue, attached with
    | true, some value => p.takeWhole verb switch value
    | true, none => p.takeOpen switch
    | false, some value => .error (.usage (.unexpectedValue value switch))
    | false, none => p.takeWhole verb switch ""

/-- Reads the letters of a word that starts with one dash. An option with a value takes the rest of
the word, less an equals sign before it. -/
def takeShort (p : Progress) (verb : Option Verb) : List Char → Except Halt Progress
  | [] => .ok p
  | letter :: rest =>
    match Switch.ofShort? verb letter with
    | none => .error (.usage (.unexpectedArgument (String.ofList ['-', letter])))
    | some switch =>
      if switch.takesValue then
        match rest with
        | [] => p.takeOpen switch
        | '=' :: value => p.takeWhole verb switch (String.ofList value)
        | value => p.takeWhole verb switch (String.ofList value)
      else do (← p.takeWhole verb switch "").takeShort verb rest

/-- The failure of a word that is neither an option nor a value. -/
def stray (p : Progress) (verb : Option Verb) (word : String) : Halt :=
  match verb with
  | some _ => .usage (.unexpectedArgument word)
  | none =>
    if p.ended ∧ ((Verb.ofName? word).isSome ∨ word = "help") then
      .usage (.unexpectedArgument word)
    else .usage (.unknownCommand word)

/-- Reads a word that is not the name of a command. -/
def take (p : Progress) (verb : Option Verb) (word : String) : Except Halt Progress :=
  if p.ended then .error (p.stray verb word)
  else match word.toList with
    | ['-', '-'] => .ok { p with ended := true }
    | '-' :: '-' :: body => p.takeLong verb body
    | '-' :: letter :: rest => p.takeShort verb (letter :: rest)
    | _ => match p.pending with
      | some (switch, none) => .ok { p with pending := some (switch, some word) }
      | _ => .error (p.stray verb word)

end Progress

/-- Where the name of the key file comes from. -/
inductive Origin where
  | environment
  | commandLine
deriving DecidableEq, Repr

/-- What one part of the command line comes to, with the environment taken in. -/
structure Part where
  keyFile : Option (String × Origin)
  keyStdin : Bool
  verbosity : Nat
  value? : Switch → Option String

namespace Part

/-- Completes a part. The environment names the key file if the part does not, and cannot name it
by the empty string. -/
def ofProgress (environment : Option String) (p : Progress) : Except Halt Part := do
  let p ← p.settle
  let keyFile ← match p.value? .keyFile, environment with
    | some path, _ => pure (some (path, .commandLine))
    | none, some "" => throw (.usage (.missingValue .keyFile))
    | none, some path => pure (some (path, .environment))
    | none, none => pure none
  return {
    keyFile
    keyStdin := p.count .keyStdin ≠ 0
    verbosity := p.count .verbose
    value? := p.value? }

def isEmpty (part : Part) : Bool :=
  part.keyFile.isNone && !part.keyStdin && part.verbosity == 0

end Part

inductive Command where
  | keygen (output : String)
  | encrypt (input output : String)
  | decrypt (input output : String)
  | update (input output : String)
  | verify (input crypt : String)
deriving DecidableEq, Repr

namespace Command

/-- The command with the files that the options name, or the options that are missing. -/
def ofValues (verb : Verb) (value? : Switch → Option String) : Except (List Switch) Command :=
  let missing := verb.required.filter fun switch => (value? switch).isNone
  match verb, value? .input, value? .output, value? .crypt with
  | .keygen, _, some output, _ => .ok (keygen output)
  | .encrypt, some input, some output, _ => .ok (encrypt input output)
  | .decrypt, some input, some output, _ => .ok (decrypt input output)
  | .update, some input, some output, _ => .ok (update input output)
  | .verify, some input, _, some crypt => .ok (verify input crypt)
  | _, _, _, _ => .error missing

end Command

structure Invocation where
  command : Command
  keyFile : Option String
  keyStdin : Bool
  verbosity : Nat
deriving DecidableEq, Repr

namespace Invocation

def readPart (verb : Verb) (words : List String) : Except Halt Progress :=
  words.foldlM (fun p word => p.take (some verb) word) {}

/-- Completes the part after a command, which has to name the command's files. -/
def complete (environment : Option String) (verb : Verb) (words : List String) :
    Except Halt (Part × Command) := do
  let part ← Part.ofProgress environment (← readPart verb words)
  match Command.ofValues verb part.value? with
  | .ok command => return (part, command)
  | .error missing => throw (.usage (.missingArguments missing))

/-- Joins the part before a command and the part after it. The later key file counts, unless only
the environment names it. -/
def join (outer inner : Part) (command : Command) : Except Halt Invocation :=
  let keyFile : Option (String × Origin) := match outer.keyFile, inner.keyFile with
    | some (path, .commandLine), some (_, .environment) => some (path, .commandLine)
    | outer, none => outer
    | _, inner => inner
  let keyStdin := outer.keyStdin || inner.keyStdin
  if keyStdin ∧ keyFile.any (·.2 = .commandLine) then .error (.usage .conflictingKeys)
  else .ok {
    command
    keyFile := keyFile.map Prod.fst
    keyStdin
    verbosity := if inner.verbosity = 0 then outer.verbosity else inner.verbosity }

/-- The help about a command, or about all of them. No command has commands of its own. -/
def readHelp : List String → Halt
  | [] => .showHelp none
  | word :: rest =>
    let verb := Verb.ofName? word
    if verb.isNone ∧ word ≠ "help" then .usage (.unknownCommand word)
    else match rest with
      | [] => .showHelp verb
      | word :: _ => .usage (.unknownCommand word)

/-- Reads the words of a command line, with what has been read before them. The part after the
command is completed first. -/
def readFrom (environment : Option String) : Progress → List String → Except Halt Invocation
  | p, [] => do
    let part ← Part.ofProgress environment p
    throw (if part.isEmpty then .showHelpAsError else .usage .missingCommand)
  | p, word :: rest =>
    let verb := if p.ended ∨ p.awaitsValue then none else Verb.ofName? word
    match verb with
    | some verb => do
      let (inner, command) ← complete environment verb rest
      let outer ← Part.ofProgress environment p
      join outer inner command
    | none =>
      if word = "help" ∧ ¬ p.ended ∧ ¬ p.awaitsValue then .error (readHelp rest)
      else do readFrom environment (← p.take none word) rest

/-- Reads a command line. The environment may name a key file. -/
def ofArguments (environment : Option String) (arguments : List String) :
    Except Halt Invocation :=
  readFrom environment {} arguments

end Invocation

end FileSeal
