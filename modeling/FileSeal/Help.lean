import FileSeal.Options

namespace FileSeal

namespace Verb

/-- What a command does, in one line. -/
def purpose : Verb → String
  | keygen => "Generate a new random key and write it to a file"
  | encrypt => "Encrypt a file"
  | decrypt => "Decrypt a file"
  | update =>
    "Update an encrypted file with new content, " ++
      "while validating that the key is not accidentally changed"
  | verify => "Check a plaintext file against the digest stored in an encrypted file"

def name (verb : Verb) : String := verb.names.headD ""

end Verb

namespace Switch

/-- What an option means, before the command or after a given one. -/
def purpose (verb : Option Verb) : Switch → String
  | keyFile => "Path to the 32-byte key file [env: FILECIPHER_KEY_FILE]"
  | keyStdin =>
    "Read the raw 32-byte key from stdin instead of from a key file. " ++
      "Overrides FILECIPHER_KEY_FILE"
  | verbose =>
    "Increase log verbosity (-v info, -vv debug, -vvv trace). " ++
      "RUST_LOG takes precedence when set"
  | help => "Print help"
  | version => "Print version"
  | input => match verb with
    | some .decrypt => "Path to the file whose contents is to be decrypted"
    | some .verify => "Path to the plaintext file"
    | _ => "Path to the file whose contents is to be encrypted"
  | output => match verb with
    | some .keygen => "Path to write the key to; must not already exist"
    | some .decrypt => "Path to the file to write the decrypted contents to"
    | some .update => "Path to the existing encrypted file to replace"
    | _ => "Path to the file to write the encrypted record to"
  | crypt => "Path to the encrypted file holding the expected digest"

def spellings (switch : Switch) : String :=
  match switch.short? with
  | some letter => String.ofList ['-', letter, ',', ' '] ++ switch.display
  | none => "    " ++ switch.display

end Switch

/-- Two columns, the first as wide as its longest entry. -/
def columns (rows : List (String × String)) : String :=
  let width := (rows.map (·.1.length)).foldl max 0
  String.join (rows.map fun (left, right) =>
    "  " ++ left.pushn ' ' (width - left.length) ++ "  " ++ right ++ "\n")

def slogan : String := "Key-file based file encryption."

/-- The options before a command, or after a given one, with what they mean. -/
def optionHelp (verb : Option Verb) : String :=
  "Options:\n" ++ columns ((Switch.inForce verb).map fun switch =>
    (switch.spellings, switch.purpose verb))

/-- The help about a command, or about all of them. -/
def helpText : Option Verb → String
  | none =>
    slogan ++ "\n\nUsage: filecipher [OPTIONS] <COMMAND>\n\nCommands:\n" ++
      columns (Verb.all.map fun verb => (verb.name, verb.purpose)) ++ "\n" ++ optionHelp none
  | some verb =>
    let required := verb.required.map fun switch => " " ++ switch.display
    s!"{verb.purpose}\n\nUsage: filecipher {verb.name} [OPTIONS]{String.join required}\n\n" ++
      optionHelp (some verb)

end FileSeal
