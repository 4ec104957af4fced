import Keyring.Action
import Keyring.World

/-!
# Secret sources

A secret is given by a source: a prompt on the terminal, the standard input, a file, an environment
variable, or the text itself.  Whatever the source yields is trimmed, and an empty secret is refused.
A prompt shows its label and takes what is entered unseen, which needs a keyboard.
-/

namespace Keyring

/-- Where a secret comes from. -/
inductive SecretSource
  | prompt (label : String)
  | input
  | file (path : String)
  | environment (name : String)
  | literal (text : String)
deriving DecidableEq, Repr

/-- The text after a given start. -/
def afterStart? (start : String) (s : String) : Option String :=
  let cs := s.toList
  if start.toList.isPrefixOf cs then some (String.ofList (cs.drop start.toList.length)) else none

namespace SecretSource

/-- The label of a prompt that an argument describes. -/
def promptLabel? (spec : String) : Option String :=
  if spec = "prompt" then some "" else afterStart? "prompt:" spec

/-- The source that an argument describes. -/
def ofText (spec : String) : SecretSource :=
  match promptLabel? spec with
  | some label => .prompt label
  | none =>
      if spec = "-" then .input
      else
        match afterStart? "@" spec, afterStart? "env:" spec with
        | some path, _ => .file path
        | none, some name => .environment name
        | none, none => .literal spec

/-- The failure of a prompt without a keyboard. -/
def noTerminal : Failure :=
  .validation "prompt input requires a TTY; use '-', '@file', or env:NAME"

/-- The failure of a prompt at which nothing is entered. -/
def notEntered (reason : String) : Failure :=
  .validation ("failed to read prompt: " ++ reason)

/-- What a prompt with a label shows. -/
def promptText (label : String) : String :=
  if Text.isBlankText label then "Enter API key: " else label

/-- What a source yields, as it is. -/
def raw (source : SecretSource) (w : World) : Except Failure String × World :=
  match source with
  | .prompt label =>
      match w.terminal.enter (promptText label) with
      | none => (.error noTerminal, w)
      | some (entered, t) => (entered.mapError notEntered, { w with terminal := t })
  | .input =>
      let w' := { w with input := .empty }
      match Text.decode? w.input with
      | some text => (.ok text, w')
      | none => (.error (.validation ("failed to read stdin: " ++ OsError.notText.message)), w')
  | .file path =>
      match w.machine.disk.readText path with
      | .ok text => (.ok text, w)
      | .error e =>
          (.error (.validation ("failed to read file " ++ path ++ ": " ++ e.message)), w)
  | .environment name =>
      match w.machine.environment.lookup name with
      | some text => (.ok text, w)
      | none => (.error (.validation ("env var " ++ name ++ " not set")), w)
  | .literal text => (.ok text, w)

end SecretSource

/-- Reads what a source yields, trimmed. -/
def readInput (spec : String) (w : World) : Except Failure String × World :=
  match (SecretSource.ofText spec).raw w with
  | (.ok text, w) => (.ok (Text.trimmed text), w)
  | (.error f, w) => (.error f, w)

/-- Reads a secret, which must not be empty. -/
def readSecret (spec : String) (w : World) : Except Failure String × World :=
  match readInput spec w with
  | (.ok text, w) =>
      (if text.isEmpty then .error (.validation "API key cannot be empty") else .ok text, w)
  | (.error f, w) => (.error f, w)

end Keyring
