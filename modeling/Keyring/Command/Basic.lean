/-!
# Commands

What a user can ask for.  The arguments of a command are kept as the texts that were given; what they
mean is checked when the command is carried out.
-/

namespace Keyring

/-- What is given to add a key. -/
structure NewKey where
  name : String
  secret : Option String
  baseUrl : Option String
  note : Option String
  overwrite : Bool
deriving DecidableEq, Repr

/-- What is given to change a key. -/
structure KeyEdit where
  name : String
  secret : Option String
  baseUrl : Option String
  note : Option String
deriving DecidableEq, Repr

/-- The shells for which there are completion scripts. -/
inductive Shell
  | bash
  | zsh
  | fish
  | powershell
  | elvish
  | nushell
deriving DecidableEq, Repr

/-- What is asked for when a program is to be launched with a key. -/
structure LaunchRequest where
  key : Option String
  useDefault : Bool
  arguments : List String
deriving DecidableEq, Repr

/-- A command. -/
inductive Command
  | list
  | current
  | add (key : NewKey)
  | edit (change : KeyEdit)
  | remove (name : String) (confirmed : Bool)
  | use (name : String)
  | run (request : LaunchRequest)
  | completion (shell : Shell)
deriving DecidableEq, Repr

namespace Shell

/-- The shells with their names. -/
def all : List (String × Shell) :=
  [("bash", .bash), ("zsh", .zsh), ("fish", .fish), ("powershell", .powershell),
    ("elvish", .elvish), ("nushell", .nushell)]

/-- The name of a shell. -/
def name : Shell → String
  | .bash => "bash"
  | .zsh => "zsh"
  | .fish => "fish"
  | .powershell => "powershell"
  | .elvish => "elvish"
  | .nushell => "nushell"

/-- The shell with a name. -/
def ofName? (name : String) : Option Shell :=
  all.lookup name

end Shell
end Keyring
