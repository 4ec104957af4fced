import Keyring.Command.Basic

/-!
# The grammar of the command line

A command line consists of words.  Some of them set parameters: flags, options that take a value, and
words that are values by their position.  Others are verbs.  Before a verb the parameters of a launch
may be set, after it those of the verb; the shared parameters may be set on both sides.

The arguments of the launched program are the words from the first one on that is nothing else, so
they may look like anything.
-/

namespace Keyring
namespace Arguments

/-- What a word can set. -/
inductive Parameter
  | json
  | noColor
  | quiet
  | verbose
  | dataDirectory
  | configFile
  | help
  | version
  | key
  | useDefault
  | arguments
  | name
  | secret
  | baseUrl
  | note
  | overwrite
  | yes
  | shell
deriving DecidableEq, Repr

/-- What a command line can ask for by a word of its own. -/
inductive Verb
  | list
  | add
  | edit
  | remove
  | current
  | use
  | run
  | completion
deriving DecidableEq, Repr

/-- The part of a command line that is being read: before any verb, or after one. -/
abbrev Level := Option Verb

/-- The words that are verbs. -/
def verbs : List (String × Verb) :=
  [("list", .list), ("ls", .list), ("add", .add), ("edit", .edit), ("remove", .remove),
    ("rm", .remove), ("current", .current), ("use", .use), ("run", .run), ("launch", .run),
    ("completion", .completion)]

/-- The word that asks for an explanation of a verb. -/
def helpWord : String := "help"

namespace Parameter

/-- The name of a flag or an option. -/
def long? : Parameter → Option String
  | .json => some "json"
  | .noColor => some "no-color"
  | .quiet => some "quiet"
  | .verbose => some "verbose"
  | .dataDirectory => some "data-dir"
  | .configFile => some "config"
  | .help => some "help"
  | .version => some "version"
  | .key => some "key"
  | .useDefault => some "use-default"
  | .secret => some "secret"
  | .baseUrl => some "base-url"
  | .note => some "note"
  | .overwrite => some "overwrite"
  | .yes => some "yes"
  | .arguments => none
  | .name => none
  | .shell => none

/-- The letter of a flag. -/
def short? : Parameter → Option Char
  | .verbose => some 'v'
  | .help => some 'h'
  | .version => some 'V'
  | .yes => some 'y'
  | _ => none

/-- Whether a parameter has a value, rather than being only set or not. -/
def takesValue : Parameter → Bool
  | .json | .noColor | .quiet | .verbose | .help | .version => false
  | .useDefault | .overwrite | .yes => false
  | _ => true

/-- Whether a value may start with a hyphen. -/
def allowsHyphen (level : Level) : Parameter → Bool
  | .arguments => true
  | .baseUrl | .note => level == some .edit
  | _ => false

/-- Whether a text can be the value of a parameter. -/
def accepts : Parameter → String → Bool
  | .dataDirectory, value | .configFile, value => !value.isEmpty
  | .shell, value => (Shell.ofName? value).isSome
  | _, _ => true

end Parameter

namespace Level

/-- The parameters that may be set on both sides of a verb. -/
def shared : List Parameter :=
  [.json, .noColor, .quiet, .verbose, .dataDirectory, .configFile, .help]

/-- The flags and options of a level besides the shared ones. -/
def own : Level → List Parameter
  | none => [.key, .useDefault, .version]
  | some .run => [.key, .useDefault]
  | some .add => [.secret, .baseUrl, .note, .overwrite]
  | some .edit => [.secret, .baseUrl, .note]
  | some .remove => [.yes]
  | some .list | some .current | some .use | some .completion => []

/-- The flags and options of a level. -/
def options (level : Level) : List Parameter :=
  own level ++ shared

/-- The parameter that is set by position. -/
def positional? : Level → Option Parameter
  | none | some .run => some .arguments
  | some .add | some .edit | some .remove | some .use => some .name
  | some .completion => some .shell
  | some .list | some .current => none

/-- The parameter that must be set. -/
def required? (level : Level) : Option Parameter :=
  (positional? level).filter (· != .arguments)

/-- The flag or option of a name. -/
def named? (level : Level) (name : String) : Option Parameter :=
  (options level).find? fun p => p.long? == some name

/-- The flag of a letter. -/
def lettered? (level : Level) (letter : Char) : Option Parameter :=
  (options level).find? fun p => p.short? == some letter

/-- The verb that a word stands for; there are verbs only before a verb. -/
def verb? (level : Level) (word : String) : Option Verb :=
  if level.isNone then verbs.lookup word else none

/-- Whether a word asks for an explanation. -/
def asksHelp (level : Level) (word : String) : Bool :=
  level.isNone && word == helpWord

end Level
end Arguments
end Keyring
