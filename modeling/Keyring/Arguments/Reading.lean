import Keyring.Arguments.Grammar

/-!
# Reading a command line

The words of a level are read one by one.  An option keeps waiting for its value until the next word,
so whether it gets one is decided late: an option is settled when the next parameter is set or the
words end.  A bare `--` ends the flags and options; so does the first argument of the launched
program.
-/

namespace Keyring
namespace Arguments

/-- Why a command line is not carried out. -/
inductive Fault
  | help
  | version
  | unknownArgument
  | unknownVerb
  | invalidValue
  | attachedValue
  | repeated
  | missing
  | combined
deriving DecidableEq, Repr

/-- The class of a fault. -/
def Fault.kind : Fault → String
  | .help => "DisplayHelp"
  | .version => "DisplayVersion"
  | .unknownArgument => "UnknownArgument"
  | .unknownVerb => "InvalidSubcommand"
  | .invalidValue => "InvalidValue"
  | .attachedValue => "TooManyValues"
  | .repeated => "ArgumentConflict"
  | .missing => "MissingRequiredArgument"
  | .combined => "ArgumentConflict"

/-- Parameters that have been set, with their values. -/
abbrev Given := List (Parameter × List String)

/-- What the next word may belong to. -/
inductive Awaiting
  | nothing
  | option (parameter : Parameter)
  | position (parameter : Parameter)
deriving DecidableEq, Repr

/-- How far the words of a level have been read. -/
structure Progress where
  given : Given
  pending : Option (Parameter × List String)
  awaiting : Awaiting
  positionUsed : Bool
  trailing : Bool
deriving DecidableEq, Repr

/-- The shapes of words. -/
inductive Word
  | divider
  | long (name : String) (value : Option String)
  | letters (letters : List Char)
  | plain
deriving DecidableEq, Repr

/-- The shape of what follows two hyphens. -/
def Word.ofLong (text : List Char) : Word :=
  let name := text.takeWhile (· != '=')
  .long (String.ofList name)
    (if name.length < text.length then some (String.ofList (text.drop (name.length + 1)))
    else none)

/-- The shape of a word. -/
def Word.ofText (word : String) : Word :=
  match word.toList with
  | ['-', '-'] => .divider
  | '-' :: '-' :: rest => .ofLong rest
  | '-' :: c :: rest => .letters (c :: rest)
  | _ => .plain

namespace Given

/-- Whether a parameter has been set. -/
def has (g : Given) (p : Parameter) : Bool :=
  (g.lookup p).isSome

/-- The values of a parameter. -/
def values (g : Given) (p : Parameter) : List String :=
  (g.lookup p).getD []

/-- The value of a parameter. -/
def value? (g : Given) (p : Parameter) : Option String :=
  (g.values p).head?

/-- The parameters with one more that is set; help and the version are answered at once. -/
def accept (g : Given) (p : Parameter) (values : List String) : Except Fault Given :=
  if p.takesValue && values.isEmpty then .error .invalidValue
  else if p = .help then .error .help
  else if p = .version then .error .version
  else if g.has p then .error .repeated
  else if values.all p.accepts then .ok (g ++ [(p, values)])
  else .error .invalidValue

end Given

namespace Progress

/-- Nothing has been read. -/
def start : Progress :=
  ⟨[], none, .nothing, false, false⟩

/-- Settles the pending parameter. -/
def settle (r : Progress) : Except Fault Progress :=
  match r.pending with
  | none => .ok r
  | some (p, values) =>
      (r.given.accept p values).map fun g => { r with given := g, pending := none }

/-- Sets a parameter after settling the pending one. -/
def set (r : Progress) (p : Parameter) (values : List String) : Except Fault Progress :=
  match r.settle with
  | .error f => .error f
  | .ok r => (r.given.accept p values).map fun g => { r with given := g, awaiting := .nothing }

/-- Begins an option whose value is the next word. -/
def begin (r : Progress) (p : Parameter) : Except Fault Progress :=
  r.settle.map fun r => { r with pending := some (p, []), awaiting := .option p }

/-- Whether what is awaited takes any word as a value. -/
def takesAnything (r : Progress) (level : Level) : Bool :=
  match r.awaiting with
  | .nothing => false
  | .option p | .position p => p.allowsHyphen level

/-- The parameter that the next word sets by its position. -/
def position? (r : Progress) (level : Level) : Option Parameter :=
  if r.positionUsed then none else Level.positional? level

/-- Whether the next word may be a value by its position although it starts with a hyphen. -/
def positionAllowsHyphen (r : Progress) (level : Level) : Bool :=
  (r.position? level).any (·.allowsHyphen level)

/-- Takes a word as one of the arguments of the launched program. -/
def argument (r : Progress) (word : String) : Except Fault Progress :=
  let waiting : Awaiting := .position .arguments
  match r.pending with
  | some (.arguments, values) =>
      .ok { r with
        pending := some (.arguments, values ++ [word]), awaiting := waiting, trailing := true }
  | _ =>
      r.settle.map fun r =>
        { r with pending := some (.arguments, [word]), awaiting := waiting, trailing := true }

/-- Takes a word as a value by its position. -/
def positional (r : Progress) (level : Level) (word : String) : Except Fault Progress :=
  match r.position? level with
  | none => .error .unknownArgument
  | some .arguments => r.argument word
  | some p =>
      r.settle.map fun r =>
        { r with pending := some (p, [word]), awaiting := .nothing, positionUsed := true }

/-- Takes a word as a value: of the option that waits for one, or by its position. -/
def value (r : Progress) (level : Level) (word : String) : Except Fault Progress :=
  match r.awaiting with
  | .option p => .ok { r with pending := some (p, [word]), awaiting := .nothing }
  | _ => r.positional level word

/-- Takes a word that starts with two hyphens. -/
def long (r : Progress) (level : Level) (word name : String) (attached : Option String) :
    Except Fault Progress :=
  if r.takesAnything level then r.value level word
  else
    match Level.named? level name, attached with
    | some p, some text => if p.takesValue then r.set p [text] else .error .attachedValue
    | some p, none => if p.takesValue then r.begin p else r.set p []
    | none, _ =>
        if r.positionAllowsHyphen level then r.value level word else .error .unknownArgument

/-- Sets the flags of letters. -/
def flags (level : Level) (r : Progress) : List Char → Except Fault Progress
  | [] => .ok r
  | c :: rest =>
      match Level.lettered? level c with
      | none => .error .unknownArgument
      | some p =>
          match r.set p [] with
          | .error f => .error f
          | .ok r => flags level r rest

/-- Takes a word that starts with one hyphen. -/
def letters (r : Progress) (level : Level) (word : String) (letters : List Char) :
    Except Fault Progress :=
  let foreign := letters.any fun c => (Level.lettered? level c).isNone
  if r.takesAnything level || (r.positionAllowsHyphen level && foreign) then r.value level word
  else r.flags level letters

/-- Takes a word that is no verb. -/
def take (r : Progress) (level : Level) (word : String) : Except Fault Progress :=
  if r.trailing then r.positional level word
  else
    match Word.ofText word with
    | .divider =>
        if r.takesAnything level then r.value level word else .ok { r with trailing := true }
    | .long name attached => r.long level word name attached
    | .letters cs => r.letters level word cs
    | .plain => r.value level word

/-- Whether the next word may be a verb. -/
def verbAllowed (r : Progress) : Bool :=
  !r.trailing && r.awaiting == .nothing

/-- The parameters that have been set when the words of a level end. -/
def finish (r : Progress) (level : Level) : Except Fault Given :=
  match r.settle with
  | .error f => .error f
  | .ok r =>
      if (Level.required? level).all r.given.has then .ok r.given else .error .missing

end Progress

/-- What asking for an explanation of the given words comes to. -/
def explanation : List String → Fault
  | [] => .help
  | [word] => if (verbs.lookup word).isSome || word == helpWord then .help else .unknownVerb
  | _ => .unknownVerb

/-- Reads the words of a level up to a verb; yields the verb with the words after it. -/
def readWords (level : Level) (r : Progress) :
    List String → Except Fault (Progress × Option (Verb × List String))
  | [] => .ok (r, none)
  | word :: rest =>
      if r.verbAllowed && Level.asksHelp level word then .error (explanation rest)
      else
        match if r.verbAllowed then Level.verb? level word else none with
        | some verb => .ok (r, some (verb, rest))
        | none =>
            match r.take level word with
            | .error f => .error f
            | .ok r => readWords level r rest

/-- Reads the words of a level without verbs. -/
def readLevel (level : Level) (words : List String) : Except Fault Given :=
  match readWords level .start words with
  | .error f => .error f
  | .ok (r, _) => r.finish level

/-- Reads a command line: what is set before the verb, and the verb with what is set after it.  What
stands after the verb is checked first. -/
def readLine (words : List String) : Except Fault (Given × Option (Verb × Given)) :=
  match readWords none .start words with
  | .error f => .error f
  | .ok (r, none) => (r.finish none).map fun before => (before, none)
  | .ok (r, some (verb, rest)) =>
      match readLevel (some verb) rest with
      | .error f => .error f
      | .ok after => (r.finish none).map fun before => (before, some (verb, after))

end Arguments
end Keyring
