import Keyring.Host.Image
import Keyring.Host.Script
import Keyring.Host.Utility.Files

/-!
# The state of a running script

A script that runs has arguments, variables and functions of its own; it finds and changes a scene, and
it knows the status of its last command.  It may be on its way out of loops and functions, or at its end.

What a script runs beside its own commands, namely other scripts and other programs, is given by an
`Outer`, so that the functions that run a script can be defined by recursion on it.
-/

namespace Keyring
namespace Host

/-- A variable of a script. -/
structure Variable where
  name : List Char
  value : List Char
  exported : Bool
deriving DecidableEq, Repr

/-- Where a script goes on instead of with its next command. -/
inductive Jump
  | breaks (levels : Nat)
  | continues (levels : Nat)
  | returns
deriving DecidableEq, Repr

/-- The state of a running script.  `strict` and `bound` are the options by which a failing command and a
variable that is not set end the script; `guarded` says that the failure of a command is only asked for,
`plain` that `echo` knows no escapes, and `loops` is the number of loops around the command. -/
structure Run where
  name : List Char
  arguments : List (List Char)
  store : List Variable
  functions : List (List Char × Script)
  traps : List (Nat × List Char)
  locals : List (List Char × Option Variable)
  directory : List Char
  scene : Scene
  line : Nat
  status : Nat
  substituted : Option Nat
  ended : Option Ending
  jump : Option Jump
  strict : Bool
  bound : Bool
  guarded : Bool
  plain : Bool
  loops : Nat

/-- What a script runs beside its own commands: other scripts, and programs that are found on a search
path. -/
structure Outer where
  scripts : List Script → Run → Run
  start : List Char → Call → Scene → Except OsError (Ending × Scene)

namespace Run

/-- Whether a script does not go on with its next command. -/
def halted (r : Run) : Bool :=
  r.ended.isSome || r.jump.isSome

/-- How a script that has come to its end ended. -/
def ending (r : Run) : Ending :=
  r.ended.getD (.exited r.status)

/-- The run with another scene. -/
def withScene (r : Run) (s : Scene) : Run :=
  { r with scene := s }

/-- The run with another status. -/
def withStatus (r : Run) (status : Nat) : Run :=
  { r with status := status }

/-- What stands in front of a complaint: the script and the line. -/
def place (r : Run) : List Char :=
  r.name ++ ": ".toList ++ digits r.line ++ ": ".toList

/-- A complaint of the shell, which makes the status of the command. -/
def fault (r : Run) (text : String) (status : Nat) : Run :=
  { r with scene := r.scene.complain (String.ofList r.place ++ text ++ "\n"), status := status }

/-- A complaint of the shell that ends the script. -/
def abort (r : Run) (text : String) : Run :=
  let r := r.fault text 2
  { r with ended := some (.exited 2) }

/-- The variable of a name. -/
def variableOf (r : Run) (name : List Char) : Option Variable :=
  r.store.find? fun v => v.name == name

/-- The value of a variable. -/
def lookup (r : Run) (name : String) : Option (List Char) :=
  (r.variableOf name.toList).map Variable.value

/-- The run with a variable put in the place of the one of that name. -/
def put (r : Run) (v : Variable) : Run :=
  if (r.variableOf v.name).isSome then
    { r with store := r.store.map fun w => if w.name == v.name then v else w }
  else { r with store := r.store ++ [v] }

/-- The run without a variable. -/
def unset (r : Run) (name : List Char) : Run :=
  { r with store := r.store.filter fun v => v.name != name }

/-- Assigns a value to a variable, which stays exported if it was. -/
def assign (r : Run) (name value : List Char) : Run :=
  r.put ⟨name, value, (r.variableOf name).any Variable.exported⟩

/-- Makes a variable part of the environment of programs. -/
def exporting (r : Run) (name : List Char) : Run :=
  match r.variableOf name with
  | some v => r.put { v with exported := true }
  | none => r

/-- Puts back what a variable was. -/
def restore (r : Run) (saved : List Char × Option Variable) : Run :=
  match saved.2 with
  | some v => r.put v
  | none => r.unset saved.1

/-- The environment of the programs that a script starts. -/
def environment (r : Run) : List (List Char × List Char) :=
  (r.store.filter Variable.exported).map fun v => (v.name, v.value)

/-- The search path of a script that has no variable for it. -/
def standardSearch : List Char :=
  "/usr/local/sbin:/usr/local/bin:/usr/sbin:/usr/bin:/sbin:/bin".toList

/-- The search path of a script. -/
def search (r : Run) : List Char :=
  (r.lookup "PATH").getD standardSearch

/-- The characters that separate words in values. -/
def separators (r : Run) : List Char :=
  (r.lookup "IFS").getD [' ', '\t', '\n']

/-- The number by which a script knows its own process. -/
def processNumber : List Char := ['1', '0', '0']

/-- The value of a parameter, if it is set. -/
def value? (r : Run) (name : List Char) : Option (List Char) :=
  match name with
  | ['@'] => if r.arguments.isEmpty then none else some (List.intercalate [' '] r.arguments)
  | ['*'] =>
      if r.arguments.isEmpty then none
      else some (List.intercalate (r.separators.take 1) r.arguments)
  | ['#'] => some (digits r.arguments.length)
  | ['?'] => some (digits r.status)
  | ['$'] => some processNumber
  | ['-'] => some ((if r.strict then ['e'] else []) ++ (if r.bound then ['u'] else []))
  | ['!'] => none
  | name =>
      if !name.isEmpty && name.all Char.isDigit then
        match Nat.ofDigitChars 10 name 0 with
        | 0 => some r.name
        | n + 1 => r.arguments[n]?
      else (r.variableOf name).map Variable.value

/-- A path as the script means it. -/
def path (r : Run) (s : List Char) : String :=
  pathFrom r.directory s

/-- The call of a program with the environment of the script. -/
def call (r : Run) (name : List Char) (arguments : List (List Char)) : Call :=
  ⟨name, arguments, r.environment, r.directory⟩

/-- The run after a utility of the shell itself. -/
def after (r : Run) (f : Call → Scene → Ending × Scene) (name : List Char)
    (arguments : List (List Char)) : Run :=
  let (ending, scene) := f (r.call (r.place ++ name) arguments) r.scene
  { r with scene := scene, status := ending.status }

/-- The run of a part of a script whose changes of variables do not last. -/
def leaving (outside inside : Run) : Run :=
  { outside with
    scene := inside.scene
    status := inside.ending.status
    ended := match inside.ended with
      | some (.signalled signal) => some (.signalled signal)
      | _ => none }

end Run
end Host
end Keyring
