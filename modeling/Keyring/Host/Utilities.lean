import Keyring.Host.Machine
import Keyring.Host.Programs

/-!
# Machines with utilities

A machine whose programs are utilities and shell scripts on its disk.  A program is called by its path, or
by its name, which is looked for in the directories of the search path.

This is one choice of what programs do, with which commands can be run whose selectors are scripts.  Nothing
that is proved of commands rests on it.
-/

namespace Keyring
namespace Host

namespace Utilities

/-- The search path of the programs of a machine. -/
def standardSearch : String := String.ofList Run.standardSearch

/-- The environment of a program: what its caller binds, and what the machine binds beside that. -/
def environmentFor (environment : List (String × String)) (i : Invocation) :
    List (List Char × List Char) :=
  let others := environment.filter fun b => (i.bindings.lookup b.1).isNone
  (others ++ i.bindings).map fun (n, v) => (n.toList, v.toList)

/-- The program that an invocation calls.  When the caller binds the search path, a name is looked for on
that path, and a file that does not say how it is executed is run by the shell. -/
def find (environment : List (String × String)) (i : Invocation) (disk : Disk) :
    Except OsError Loaded :=
  let program := i.program.toList
  let c : Call := ⟨program, i.arguments.map String.toList, environmentFor environment i, []⟩
  let search (b : List (String × String)) : List Char :=
    ((b.lookup Machine.searchVariable).map String.toList).getD defaultSearch
  if (i.bindings.lookup Machine.searchVariable).isSome && !isPath program then
    Host.find (fun path => loadOrRead disk path c) (search i.bindings) program
  else Host.find (fun path => load disk path c) (search environment) program

/-- What the utilities and scripts on a disk do when they are started. -/
def programs : Host.Programs := fun environment i disk =>
  match find environment i disk with
  | .error e => .error (.system e)
  | .ok l =>
      let (ending, scene) := Programs.run l ⟨disk, i.input.toList, []⟩
      .ok (⟨.ok ending, ⟨(scene.textOn .output).toArray⟩, ⟨(scene.textOn .errors).toArray⟩⟩,
        scene.disk)

end Utilities

/-- A machine that holds nothing but its utilities. -/
def Machine.withUtilities (environment : List (String × String)) (offset : Offset) : Machine :=
  ⟨Programs.install .empty, environment, offset, Utilities.programs⟩

end Host
end Keyring
