import Keyring.Arguments.Reading
import Keyring.Report

/-!
# What a command line asks for

The parameters that have been set become the shared options and a command.  A command line without a
verb launches a program; the options of a launch cannot stand before a verb.  A shared option that
stands on both sides of the verb has the value that stands after it.
-/

namespace Keyring
namespace Arguments

/-- The options that every command has. -/
structure SharedOptions where
  presentation : Presentation
  dataDirectory : Option String
  configFile : Option String
deriving DecidableEq, Repr

/-- What a command line asks for. -/
structure Asked where
  options : SharedOptions
  command : Command
deriving DecidableEq, Repr

/-- The shared options, of which those set after the verb come first. -/
def sharedOptions (g : Given) : SharedOptions where
  presentation := ⟨g.has .json, g.has .quiet, g.has .noColor, g.has .verbose⟩
  dataDirectory := g.value? .dataDirectory
  configFile := g.value? .configFile

/-- What is asked for when a program is to be launched. -/
def launchRequest (g : Given) : LaunchRequest :=
  ⟨g.value? .key, g.has .useDefault, g.values .arguments⟩

/-- Whether anything is asked for that concerns a launch. -/
def asksLaunch (g : Given) : Bool :=
  g.has .key || g.has .useDefault || g.has .arguments

/-- The name that has been given. -/
def nameOf (g : Given) : String :=
  (g.value? .name).getD ""

/-- The command of a verb. -/
def commandOf (g : Given) : Verb → Command
  | .list => .list
  | .current => .current
  | .add =>
      .add ⟨nameOf g, g.value? .secret, g.value? .baseUrl, g.value? .note, g.has .overwrite⟩
  | .edit => .edit ⟨nameOf g, g.value? .secret, g.value? .baseUrl, g.value? .note⟩
  | .remove => .remove (nameOf g) (g.has .yes)
  | .use => .use (nameOf g)
  | .run => .run (launchRequest g)
  | .completion => .completion (((g.value? .shell).bind Shell.ofName?).getD .bash)

/-- Reads a command line. -/
def parse (words : List String) : Except Fault Asked :=
  match readLine words with
  | .error f => .error f
  | .ok (before, none) => .ok ⟨sharedOptions before, .run (launchRequest before)⟩
  | .ok (before, some (verb, after)) =>
      if asksLaunch before then .error .combined
      else .ok ⟨sharedOptions (after ++ before), commandOf after verb⟩

end Arguments
end Keyring
