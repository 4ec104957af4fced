import Keyring.Command.Change
import Keyring.Command.Completion
import Keyring.Command.View

/-!
# Carrying out commands

A launch happens only after a key has been chosen; its report has no text, because the terminal has
belonged to the launched program.
-/

namespace Keyring
namespace Context

/-- Launches the configured program with a key that has been chosen. -/
def launchWith (c : Context) (resolved : Resolved) (arguments : List String) :
    Action World Abort Unit :=
  c.launcher.launch ⟨c.config.command, arguments, resolved.bindings c.config.envPrefix⟩

/-- Chooses a key and launches the configured program with it. -/
def run (c : Context) (request : LaunchRequest) : Action World Abort Report := do
  let resolved ← c.chooser.resolve ⟨request.key, request.useDefault⟩
  c.launchWith resolved request.arguments
  return .silent
    (.object [("key", .string resolved.key.name.value),
      ("source", .string resolved.source.name), ("command", .string c.config.command)])

/-- Carries out a command. -/
def execute (c : Context) : Command → Action World Abort Report
  | .list => c.list
  | .current => c.current
  | .add key => c.add key
  | .edit change => c.edit change
  | .remove name confirmed => c.remove name confirmed
  | .use name => c.use name
  | .run request => c.run request
  | .completion shell => pure (shell.completion (c.scripts shell))

end Context
end Keyring
