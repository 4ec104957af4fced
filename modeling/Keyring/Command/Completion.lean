import Keyring.Command.Basic
import Keyring.Report
import Keyring.Text.Blank

/-!
# Completion scripts

A completion script makes a shell offer the verbs of the command line after the name of the program.  The
scripts are generated from the description of the command line, and handed out as they are.
-/

namespace Keyring
namespace Shell

/-- The report that holds the completion script of a shell. -/
def completion (s : Shell) (script : String) : Report :=
  .shown (.object [("shell", .string s.name), ("script", .string script)])
    (String.ofList (Text.trimEnd script.toList))

end Shell
end Keyring
