import Keyring.Command.Context
import Keyring.Command.Description
import Keyring.Report

/-!
# Commands that only look

Listing the keys and showing the default change nothing.  That no default is set is reported; it is
no failure.
-/

namespace Keyring
namespace Context

/-- Lists the keys. -/
def list (c : Context) : Action World Abort Report := do
  let keys ← c.vault.load
  let offset ← .view fun w => w.machine.offset
  let data ← .orCrash keys.description?
  let text ← .orCrash (keys.listing? offset)
  return .shown data text

/-- Shows the default. -/
def current (c : Context) : Action World Abort Report := do
  match ← c.vault.getDefault with
  | some key =>
      let offset ← .view fun w => w.machine.offset
      let data ← .orCrash (key.description? true)
      let line ← .orCrash (key.line? offset)
      return .shown (.object [("default", data)]) ("Current default: " ++ line)
  | none =>
      return .shown (.object [("default", .null)])
        "No default key set. Run 'keyswitch use <name>' to choose one."

end Context
end Keyring
