import Keyring.Command.Basic
import Keyring.Config
import Keyring.Launcher
import Keyring.Resolve

/-!
# The context of a command

What is settled before a command starts: where the key store and the marker are, which selectors are
asked, how programs are launched, the settings, the time, and the completion scripts.
-/

namespace Keyring

/-- The context of a command. -/
structure Context where
  vault : Vault
  marker : Marker
  selectors : List Selector
  launcher : Launcher
  config : Config
  now : Instant
  scripts : Shell → String

namespace Context

/-- The context for settings and places: the selectors are those of the settings, and programs are
started on the machine. -/
def standard (config : Config) (paths : StorePaths) (now : Instant) (scripts : Shell → String) :
    Context :=
  ⟨⟨paths.keys⟩, ⟨paths.lastUsed⟩, config.selector.chain, .machine, config, now, scripts⟩

/-- The part of a context that chooses keys. -/
def chooser (c : Context) : Chooser :=
  ⟨c.vault, c.marker, c.selectors⟩

end Context
end Keyring
