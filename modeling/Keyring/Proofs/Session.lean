import Keyring.Command.Execute

/-!
# Sessions

In a session commands are carried out one after the other.  Each has a context of its own and finds what
its time brings: an input, replies, a keyboard, selectors, a launcher, settings and a clock.  In between the
machine may have changed.  Otherwise the world goes on from one command to the next, with the files of the key
store and the marker, and it does so after a command that fails as well.
-/

namespace Keyring

/-- A command of a session, and what it finds when it is carried out: what has become of the machine in the
meantime is among it. -/
structure Turn where
  command : Command
  selectors : List Selector
  launcher : Launcher
  config : Config
  now : Instant
  scripts : Shell → String
  machine : Host.Machine → Host.Machine
  input : ByteArray
  replies : List Reply
  entries : Option (List Entry)

namespace Turn

/-- The context of the command, with the key store and the marker at given places. -/
def context (t : Turn) (paths : StorePaths) : Context :=
  ⟨⟨paths.keys⟩, ⟨paths.lastUsed⟩, t.selectors, t.launcher, t.config, t.now, t.scripts⟩

/-- The world that the command finds where the session has left one. -/
def found (t : Turn) (w : World) : World :=
  { w with
    machine := t.machine w.machine
    input := t.input
    terminal := { w.terminal with replies := t.replies, entries := t.entries } }

@[simp] theorem memory_found (t : Turn) (w : World) :
    (t.found w).memory = w.memory := rfl

@[simp] theorem launches_found (t : Turn) (w : World) :
    (t.found w).launches = w.launches := rfl

/-- Carries out the command. -/
def take (t : Turn) (paths : StorePaths) (w : World) : Except Abort Report × World :=
  (t.context paths).execute t.command (t.found w)

end Turn

namespace Session

/-- The world after the commands of a session. -/
def after (paths : StorePaths) (turns : List Turn) (w : World) : World :=
  turns.foldl (fun w t => (t.take paths w).2) w

@[simp] theorem after_cons (paths : StorePaths) (t : Turn) (turns : List Turn) (w : World) :
    after paths (t :: turns) w = after paths turns (t.take paths w).2 := rfl

/-- How each command of a session ends, with the world that it leaves. -/
def transcript (paths : StorePaths) : List Turn → World → List (Except Abort Report × World)
  | [], _ => []
  | t :: turns, w => t.take paths w :: transcript paths turns (t.take paths w).2

end Session

/-- A command on a machine that has been left alone, in the last days of the year 2022, with nothing to read and no
keyboard, a menu to choose from, and a launcher that only records. -/
def Turn.simple (command : Command) : Turn :=
  ⟨command, [.menu], .recording none, .standard, ⟨63839577600000000000⟩, fun _ => "", id, .empty, [], none⟩

end Keyring
