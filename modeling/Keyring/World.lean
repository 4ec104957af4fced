import Keyring.Collection
import Keyring.File.Memory
import Keyring.File.Replace
import Keyring.Host.Machine
import Keyring.Terminal

/-!
# The world of a command

Everything that a command can see or change: the files of the key store and the marker, the machine
with its disk and programs, the terminal, and a record of what has been asked of pickers, other
selectors and the launcher.  The store's files are on the disk of the machine unless they are kept
in memory.
-/

namespace Keyring

/-- A program that has been launched with a credential. -/
structure Launch where
  command : String
  arguments : List String
  bindings : List (String × String)
deriving DecidableEq, Repr

/-- A selector that has been consulted: which one, with which keys and which hint. -/
structure Consultation where
  selector : Nat
  keys : Collection
  hint : Option KeyName

/-- Everything that a command can see or change. -/
structure World where
  memory : Option Memory
  machine : Host.Machine
  input : ByteArray
  terminal : Terminal
  output : String
  consultations : List Consultation
  pickers : List Host.Invocation
  launches : List Launch

namespace World

/-- A world with the given files, in which nothing has happened yet. -/
def fresh (memory : Option Memory) (machine : Host.Machine) (replies : List Reply) : World :=
  ⟨memory, machine, .empty, .withReplies replies, "", [], [], []⟩

/-- The world with another disk. -/
def withDisk (w : World) (disk : Disk) : World :=
  { w with machine := { w.machine with disk := disk } }

/-- The outcome of a change of the files in memory or on disk. -/
def onFiles (w : World) (inMemory : Memory → Except FileFault Unit × Memory)
    (onDisk : Disk → Except FileFault Unit × Disk) : Except FileFault Unit × World :=
  match w.memory with
  | some m =>
      let (r, m) := inMemory m
      (r, { w with memory := some m })
  | none =>
      let (r, d) := onDisk w.machine.disk
      (r, w.withDisk d)

instance : FileSystem World where
  present path w :=
    match w.memory with
    | some m => FileSystem.present path m
    | none => FileSystem.present path w.machine.disk
  read path w :=
    match w.memory with
    | some m => FileSystem.read path m
    | none => FileSystem.read path w.machine.disk
  write path text w := w.onFiles (FileSystem.write path text) (FileSystem.write path text)
  remove path w := w.onFiles (FileSystem.remove path) (FileSystem.remove path)
  setMode path mode w := w.onFiles (FileSystem.setMode path mode) (FileSystem.setMode path mode)
  elapse w := { w with memory := w.memory.map Memory.elapse }

/-- Shows a text. -/
def display (w : World) (text : String) : World :=
  { w with terminal := w.terminal.display text }

/-- Asks a question.  What has been typed ahead is taken over by the terminal, so that nothing of it
is left on the standard input. -/
def ask (w : World) (question : String) : Reply × World :=
  let (r, t) := w.terminal.ask question
  (r, { w with terminal := t, input := .empty })

/-- Starts a program and waits for its end; what it writes to its error output appears on the
terminal. -/
def start (w : World) (i : Host.Invocation) : Except Host.StartFault Host.Finished × World :=
  match w.machine.start i with
  | (.ok f, m) =>
      (.ok f, { w with machine := m, terminal := w.terminal.write (Text.decodeLossy f.errors) })
  | (.error e, m) => (.error e, { w with machine := m })

end World
end Keyring
