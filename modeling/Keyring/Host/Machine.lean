import Keyring.File.Disk
import Keyring.Time.Offset

/-!
# The machine

What a command finds around it: a disk, environment variables, the offset of local time, and programs that
can be started.  What programs do is left open.  A program that is started either cannot be, in which case
nothing has happened, or it is waited for: it has worked on the disk, written something, and ended with a
status or by a signal, unless that cannot be found out.
-/

namespace Keyring
namespace Host

/-- How a program ends: with a status, or by a signal. -/
inductive Ending
  | exited (status : Nat)
  | signalled (signal : Nat)
deriving DecidableEq, Repr

/-- Why a program cannot be started. -/
inductive StartFault
  | system (error : OsError)
  | nul
deriving DecidableEq, Repr

/-- The wording of a fault. -/
def StartFault.message : StartFault → String
  | .system error => error.message
  | .nul => "nul byte found in provided data"

/-- What a program that has been waited for leaves: how it ended, or why that is not known, and what it has
written. -/
structure Finished where
  ending : Except OsError Ending
  output : ByteArray
  errors : ByteArray

/-- How a program is started. -/
structure Invocation where
  program : String
  arguments : List String
  bindings : List (String × String)
  input : ByteArray

/-- What programs do when they are started with given variables on a disk. -/
abbrev Programs :=
  List (String × String) → Invocation → Disk → Except StartFault (Finished × Disk)

/-- A machine without programs. -/
def noPrograms : Programs :=
  fun _ _ _ => .error (.system .notFound)

/-- A disk, environment variables, local time, and programs. -/
structure Machine where
  disk : Disk
  environment : List (String × String)
  offset : Offset
  programs : Programs

namespace Machine

/-- A machine with nothing on it. -/
def bare : Machine :=
  ⟨.empty, [], .utc, noPrograms⟩

/-- The variable that holds the search path. -/
def searchVariable : String := "PATH"

/-- Whether a mode lets anyone execute a file. -/
def isExecutable (mode : Nat) : Bool :=
  mode &&& 0o111 != 0

/-- The home directory in the place of a tilde at the start of a directory on the search path. -/
def atHome (m : Machine) (directory : List Char) : List Char :=
  match directory, m.environment.lookup "HOME" with
  | '~' :: rest, some home =>
      if home.isEmpty || !(rest.isEmpty || rest.head? == some '/') then directory
      else home.toList ++ rest
  | _, _ => directory

/-- Whether some directory of the search path holds a program of that name. -/
def isOnSearchPath (m : Machine) (program : String) : Bool :=
  match m.environment.lookup searchVariable with
  | none => false
  | some search =>
      (search.toList.splitOn ':').any fun d =>
        match m.disk.look (Path.join (String.ofList (m.atHome d)) program) with
        | .ok (_, .file _ mode) => isExecutable mode
        | _ => false

/-- Whether a picker of that name or path can be used. -/
def hasPicker (m : Machine) (program : String) : Bool :=
  if (Path.components program).length + (if Path.isAbsolute program then 1 else 0) > 1 then
    m.disk.isFile program
  else m.isOnSearchPath program

/-- Whether a text holds the character that no argument may hold. -/
def hasNul (s : String) : Bool :=
  s.toList.contains '\x00'

/-- Starts a program and waits for its end. -/
def start (m : Machine) (i : Invocation) : Except StartFault Finished × Machine :=
  if hasNul i.program || i.arguments.any hasNul ||
      i.bindings.any fun (n, v) => hasNul n || hasNul v then
    (.error .nul, m)
  else
    match m.programs m.environment i m.disk with
    | .error fault => (.error fault, m)
    | .ok (f, disk) => (.ok f, { m with disk := disk })

end Machine
end Host
end Keyring
