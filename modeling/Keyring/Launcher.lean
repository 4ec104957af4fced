import Keyring.Action
import Keyring.World

/-!
# Launching programs

A program is launched with a credential in its environment and waited for.  It succeeds when it ends
with status zero, and also when a signal ends it: then the user has called the session off and nothing
has failed.  A launcher starts programs on the machine, or only records that they were to be started.
-/

namespace Keyring

/-- How programs are launched: on the machine, or only recorded, ending with the given status if
there is one. -/
inductive Launcher
  | machine
  | recording (status : Option Int)
deriving DecidableEq, Repr

namespace Launcher

/-- The failure of a program that cannot be started. -/
def notStarted (command : String) (fault : Host.StartFault) : Failure :=
  (Failure.launch ("failed to start " ++ command ++ ": " ++ fault.message)).withDetails
    (.object [("command", .string command)])

/-- The failure of a program that ends with a status other than zero. -/
def unsuccessful (command : String) (status : Int) : Failure :=
  (Failure.launch (command ++ " exited with code " ++ toString status)).withDetails
    (.object [("command", .string command), ("code", .int status)])

/-- What the end of a program means; an end that cannot be found out is taken for no start. -/
def verdict (command : String) : Except OsError Host.Ending → Except Failure Unit
  | .error e => .error (notStarted command (.system e))
  | .ok (.exited 0) => .ok ()
  | .ok (.exited status) => .error (unsuccessful command status)
  | .ok (.signalled _) => .ok ()

/-- What a recorded launch ends with. -/
def recorded (command : String) : Option Int → Except Failure Unit
  | none => .ok ()
  | some status => .error (unsuccessful command status)

/-- The world after a launch has been recorded. -/
def note (launch : Launch) (w : World) : World :=
  { w with launches := w.launches ++ [launch] }

/-- Starts a program, which takes over the standard input and output. -/
def startOnMachine (launch : Launch) (w : World) : Except Failure Unit × World :=
  match w.start ⟨launch.command, launch.arguments, launch.bindings, w.input⟩ with
  | (.error fault, w) => (.error (notStarted launch.command fault), w)
  | (.ok f, w) =>
      (verdict launch.command f.ending,
        { w with input := .empty, output := w.output ++ Text.decodeLossy f.output })

/-- Launches a program. -/
def launch (l : Launcher) (launch : Launch) : Action World Abort Unit := fun w =>
  let (r, w) :=
    match l with
    | .machine => startOnMachine launch (note launch w)
    | .recording status => (recorded launch.command status, note launch w)
  (r.mapError .failed, w)

end Launcher
end Keyring
