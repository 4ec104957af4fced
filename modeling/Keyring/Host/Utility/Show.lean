import Keyring.Host.Format
import Keyring.Host.Utility.Reading

/-!
# Utilities that show their arguments

What `echo` and `printf` write, and utilities that only have a status.  The `echo` of a shell reads
escapes in its arguments; the one that is a program of its own does so only when it is asked to.
-/

namespace Keyring
namespace Host
namespace Show

/-- Ends with a status, whatever the arguments. -/
def nothing (status : Nat) : Behaviour := fun _ s => (.exited status, s)

/-- Writes arguments on a line. -/
def line (escapes newline : Bool) (arguments : List (List Char)) (s : Scene) : Ending × Scene :=
  let text := List.intercalate [' '] arguments
  let (bytes, stopped) := if escapes then Format.escaped text else (bytesOf text, false)
  (.exited 0, s.write .output (if newline && !stopped then ended bytes else bytes))

/-- The `echo` of a shell. -/
def shellEcho : Behaviour := fun c s =>
  match c.arguments with
  | ['-', 'n'] :: rest => line true false rest s
  | arguments => line true true arguments s

/-- The `echo` that is a program; `escapes` and `newline` say what it has been asked so far. -/
def echoWith (escapes newline : Bool) (s : Scene) : List (List Char) → Ending × Scene
  | ('-' :: c :: letters) :: rest =>
      if (c :: letters).all ['n', 'e', 'E'].contains then
        let escapes := (c :: letters).foldl
          (fun e l => if l == 'e' then true else if l == 'E' then false else e) escapes
        echoWith escapes (newline && !(c :: letters).contains 'n') s rest
      else line escapes newline (('-' :: c :: letters) :: rest) s
  | arguments => line escapes newline arguments s

/-- The `echo` that is a program. -/
def echo : Behaviour := fun c s => echoWith false true s c.arguments

/-- Writes arguments in a format. -/
def printf : Behaviour := fun c s =>
  let arguments := if c.arguments.head? == some ['-', '-'] then c.arguments.tail else c.arguments
  match arguments with
  | [] => (.exited 2, s.fault c "usage: printf format [arg ...]")
  | form :: rest =>
      let (bytes, fits) := Format.write form rest
      let s := s.write .output bytes
      if fits then (.exited 0, s) else 
        let odd := rest.filter fun a => (Format.number? a).isNone
        (.exited 1, s.fault c (String.ofList (odd.head?.getD []) ++ ": expected numeric value"))

end Show
end Host
end Keyring
