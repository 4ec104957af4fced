import Keyring.Host.Machine

/-!
# Programs at work

A program is called with a name, arguments, an environment and a directory in which its relative paths
start.  It finds a scene: the disk, an input, and what has been written so far.  It leaves another scene
and an ending.  What it writes is kept in one order for both of its streams, so that the streams can be
joined later without losing that order.
-/

namespace Keyring
namespace Host

/-- The status by which a shell knows an ending. -/
def Ending.status : Ending → Nat
  | .exited status => status
  | .signalled signal => 128 + signal

/-- The streams to which a program writes. -/
inductive Stream
  | output
  | errors
deriving DecidableEq, Repr

/-- What a program finds and leaves: the disk, the input that has not been read, and what has been
written, the newest first. -/
structure Scene where
  disk : Disk
  input : List UInt8
  written : List (Stream × List UInt8)

/-- How a program is called. -/
structure Call where
  name : List Char
  arguments : List (List Char)
  environment : List (List Char × List Char)
  directory : List Char
deriving DecidableEq, Repr

/-- What a program does. -/
abbrev Behaviour := Call → Scene → Ending × Scene

/-- The bytes of a text. -/
def bytesOf (s : List Char) : List UInt8 :=
  (String.ofList s).toUTF8.toList

/-- The text of bytes; what is no text is replaced. -/
def textOf (bytes : List UInt8) : List Char :=
  (Text.decodeLossy ⟨bytes.toArray⟩).toList

/-- A path as a program that works in a directory means it. -/
def pathFrom (directory path : List Char) : String :=
  if path.isEmpty || directory.isEmpty then String.ofList path
  else Path.join (String.ofList directory) (String.ofList path)

/-- A path as the called program means it. -/
def Call.path (c : Call) (path : List Char) : String :=
  pathFrom c.directory path

namespace Scene

/-- The scene with more written to a stream. -/
def write (s : Scene) (stream : Stream) (bytes : List UInt8) : Scene :=
  if bytes.isEmpty then s else { s with written := (stream, bytes) :: s.written }

/-- The scene with a text written to its output. -/
def say (s : Scene) (text : List Char) : Scene :=
  s.write .output (bytesOf text)

/-- The scene with a text written to its error output. -/
def complain (s : Scene) (text : String) : Scene :=
  s.write .errors text.toUTF8.toList

/-- What has been written to a stream. -/
def textOn (s : Scene) (stream : Stream) : List UInt8 :=
  s.written.reverse.flatMap fun (t, bytes) => if t = stream then bytes else []

end Scene
end Host
end Keyring
