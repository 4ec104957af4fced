import Keyring.Host.Shell.Expansion

/-!
# Redirection

A command can be run with its streams sent to files or joined, and with its input taken from a file or
from the script.  Files are made empty before the command runs; what it writes is shared out afterwards,
in the order in which it was written.
-/

namespace Keyring
namespace Host

/-- Where a stream goes. -/
inductive Sink
  | stream (s : Stream)
  | file (path : String)
deriving DecidableEq, Repr

/-- Where the streams of a command go, and the input that it is given instead of the one that is there. -/
structure Wiring where
  output : Sink
  errors : Sink
  input : Option (List UInt8)

namespace Wiring

/-- The streams as they are. -/
def straight : Wiring := ⟨.stream .output, .stream .errors, none⟩

/-- Where a stream goes. -/
def sink (w : Wiring) : Stream → Sink
  | .output => w.output
  | .errors => w.errors

end Wiring

namespace Run

/-- Why a file cannot be made or opened, in the words of the shell. -/
def openReason (missing : String) (e : OsError) : String :=
  if [OsError.notFound, .notDirectory].contains e then missing else e.reason

/-- Makes a file ready for what a command will write to it. -/
def prepare (r : Run) (target : List Char) (append : Bool) : Run × Option Sink :=
  let path := r.path target
  if path == Files.nullPath then (r, some (.file path))
  else
    let outcome :=
      if append then
        match r.scene.disk.look path with
        | .ok (_, .file _ _) => .ok r.scene.disk
        | _ => r.scene.disk.overwrite path .empty
      else r.scene.disk.overwrite path .empty
    match outcome with
    | .ok disk => (r.withScene { r.scene with disk := disk }, some (.file path))
    | .error e =>
        let reason := openReason "Directory nonexistent" e
        (r.fault ("cannot create " ++ String.ofList target ++ ": " ++ reason) 2, none)

/-- The sink for a target; the names of the streams stand for where these go. -/
def sinkFor (r : Run) (w : Wiring) (target : List Char) (append : Bool) : Run × Option Sink :=
  match String.ofList target with
  | "/dev/stdout" => (r, some w.output)
  | "/dev/stderr" => (r, some w.errors)
  | _ => r.prepare target append

/-- Makes redirections in their order.  Nothing is returned when one of them fails. -/
def wire (outer : Outer) : List Redirect → Run → Wiring → Run × Option Wiring
  | [], r, w => (r, some w)
  | .toErrors :: rest, r, w => wire outer rest r { w with output := w.errors }
  | .errorsToOutput :: rest, r, w => wire outer rest r { w with errors := w.output }
  | .here body :: rest, r, w =>
      let (r, text) := r.expandText outer body
      wire outer rest r { w with input := some (bytesOf text) }
  | .output target append :: rest, r, w =>
      let (r, text) := r.expandText outer target
      match r.sinkFor w text append with
      | (r, some sink) => wire outer rest r { w with output := sink }
      | (r, none) => (r, none)
  | .errors target append :: rest, r, w =>
      let (r, text) := r.expandText outer target
      match r.sinkFor w text append with
      | (r, some sink) => wire outer rest r { w with errors := sink }
      | (r, none) => (r, none)
  | .input origin :: rest, r, w =>
      let (r, text) := r.expandText outer origin
      match r.scene.disk.readBytes (r.path text) with
      | .ok bytes => wire outer rest r { w with input := some bytes.toList }
      | .error .isDirectory => wire outer rest r { w with input := some [] }
      | .error e =>
          (r.fault ("cannot open " ++ String.ofList text ++ ": " ++ openReason "No such file" e) 2, none)

/-- Adds bytes to a file. -/
def addTo (disk : Disk) (path : String) (bytes : List UInt8) : Disk :=
  if path == Files.nullPath || bytes.isEmpty then disk
  else
    let before := (disk.readBytes path).toOption.getD .empty
    (disk.overwrite path ⟨(before.toList ++ bytes).toArray⟩).toOption.getD disk

/-- Shares out what a command has written. -/
def shareOut (w : Wiring) (written : List (Stream × List UInt8)) (s : Scene) : Scene :=
  let chunks := written.reverse.map fun (stream, bytes) => (w.sink stream, bytes)
  let files := ([w.output, w.errors].filterMap fun sink => match sink with
    | .file path => some path
    | .stream _ => none).eraseDups
  let disk := files.foldl
    (fun d path => addTo d path
      (chunks.flatMap fun (sink, bytes) => if sink = .file path then bytes else []))
    s.disk
  chunks.foldl
    (fun s (sink, bytes) => match sink with
      | .stream stream => s.write stream bytes
      | .file _ => s)
    { s with disk := disk }

/-- Runs something with redirections, or something else when one of them fails. -/
def redirectedOr (outer : Outer) (redirects : List Redirect) (failed body : Run → Run) (r : Run) : Run :=
  if redirects.isEmpty then body r
  else
    match wire outer redirects r .straight with
    | (r, none) => failed r
    | (r, some w) =>
        if r.halted then r
        else
          let inner := body
            (r.withScene { r.scene with input := w.input.getD r.scene.input, written := [] })
          let scene : Scene :=
            { inner.scene with
              input := if w.input.isSome then r.scene.input else inner.scene.input
              written := r.scene.written }
          inner.withScene (shareOut w inner.scene.written scene)

/-- Runs something with redirections. -/
def redirected (outer : Outer) (redirects : List Redirect) (body : Run → Run) (r : Run) : Run :=
  redirectedOr outer redirects id body r

/-- Ends a script whose redirection has failed. -/
def failing (r : Run) : Run :=
  { r with ended := some (.exited r.status) }

end Run
end Host
end Keyring
