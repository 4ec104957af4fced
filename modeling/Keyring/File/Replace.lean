import Keyring.File.Disk
import Keyring.File.System

/-!
# Replacing a file on disk

A file is replaced through a temporary one beside it: the directories above it are made, a
temporary file that was left behind is deleted, a new one is made that only its owner may use, it is
filled, brought to the disk, and renamed to the file.  When a step fails, the temporary file is
deleted again.

Each step can also be made to fail from outside, which is how trouble with the disk itself is
described.
-/

namespace Keyring

/-- The steps of replacing a file. -/
inductive ReplaceStep
  | makeParents
  | discardOld
  | create
  | fill
  | sync
  | rename
  | discardNew
deriving DecidableEq, Repr

/-- Trouble with the disk: the steps that fail, and why. -/
abbrev Trouble := ReplaceStep → Option OsError

namespace Disk

/-- No trouble. -/
def noTrouble : Trouble := fun _ => none

/-- Makes the directories above a file. -/
def makeParents (trouble : Trouble) (path : String) (d : Disk) : Disk × Except FileFault Unit :=
  match Path.parent? path with
  | none => (d, .ok ())
  | some parent =>
      if parent.isEmpty then (d, .ok ())
      else
        let fault (e : OsError) : FileFault := .system ("create directory " ++ parent) e
        match trouble .makeParents with
        | some e => (d, .error (fault e))
        | none =>
            match d.makeDirectories parent with
            | (d, .ok ()) => (d, .ok ())
            | (d, .error e) => (d, .error (fault e))

/-- A step that the trouble may make fail. -/
def step (trouble : Trouble) (s : ReplaceStep) (d : Disk) (result : Except OsError Disk) :
    Disk × Except OsError Unit :=
  match trouble s with
  | some e => (d, .error e)
  | none =>
      match result with
      | .ok d => (d, .ok ())
      | .error e => (d, .error e)

/-- The tree without a file, which need not exist. -/
def discard (d : Disk) (path : String) : Except OsError Disk :=
  match d.unlink path with
  | .error .notFound => .ok d
  | r => r

/-- Makes a private file with the given bytes. -/
def writePrivate (trouble : Trouble) (path : String) (bytes : ByteArray) (d : Disk) :
    Disk × Except OsError Unit :=
  match step trouble .discardOld d (d.discard path) with
  | (d, .error e) => (d, .error e)
  | (d, .ok ()) =>
      match step trouble .create d (d.createFile path privateMode) with
      | (d, .error e) => (d, .error e)
      | (d, .ok ()) =>
          match step trouble .fill d (d.fill path bytes) with
          | (d, .error e) => (d, .error e)
          | (d, .ok ()) => step trouble .sync d (.ok d)

/-- Writes the temporary file and renames it. -/
def writeAndRename (trouble : Trouble) (path : String) (bytes : ByteArray) (d : Disk) :
    Disk × Except FileFault Unit :=
  let temporary := Path.temporary path
  match writePrivate trouble temporary bytes d with
  | (d, .error e) => (d, .error (.system ("write " ++ temporary) e))
  | (d, .ok ()) =>
      match step trouble .rename d (d.rename temporary path) with
      | (d, .error e) => (d, .error (.system ("persist " ++ path) e))
      | (d, .ok ()) => (d, .ok ())

/-- The tree after the temporary file has been deleted, if that succeeds. -/
def discardNew (trouble : Trouble) (path : String) (d : Disk) : Disk :=
  (step trouble .discardNew d (d.unlink (Path.temporary path))).1

/-- Replaces a file. -/
def replace (trouble : Trouble) (path : String) (text : String) (d : Disk) :
    Except FileFault Unit × Disk :=
  match makeParents trouble path d with
  | (d, .error fault) => (.error fault, d)
  | (d, .ok ()) =>
      match writeAndRename trouble path text.toUTF8 d with
      | (d, .ok ()) => (.ok (), d)
      | (d, .error fault) => (.error fault, d.discardNew trouble path)

/-- The digits of permission bits. -/
def modeText (mode : Nat) : String :=
  String.ofList (Nat.toDigits 8 mode)

/-- Deletes a file that need not exist. -/
def removeFile (path : String) (d : Disk) : Except FileFault Unit × Disk :=
  match d.discard path with
  | .ok d => (.ok (), d)
  | .error e => (.error (.system ("delete " ++ path) e), d)

/-- Sets permission bits. -/
def changeMode (path : String) (mode : Nat) (d : Disk) : Except FileFault Unit × Disk :=
  match d.setMode path mode with
  | .ok d => (.ok (), d)
  | .error e => (.error (.system ("chmod " ++ modeText mode ++ " " ++ path) e), d)

instance : FileSystem Disk where
  present path d := d.present path
  read path d := (d.readText path).mapError fun e => .system ("read " ++ path) e
  write := replace noTrouble
  remove := removeFile
  setMode := changeMode
  elapse := id

end Disk
end Keyring
