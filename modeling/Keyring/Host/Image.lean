import Keyring.Host.Process

/-!
# Executable files

A file can be executed when its mode allows it and its first bytes say how.  The file of a utility starts
with a mark and names the utility.  A script starts with the characters `#!` and names its interpreter on
its first line, perhaps with one argument; the interpreter is then executed with the path of the script
as a further argument, and may be a script itself.

Programs that are called by name are looked for in the directories of a search path.
-/

namespace Keyring
namespace Host

/-- What the first bytes of a file make of it. -/
inductive Image
  | utility (name : String)
  | script (interpreter : List Char) (argument : Option (List Char))
  | unmarked
deriving DecidableEq, Repr

namespace Image

/-- The bytes with which the file of a utility starts. -/
def mark : List UInt8 := [0x7f, 0x45, 0x4c, 0x46]

/-- The number of bytes of a file that are looked at. -/
def headerSize : Nat := 256

/-- Whether a byte is a space or a tab. -/
def isGap (b : UInt8) : Bool :=
  b == 32 || b == 9

/-- Whether a byte ends the path of an interpreter. -/
def isStop (b : UInt8) : Bool :=
  isGap b || b == 0

/-- The argument of an interpreter, which goes to the end of the line. -/
def argumentOf (rest : List UInt8) : Option (List Char) :=
  match rest with
  | b :: _ =>
      if b == 0 then none
      else
        let s := rest.dropWhile isGap
        if s.isEmpty then none else some (textOf (s.takeWhile (· != 0)))
  | [] => none

/-- The interpreter and the argument on a first line. -/
def ofLine (line : List UInt8) : Image :=
  let body := line.dropWhile isGap
  let name := body.takeWhile fun b => !isStop b
  if body.isEmpty then .unmarked
  else .script (textOf name) (argumentOf (body.drop name.length))

/-- What follows `#!` makes of a file.  A first line that does not end within the header counts as far
as it goes, unless the path of the interpreter may be cut off; behind a short file the header is filled
up with zeros. -/
def ofHeader (header : List UInt8) (size : Nat) : Image :=
  if header.contains 10 then
    ofLine ((header.takeWhile (· != 10)).reverse.dropWhile isGap).reverse
  else
    let line := if size < headerSize then header ++ [0] else header.dropLast
    if (line.dropWhile isGap).any isStop then ofLine line else .unmarked

/-- What the bytes of a file make of it. -/
def ofBytes (content : ByteArray) : Image :=
  let bytes := content.toList.take headerSize
  match bytes with
  | 0x23 :: 0x21 :: rest => ofHeader rest content.size
  | bytes =>
      if mark.isPrefixOf bytes then .utility (String.ofList (textOf (bytes.drop mark.length)))
      else .unmarked

end Image

/-- The mode of a program. -/
def programMode : Nat := 0o755

/-- The directories in which the utilities are. -/
def utilityPlaces : List String :=
  ["/bin/", "/usr/bin/"]

/-- The disk with a utility in each of those directories. -/
def installUtility (disk : Disk) (name : String) : Disk :=
  utilityPlaces.foldl
    (fun d place => d.provide (place ++ name) ⟨(Image.mark ++ name.toUTF8.toList).toArray⟩ programMode)
    disk

/-- A utility that is to be run. -/
structure Loaded where
  utility : String
  call : Call
deriving DecidableEq, Repr

/-- How often an interpreter may be a script itself, counting the script that is executed. -/
def interpreterLimit : Nat := 5

/-- Finds the utility that a file is executed by.  `fuel` is the number of scripts that may be on the way.
An interpreter without a name is the directory in which the caller works, which cannot be executed. -/
def loadFrom (disk : Disk) : Nat → List Char → Call → Except OsError Loaded
  | fuel, path, c =>
      match disk.look (c.path path) with
      | .error e => .error e
      | .ok (_, .directory _) => .error .permissionDenied
      | .ok (_, .file content mode) =>
          if !Machine.isExecutable mode then .error .permissionDenied
          else
            match Image.ofBytes content, fuel with
            | .unmarked, _ => .error .notExecutable
            | .utility name, _ => .ok ⟨name, c⟩
            | .script [] _, _ => .error .permissionDenied
            | .script _ _, 0 => .error .tooManyLinks
            | .script interpreter argument, fuel + 1 =>
                loadFrom disk fuel interpreter
                  { c with
                    name := interpreter
                    arguments := argument.toList ++ path :: c.arguments }

/-- Finds the utility that a file is executed by. -/
def load (disk : Disk) (path : List Char) (c : Call) : Except OsError Loaded :=
  loadFrom disk interpreterLimit path c

/-- The shell that runs a file which does not say how it is to be executed. -/
def shellPath : List Char := "/bin/sh".toList

/-- Finds the utility that a file is executed by, which is the shell for a file that does not say. -/
def loadOrRead (disk : Disk) (path : List Char) (c : Call) : Except OsError Loaded :=
  match load disk path c with
  | .error .notExecutable =>
      load disk shellPath { c with name := shellPath, arguments := path :: c.arguments }
  | r => r

/-- The paths of a name in the directories of a search path; an empty directory is the one in which the
caller works. -/
def candidates (search name : List Char) : List (List Char) :=
  (search.splitOn ':').map fun d => if d.isEmpty then name else d ++ '/' :: name

/-- The search path when there is none in the environment. -/
def defaultSearch : List Char := "/bin:/usr/bin".toList

/-- Takes the first of several paths that can be loaded.  A path that does not exist is passed over, and
so is one that may not be executed, which is remembered as the reason if nothing else is found. -/
def loadFirst (attempt : List Char → Except OsError Loaded) (reason : OsError) :
    List (List Char) → Except OsError Loaded
  | [] => .error reason
  | path :: rest =>
      match attempt path with
      | .ok l => .ok l
      | .error .permissionDenied => loadFirst attempt .permissionDenied rest
      | .error .notFound =>
          loadFirst attempt (if reason = .permissionDenied then reason else .notFound) rest
      | .error .notDirectory =>
          loadFirst attempt (if reason = .permissionDenied then reason else .notDirectory) rest
      | .error e => .error e

/-- Whether a text is a path rather than a name. -/
def isPath (program : List Char) : Bool :=
  program.contains '/'

/-- Finds the utility for a program that is called by its path or by its name. -/
def find (attempt : List Char → Except OsError Loaded) (search program : List Char) :
    Except OsError Loaded :=
  if program.isEmpty then .error .notFound
  else if isPath program then attempt program
  else loadFirst attempt .notFound (candidates search program)

/-- The first place on a search path where a file can be executed. -/
def whereIs? (disk : Disk) (directory search name : List Char) : Option (List Char) :=
  let fits (path : List Char) : Bool :=
    match disk.look (pathFrom directory path) with
    | .ok (_, .file _ mode) => Machine.isExecutable mode
    | _ => false
  if isPath name then (if fits name then some name else none)
  else (candidates search name).find? fits

end Host
end Keyring
