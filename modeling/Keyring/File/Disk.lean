import Keyring.File.Path
import Keyring.File.Fault
import Keyring.Text.Utf8

/-!
# A file tree

A disk is a tree of directories and files with permission bits.  A path is looked up component by
component, each of which must lead out of a directory; dots are resolved on the way.  Every
operation names the reason for which the operating system would refuse it.

The tree is kept as a list of the absolute places that exist, without the root, which always does.
-/

namespace Keyring

/-- What exists at a place of a file tree. -/
inductive Node
  | file (content : ByteArray) (mode : Nat)
  | directory (mode : Nat)

/-- The permission bits of a node. -/
def Node.mode : Node → Nat
  | .file _ mode => mode
  | .directory mode => mode

/-- The node with other permission bits. -/
def Node.withMode (mode : Nat) : Node → Node
  | .file content _ => .file content mode
  | .directory _ => .directory mode

/-- A place in a file tree: the names that lead to it from the root. -/
abbrev Place := List String

/-- A file tree. -/
structure Disk where
  nodes : List (Place × Node)

namespace Disk

/-- The permission bits of a directory that is made on the way to a file. -/
def directoryMode : Nat := 0o755

/-- The permission bits of an ordinary file. -/
def fileMode : Nat := 0o644

/-- The longest name of a component in bytes. -/
def nameLimit : Nat := 255

/-- The longest path in bytes. -/
def pathLimit : Nat := 4095

/-- The number of combinations of permission bits; the bits beyond them are not kept. -/
def modeCount : Nat := 0o1000

/-- A tree that holds nothing but the root. -/
def empty : Disk := ⟨[]⟩

instance : Inhabited Disk := ⟨empty⟩

/-- What exists at a place. -/
def at? (d : Disk) (place : Place) : Option Node :=
  if place.isEmpty then some (.directory directoryMode) else d.nodes.lookup place

/-- The tree with a node put at a place. -/
def put (d : Disk) (place : Place) (node : Node) : Disk :=
  ⟨(place, node) :: d.nodes.filter fun (p, _) => p != place⟩

/-- The tree with nothing at a place. -/
def erase (d : Disk) (place : Place) : Disk :=
  ⟨d.nodes.filter fun (p, _) => p != place⟩

/-- Looks up components from a place on. -/
def walk (d : Disk) (base : Place) : List String → Except OsError Place
  | [] => .ok base
  | name :: rest =>
      match d.at? base with
      | none => .error .notFound
      | some (.file _ _) => .error .notDirectory
      | some (.directory _) =>
          if name = "." then d.walk base rest
          else if name = ".." then d.walk base.dropLast rest
          else if name.utf8ByteSize > nameLimit then .error .nameTooLong
          else d.walk (base ++ [name]) rest

/-- The place that relative paths start from. -/
def workingPlace : Place := ["work"]

/-- Whether a path asks for a directory by its last character. -/
def asksDirectory (path : String) : Bool :=
  path.toList.getLast? == some '/'

/-- Whether the last component of a path is a dot or two, so that it names a directory which cannot be
replaced. -/
def endsInDots (path : String) : Bool :=
  match (Path.components path).getLast? with
  | some name => name == "." || name == ".."
  | none => false

/-- The place that a path leads to, whether or not something exists there. -/
def locate (d : Disk) (path : String) : Except OsError Place :=
  if path.isEmpty then .error .notFound
  else if path.toList.contains '\x00' then .error .nulInName
  else if path.utf8ByteSize > pathLimit then .error .nameTooLong
  else d.walk (if Path.isAbsolute path then [] else workingPlace) (Path.components path)

/-- The place and the node that a path leads to. -/
def look (d : Disk) (path : String) : Except OsError (Place × Node) :=
  match d.locate path with
  | .error e => .error e
  | .ok place =>
      match d.at? place with
      | none => .error .notFound
      | some (.file content mode) =>
          if asksDirectory path then .error .notDirectory else .ok (place, .file content mode)
      | some (.directory mode) => .ok (place, .directory mode)

/-- Whether something exists under a path. -/
def present (d : Disk) (path : String) : Bool :=
  (d.look path).toOption.isSome

/-- The directory whose files are devices. -/
def devicePlace : Place := ["dev"]

/-- Whether a file exists under a path that is no device. -/
def isFile (d : Disk) (path : String) : Bool :=
  match d.look path with
  | .ok (place, .file _ _) => !devicePlace.isPrefixOf place
  | _ => false

/-- The bytes of a file. -/
def readBytes (d : Disk) (path : String) : Except OsError ByteArray :=
  match d.look path with
  | .error e => .error e
  | .ok (_, .directory _) => .error .isDirectory
  | .ok (_, .file content _) => .ok content

/-- The text of a file. -/
def readText (d : Disk) (path : String) : Except OsError String :=
  match d.readBytes path with
  | .error e => .error e
  | .ok bytes =>
      match Text.decode? bytes with
      | some text => .ok text
      | none => .error .notText

/-- Deletes a file. -/
def unlink (d : Disk) (path : String) : Except OsError Disk :=
  match d.look path with
  | .error e => .error e
  | .ok (_, .directory _) => .error .isDirectory
  | .ok (place, .file _ _) => .ok (d.erase place)

/-- Makes an empty file where nothing exists. -/
def createFile (d : Disk) (path : String) (mode : Nat) : Except OsError Disk :=
  match d.locate path with
  | .error e => .error e
  | .ok place =>
      if (d.at? place).isSome then .error .alreadyExists
      else if asksDirectory path then .error .isDirectory
      else .ok (d.put place (.file ByteArray.empty mode))

/-- Replaces the bytes of a file that exists. -/
def fill (d : Disk) (path : String) (bytes : ByteArray) : Except OsError Disk :=
  match d.look path with
  | .error e => .error e
  | .ok (_, .directory _) => .error .isDirectory
  | .ok (place, .file _ mode) => .ok (d.put place (.file bytes mode))

/-- Opens a file for writing from its start, making it if there is none, and fills it. -/
def overwrite (d : Disk) (path : String) (bytes : ByteArray) : Except OsError Disk :=
  match d.look path with
  | .ok _ => d.fill path bytes
  | .error .notFound =>
      match d.createFile path fileMode with
      | .error e => .error e
      | .ok d => d.fill path bytes
  | .error e => .error e

/-- Makes the directories that are missing on the way to a place. -/
def makePlaces (d : Disk) (base : Place) : List String → Disk × Except OsError Unit
  | [] => (d, .ok ())
  | name :: rest =>
      if name = "." then d.makePlaces base rest
      else if name = ".." then d.makePlaces base.dropLast rest
      else if name.utf8ByteSize > nameLimit then (d, .error .nameTooLong)
      else
        let place := base ++ [name]
        match d.at? place with
        | some (.directory _) => d.makePlaces place rest
        | some (.file _ _) => (d, .error (if rest.isEmpty then .alreadyExists else .notDirectory))
        | none => (d.put place (.directory directoryMode)).makePlaces place rest

/-- Makes a directory and the directories above it, as far as they are missing. -/
def makeDirectories (d : Disk) (path : String) : Disk × Except OsError Unit :=
  if path.toList.contains '\x00' then (d, .error .nulInName)
  else if path.utf8ByteSize > pathLimit then (d, .error .nameTooLong)
  else d.makePlaces (if Path.isAbsolute path then [] else workingPlace) (Path.components path)

/-- Sets the permission bits of what exists under a path. -/
def setMode (d : Disk) (path : String) (mode : Nat) : Except OsError Disk :=
  match d.look path with
  | .error e => .error e
  | .ok (place, node) => .ok (d.put place (node.withMode (mode % modeCount)))

/-- The tree with a file put under a path, as far as that is possible, together with the directories
above it. -/
def provide (d : Disk) (path : String) (bytes : ByteArray) (mode : Nat) : Disk :=
  let d := match Path.parent? path with
    | some parent => (d.makeDirectories parent).1
    | none => d
  match d.overwrite path bytes with
  | .error _ => d
  | .ok d => (d.setMode path mode).toOption.getD d

/-- Moves a file to a path, in the place of the file that exists there. -/
def rename (d : Disk) (source target : String) : Except OsError Disk :=
  match d.look source, d.locate target with
  | .error e, _ => .error e
  | .ok _, .error e => .error e
  | .ok (_, .directory _), .ok _ => .error .isDirectory
  | .ok (base, .file content mode), .ok place =>
      if endsInDots target then .error .busy
      else if asksDirectory target then .error .notDirectory
      else
        match d.at? place with
        | some (.directory _) => .error .isDirectory
        | _ => .ok ((d.erase base).put place (.file content mode))

/-- The permission bits of what exists under a path. -/
def mode? (d : Disk) (path : String) : Option Nat :=
  match d.look path with
  | .ok (_, node) => some node.mode
  | .error _ => none

/-- Whether a place lies directly below another. -/
def isBelow (above place : Place) : Bool :=
  place.length == above.length + 1 && place.take above.length == above

/-- The names in a directory, sorted. -/
def list (d : Disk) (path : String) : List String :=
  match d.look path with
  | .ok (place, .directory _) =>
      (d.nodes.filterMap fun (p, _) => if isBelow place p then p.getLast? else none).mergeSort
        fun a b => a ≤ b
  | _ => []

end Disk
end Keyring
