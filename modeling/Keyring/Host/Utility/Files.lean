import Keyring.Host.Format
import Keyring.Host.Utility.Reading

/-!
# Utilities for files

The utilities that make, copy, move, list and delete files and directories.
-/

namespace Keyring
namespace Host
namespace Files

/-- The path that drops what is written to it. -/
def nullPath : String := "/dev/null"

/-- Does something with each operand.  What cannot be done is complained about. -/
def forEach (deed : Disk → String → Except OsError Disk) (wording : String → OsError → String)
    (c : Call) (s : Scene) (operands : List (List Char)) : Ending × Scene :=
  let (fine, s) := operands.foldl
    (fun (fine, s) operand =>
      match deed s.disk (c.path operand) with
      | .ok disk => (fine, { s with disk := disk })
      | .error e => (false, s.fault c (wording (String.ofList operand) e)))
    (true, s)
  (statusOf fine 1, s)

/-- The complaint that an action cannot be done with a file. -/
def cannot (action : String) (name : String) (e : OsError) : String :=
  "cannot " ++ action ++ " '" ++ name ++ "': " ++ e.reason

/-- A utility that takes operands and needs at least one. -/
def onOperands (flags valued : List Char) (run : Options → Behaviour) : Utility where
  form := ⟨flags, valued⟩
  mixed := true
  refusal := 1
  run o c s := if o.operands.isEmpty then (.exited 1, s.misuse c "missing operand") else run o c s

/-- Waits, which takes no time here. -/
def sleep : Utility :=
  onOperands [] [] fun _ _ s => (.exited 0, s)

/-- Makes empty files where nothing exists. -/
def touch : Utility :=
  onOperands ['a', 'm', 'c'] ['d', 't', 'r'] fun o c s =>
    let deed (disk : Disk) (path : String) : Except OsError Disk :=
      match disk.look path with
      | .ok _ => .ok disk
      | .error .notFound => if o.has 'c' then .ok disk else disk.createFile path Disk.fileMode
      | .error e => .error e
    forEach deed (cannot "touch") c s o.operands

/-- The tree without a place and all that lies below it. -/
def withoutTree (disk : Disk) (place : Place) : Disk :=
  ⟨disk.nodes.filter fun (p, _) => !place.isPrefixOf p⟩

/-- Deletes a file, or a directory with all that it holds. -/
def discard (whole forced : Bool) (disk : Disk) (path : String) : Except OsError Disk :=
  match disk.look path with
  | .error .notFound => if forced then .ok disk else .error .notFound
  | .error e => .error e
  | .ok (place, .directory _) => if whole then .ok (withoutTree disk place) else .error .isDirectory
  | .ok (place, .file _ _) => .ok (disk.erase place)

/-- Deletes files. -/
def remove : Utility where
  form := ⟨['f', 'r', 'R', 'v', 'i'], []⟩
  mixed := true
  refusal := 1
  run o c s :=
    if o.operands.isEmpty && !o.has 'f' then (.exited 1, s.misuse c "missing operand")
    else forEach (discard (o.has 'r' || o.has 'R') (o.has 'f')) (cannot "remove") c s o.operands

/-- Makes a directory. -/
def makeDirectory (disk : Disk) (path : String) : Except OsError Disk :=
  match disk.locate path with
  | .error e => .error e
  | .ok place =>
      if (disk.at? place).isSome then .error .alreadyExists
      else .ok (disk.put place (.directory Disk.directoryMode))

/-- Makes directories. -/
def makeDirectories : Utility :=
  onOperands ['p', 'v'] ['m'] fun o c s =>
    let deed (disk : Disk) (path : String) : Except OsError Disk :=
      if o.has 'p' then
        let (disk, r) := disk.makeDirectories path
        r.map fun () => disk
      else makeDirectory disk path
    forEach deed (cannot "create directory") c s o.operands

/-- Deletes an empty directory. -/
def removeDirectory (disk : Disk) (path : String) : Except OsError Disk :=
  match disk.look path with
  | .error e => .error e
  | .ok (_, .file _ _) => .error .notDirectory
  | .ok (place, .directory _) =>
      if disk.nodes.any fun (p, _) => Disk.isBelow place p then .error .busy else .ok (disk.erase place)

/-- Deletes empty directories. -/
def removeDirectories : Utility :=
  onOperands ['v'] [] fun o c s =>
    forEach removeDirectory (fun n e => "failed to remove '" ++ n ++ "': " ++ e.reason) c s o.operands

/-- The names in a directory that are shown. -/
def shownNames (every : Bool) (disk : Disk) (path : String) : List String :=
  (disk.list path).filter fun n => every || !n.startsWith "."

/-- Lists files and the names in directories. -/
def list : Utility where
  form := ⟨['1', 'a', 'A', 'd'], []⟩
  mixed := true
  refusal := 2
  run o c s :=
    let names := if o.operands.isEmpty then [['.']] else o.operands
    let missing := names.filterMap fun n =>
      match s.disk.look (c.path n) with
      | .error e => some (n, e)
      | .ok _ => none
    let s := missing.foldl (fun s (n, e) => s.fault c (cannot "access" (String.ofList n) e)) s
    let lines := names.flatMap fun n =>
      match s.disk.look (c.path n) with
      | .error _ => []
      | .ok (_, .file _ _) => [String.ofList n]
      | .ok (_, .directory _) =>
          if o.has 'd' then [String.ofList n] else shownNames (o.has 'a' || o.has 'A') s.disk (c.path n)
    (statusOf missing.isEmpty 2, s.say (lines.flatMap fun l => l.toList ++ ['\n']))

/-- The path to which a file goes: a directory takes it under its own name. -/
def destination (c : Call) (s : Scene) (source target : List Char) : String :=
  match s.disk.look (c.path target) with
  | .ok (_, .directory _) =>
      Path.join (c.path target) (String.ofList (Path.lastComponent source))
  | _ => c.path target

/-- Copies a file.  The copy has the mode of the file, unless there was one before. -/
def copyFile (disk : Disk) (source target : String) : Except OsError Disk :=
  match disk.look source with
  | .error e => .error e
  | .ok (_, .directory _) => .error .isDirectory
  | .ok (_, .file content mode) =>
      let known := disk.present target
      match disk.overwrite target content with
      | .error e => .error e
      | .ok disk => if known then .ok disk else disk.setMode target mode

/-- A utility that brings files to a place. -/
def bringing (flags : List Char) (deed : Disk → String → String → Except OsError Disk)
    (action : String) : Utility where
  form := ⟨flags, []⟩
  mixed := true
  refusal := 1
  run o c s :=
    match o.operands.reverse with
    | target :: source :: more =>
        let (fine, s) := (source :: more).reverse.foldl
          (fun (fine, s) source =>
            match deed s.disk (c.path source) (destination c s source target) with
            | .ok disk => (fine, { s with disk := disk })
            | .error e => (false, s.fault c (cannot action (String.ofList source) e)))
          (true, s)
        (statusOf fine 1, s)
    | [one] =>
        (.exited 1, s.misuse c ("missing destination file operand after '" ++ String.ofList one ++ "'"))
    | [] => (.exited 1, s.misuse c "missing file operand")

/-- Copies files. -/
def copy : Utility := bringing ['f', 'p', 'v', 'i'] copyFile "stat"

/-- Moves files. -/
def move : Utility := bringing ['f', 'v', 'i'] Disk.rename "stat"

/-- The permission bits that a text asks for: octal digits, or changes such as `u+x`. -/
def newMode (text : List Char) (mode : Nat) : Option Nat :=
  if !text.isEmpty && text.all fun c => (Format.octal? c).isSome then
    some (Nat.ofDigitChars 8 text 0)
  else
    (text.splitOn ',').foldl
      (fun mode part =>
        let who := part.takeWhile ['u', 'g', 'o', 'a'].contains
        let classes := [('u', 0o100), ('g', 0o10), ('o', 0o1)].filter fun (w, _) =>
          who.isEmpty || who.contains 'a' || who.contains w
        let bits (letters : List Char) : Nat :=
          [('r', 4), ('w', 2), ('x', 1)].foldl
            (fun n (l, b) => if letters.contains l then n ||| b else n) 0
        let mask (n : Nat) : Nat := classes.foldl (fun m (_, unit) => m ||| n * unit) 0
        match mode, part.drop who.length with
        | some m, '+' :: letters => some (m ||| mask (bits letters))
        | some m, '-' :: letters => some (m &&& (0o777 - mask (bits letters)))
        | some m, '=' :: letters => some ((m &&& (0o777 - mask 7)) ||| mask (bits letters))
        | _, _ => none)
      (some mode)

/-- Changes permission bits. -/
def changeMode : Utility where
  form := ⟨['f', 'v'], []⟩
  mixed := false
  refusal := 1
  run o c s :=
    match o.operands with
    | text :: files =>
        let deed (disk : Disk) (path : String) : Except OsError Disk :=
          match disk.look path with
          | .error e => .error e
          | .ok (_, node) => disk.setMode path ((newMode text node.mode).getD node.mode)
        if files.isEmpty then
          (.exited 1, s.misuse c ("missing operand after '" ++ String.ofList text ++ "'"))
        else if (newMode text 0).isNone then
          (.exited 1, s.misuse c ("invalid mode: '" ++ String.ofList text ++ "'"))
        else forEach deed (cannot "access") c s files
    | [] => (.exited 1, s.misuse c "missing operand")

/-- Writes its input to its output and to files. -/
def duplicate : Utility where
  form := ⟨['a', 'i'], []⟩
  mixed := true
  refusal := 1
  run o c s :=
    let bytes := s.input
    let deed (disk : Disk) (path : String) : Except OsError Disk :=
      if path == nullPath then .ok disk
      else
        let before := if o.has 'a' then (disk.readBytes path).toOption.getD .empty else .empty
        disk.overwrite path ⟨(before.toList ++ bytes).toArray⟩
    let (ending, s) := forEach deed plainWording c { s with input := [] } o.operands
    (ending, s.write .output bytes)

/-- Whether two files are the same. -/
def compare : Utility where
  form := ⟨['s', 'q'], []⟩
  mixed := true
  refusal := 2
  run o c s :=
    let (l, s) := sources c s o.operands
    let (fine, s) := if o.has 's' then (true, s) else reportSources plainWording c l s
    match l with
    | [a, b] =>
        match a.content, b.content with
        | .ok x, .ok y =>
            let names := String.ofList a.name ++ " and " ++ String.ofList b.name
            if x == y then (.exited 0, s)
            else if o.has 's' then (.exited 1, s)
            else (.exited 1, s.say ("Files " ++ names ++ " differ\n").toList)
        | _, _ => (.exited 2, s)
    | _ => (statusOf fine 2, s)

/-- Shows the last component of a path, without a suffix that it may have. -/
def lastName : Utility :=
  onOperands [] [] fun o c s =>
    match o.operands with
    | path :: rest =>
        let name := if path == ['/'] then path else Path.lastComponent path
        let suffix := rest.head?.getD []
        let cut := suffix.isSuffixOf name && suffix.length < name.length
        (.exited 0, s.say ((if cut then name.take (name.length - suffix.length) else name) ++ ['\n']))
    | [] => (.exited 1, s.misuse c "missing operand")

/-- Shows the directories of paths. -/
def directoryName : Utility :=
  onOperands [] [] fun o _ s =>
    let parent (path : List Char) : List Char :=
      match Path.parent? (String.ofList path) with
      | some p => if p.isEmpty then ['.'] else p.toList
      | none => ['/']
    (.exited 0, s.say (o.operands.flatMap fun p => parent p ++ ['\n']))

/-- The directory in which a program works. -/
def placeOf (directory : List Char) : List Char :=
  if directory.isEmpty then ("/" ++ String.intercalate "/" Disk.workingPlace).toList else directory

/-- Shows the directory in which it works. -/
def place : Utility where
  form := ⟨['L', 'P'], []⟩
  mixed := true
  refusal := 1
  run _ c s := (.exited 0, s.say (placeOf c.directory ++ ['\n']))

end Files
end Host
end Keyring
