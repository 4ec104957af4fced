import Keyring.Host.Utilities
import Keyring.Host.Zone
import Keyring.Program
import Std.Time.Zoned.Database

/-!
# The command line

The outermost layer: it copies the files, the variables and the input that an invocation can look at
into a machine, runs the program there, and carries over what has changed.  Nothing is decided here.

Questions are answered from the standard input.  On a terminal the lines are read one by one: as long
as a question or a prompt has found no answer, one more line is read and the program is run again from the
start, which gives the same screen up to that point.  What is entered at a prompt is read like a reply.  The
programs that can be launched are those of the machine, and generated texts are files beside the program.
-/

namespace Keyring
namespace CommandLine

/-- The variables that the program looks at in any case. -/
def watched : List String :=
  ["HOME", "PATH", "XDG_CONFIG_HOME", "XDG_DATA_HOME", Host.Zone.variableName, Program.configVariable,
    Program.dataVariable]

/-- What stands after a text in one of the words, which may also be the value of an option. -/
def namedAfter (start : String) (words : List String) : List String :=
  (words ++ words.flatMap fun w => (w.splitOn "=").drop 1).filterMap (afterStart? start)

/-- The variables that are set. -/
def environment (words : List String) : IO (List (String × String)) := do
  let mut found := []
  for name in watched ++ namedAfter "env:" words do
    if let some value ← IO.getEnv name then found := found ++ [(name, value)]
  return found

/-- The present instant. -/
def now : IO Instant := do
  let t ← Std.Time.Timestamp.now
  let start : Time.Date := ⟨1970, 1, 1⟩
  return .ofParts start.toDays t.toSecondsSinceUnixEpoch.val
    ((t.toNanosecondsSinceUnixEpoch.val % Instant.perSecond).toNat)

/-- The offset of local time; it is that of universal time if nothing is known about it. -/
def offset (environment : List (String × String)) : IO Offset := do
  if let some fixed := Host.Zone.ofVariables? environment then return fixed
  try
    let rules ← Std.Time.Database.defaultGetLocalZoneRules
    let zone := rules.timezoneAt (← Std.Time.Timestamp.now)
    return (Offset.ofSeconds? zone.offset.second.val).getD .utc
  catch _ => return .utc

/-- A generated text. -/
def generated (name : String) : IO String := do
  try IO.FS.readFile ((← IO.appDir) / name) catch _ => return ""

/-- The generated texts. -/
def texts : IO Texts := do
  let usage ← generated "usage"
  let complaint ← generated "complaint"
  let scripts ← Shell.all.mapM fun (name, _) => return (name, ← generated ("completion." ++ name))
  return ⟨usage, fun _ => complaint, fun shell => (scripts.lookup shell.name).getD ""⟩

/-- Copies what exists under a path into a tree. -/
def capture (disk : Disk) (path : String) : IO Disk := do
  let place := (← IO.currentDir) / path
  if ← place.isDir then return (disk.makeDirectories path).1
  else if ← place.pathExists then
    return disk.provide path (← IO.FS.readBinFile place) Disk.fileMode
  else return disk

/-- Carries over what a run has made of a file. -/
def release (before after : Disk) (path : String) : IO Unit := do
  let place := (← IO.currentDir) / path
  match (before.readBytes path).toOption, (after.readBytes path).toOption with
  | some _, none => IO.FS.removeFile place
  | old, some bytes =>
      if old.map ByteArray.data ≠ some bytes.data then
        if let some parent := place.parent then IO.FS.createDirAll parent
        let temporary := (← IO.currentDir) / Path.temporary path
        IO.FS.writeBinFile temporary bytes
        IO.setAccessRights temporary ⟨⟨true, true, false⟩, ⟨false, false, false⟩, ⟨false, false, false⟩⟩
        IO.FS.rename temporary place
  | none, none => return

/-- Runs the program on lines that are read from a terminal as they are needed. -/
partial def converse (texts : Texts) (i : Invocation) (lines : List String) (written : Nat) :
    IO Outcome := do
  let entries := lines.map fun line => .ok (line.trimAsciiEnd.toString)
  let o := Program.run texts { i with input := (String.join lines).toUTF8, entries := some entries }
  let screen := o.screen
  IO.eprint (String.ofList (screen.toList.drop written))
  if o.questions ≤ lines.length then return o
  let line ← (← IO.getStdin).getLine
  if line.isEmpty then return o
  converse texts i (lines ++ [line]) screen.length

/-- Everything on the standard input. -/
partial def readAll (input : IO.FS.Stream) (soFar : ByteArray) : IO ByteArray := do
  let bytes ← input.read 65536
  if bytes.isEmpty then return soFar
  readAll input (soFar ++ bytes)

/-- Runs the program, asking on the terminal if there is one. -/
def perform (texts : Texts) (i : Invocation) : IO Outcome := do
  let input ← IO.getStdin
  if (← input.isTty) && !i.words.contains "-" then converse texts i [] 0
  else
    let o := Program.run texts { i with input := ← readAll input .empty }
    IO.eprint o.screen
    return o

end CommandLine
end Keyring

open Keyring in
/-- The program. -/
def main (words : List String) : IO UInt32 := do
  let environment ← CommandLine.environment words
  let machine := Host.Machine.withUtilities environment (← CommandLine.offset environment)
  let now ← CommandLine.now
  let texts ← CommandLine.texts
  let invocation (disk : Disk) : Invocation :=
    ⟨words, .empty, none, { machine with disk := disk }, now⟩
  let options :=
    match Arguments.parse words with
    | .ok asked => asked.options
    | .error _ => ⟨⟨false, false, false, false⟩, none, none⟩
  let configPath := Location.config options.configFile
    (machine.environment.lookup Program.configVariable) machine.environment
  let disk ← CommandLine.capture machine.disk configPath
  let disk ← (CommandLine.namedAfter "@" words).foldlM CommandLine.capture disk
  let context := Program.context texts (invocation disk) options
  let paths := [context.vault.path, context.marker.path]
  let disk ← paths.foldlM CommandLine.capture disk
  let outcome ← CommandLine.perform texts (invocation disk)
  paths.forM (CommandLine.release disk outcome.machine.disk)
  IO.print outcome.output
  IO.eprint outcome.complaint
  return outcome.status.toUInt32
