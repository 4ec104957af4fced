import Keyring.Host.Shell.Interpreter
import Keyring.Host.Utility.Editor
import Keyring.Host.Utility.Expression
import Keyring.Host.Utility.Lines

/-!
# The programs of a machine

The utilities that a machine has, by their names, and what they do.  A few of them start other programs:
the shell, which runs scripts, and the utilities that change how a program is run.  How deep programs
start others is bounded.
-/

namespace Keyring
namespace Host
namespace Programs

/-- The utilities that do not start programs, by their names. -/
def simple : List (String × Behaviour) :=
  [("true", Show.nothing 0), ("false", Show.nothing 1), ("sleep", Files.sleep.behave), ("echo", Show.echo),
    ("printf", Show.printf), ("expr", Compute.behave), ("test", Test.utility false),
    ("[", Test.utility true), ("cat", Lines.copy.behave), ("tac", Lines.reverse.behave),
    ("head", fun c => Lines.head.behave { c with arguments := Lines.withNumber c.arguments }),
    ("tail", fun c => Lines.tail.behave { c with arguments := Lines.withNumber c.arguments }),
    ("cut", Lines.cut.behave), ("wc", Lines.counts.behave), ("grep", (Lines.search []).behave),
    ("fgrep", (Lines.search ['F']).behave), ("egrep", (Lines.search ['E']).behave),
    ("sed", Editor.utility.behave), ("sort", Lines.sort.behave), ("uniq", Lines.distinct.behave),
    ("tr", Lines.exchange.behave), ("seq", Lines.sequence.behave), ("tee", Files.duplicate.behave),
    ("touch", Files.touch.behave), ("rm", Files.remove.behave), ("mkdir", Files.makeDirectories.behave),
    ("rmdir", Files.removeDirectories.behave), ("ls", Files.list.behave), ("cp", Files.copy.behave),
    ("mv", Files.move.behave), ("chmod", Files.changeMode.behave), ("cmp", Files.compare.behave),
    ("basename", Files.lastName.behave), ("dirname", Files.directoryName.behave),
    ("pwd", Files.place.behave)]

/-- The names of the shell. -/
def shells : List String := ["sh", "dash", "bash"]

/-- The utilities that start a program, by their names. -/
def starters : List String := ["env", "printenv", "nice", "nohup", "timeout", "xargs"]

/-- Utilities of a machine that refuse options with long names and do nothing else here. -/
def others : List String :=
  ["arch", "base32", "base64", "chgrp", "chown", "cksum", "comm", "csplit", "date", "dd", "df", "diff", "du",
    "expand", "factor", "find", "fmt", "fold", "groups", "hostid", "id", "install", "join", "link",
    "ln", "logname", "md5sum", "mkfifo", "mknod", "mktemp", "nl", "nproc", "numfmt", "od", "paste", "pr",
    "ptx", "readlink", "realpath", "sha1sum", "sha256sum", "sha512sum", "shred", "shuf", "split", "stat",
    "stdbuf", "stty", "sum", "sync", "truncate", "tsort", "tty", "uname", "unexpand", "unlink", "users",
    "who", "whoami", "yes", "awk", "gzip", "tar", "more", "hostname", "kill", "ps", "rev", "which"]

/-- The names of all utilities. -/
def names : List String :=
  simple.map Prod.fst ++ shells ++ starters ++ others

/-- Does nothing, but refuses an option with a long name. -/
def refusing : Behaviour := fun c s =>
  match c.arguments.find? fun a => ['-', '-'].isPrefixOf a && a.length > 2 with
  | some a =>
      (.exited 1, s.misuse c (OptionFault.unknownName a).message)
  | none => (.exited 0, s)

/-! ## The shell -/

/-- What a shell is to run: the text of a script, its name and its arguments, with the letters of the
options that have been set. -/
structure Order where
  text : List Char
  name : List Char
  arguments : List (List Char)
  letters : List Char

/-- Reads the arguments of a shell.  An error is a complaint. -/
def readOrder (c : Call) (s : Scene) (letters : List Char) : List (List Char) → Except String Order
  | [] => .ok ⟨textOf s.input, c.name, [], letters⟩
  | a :: rest =>
      match a with
      | '-' :: '-' :: _ :: _ => .error "Illegal option --"
      | '-' :: more =>
          if more.isEmpty || more == ['-'] then
            match rest with
            | [] => .ok ⟨textOf s.input, c.name, [], letters⟩
            | file :: arguments => fromFile file arguments
          else if more.contains 'c' then
            match rest with
            | [] => .error "-c requires an argument"
            | [text] => .ok ⟨text, c.name, [], letters ++ more⟩
            | text :: name :: arguments => .ok ⟨text, name, arguments, letters ++ more⟩
          else if more.contains 's' then .ok ⟨textOf s.input, c.name, rest, letters ++ more⟩
          else readOrder c s (letters ++ more) rest
      | file => fromFile file rest
where
  /-- What a shell runs when it is given a file. -/
  fromFile (file : List Char) (arguments : List (List Char)) : Except String Order :=
    match s.disk.readBytes (c.path file) with
    | .ok bytes => .ok ⟨textOf bytes.toList, file, arguments, letters⟩
    | .error e =>
        .error ("cannot open " ++ String.ofList file ++ ": " ++ Run.openReason "No such file" e)

/-- The state in which a shell starts. -/
def startingRun (c : Call) (s : Scene) (o : Order) : Run :=
  let isName (n : List Char) : Bool :=
    n.all Script.isVariableChar && n.head?.any fun d => !d.isDigit
  let bindings := c.environment.filter fun b => isName b.1
  let isBash := c.name.reverse.take 4 == "hsab".toList
  let r : Run :=
    { name := o.name, arguments := o.arguments, store := [], functions := [], traps := [], locals := [],
      directory := c.directory, scene := s, line := 0, status := 0, substituted := none, ended := none,
      jump := none, strict := o.letters.contains 'e', bound := o.letters.contains 'u', guarded := false,
      plain := isBash, loops := 0 }
  let r := bindings.reverse.foldl (fun r (n, v) => (r.unset n).put ⟨n, v, true⟩) r
  r.assign "PWD".toList (Files.placeOf c.directory)

/-- Runs what a script wants done at its end. -/
def atExit (outer : Outer) (r : Run) : Run :=
  match r.ending, r.traps.lookup 0 with
  | .exited status, some action =>
      let last := outer.scripts (Script.ofText action)
        { r with ended := none, jump := none, status := status, traps := [] }
      if last.ended.isSome then last else { last with ended := some (.exited status) }
  | _, _ => r

/-- Runs the commands of a whole script, and at last what it wants done at its end. -/
def main (outer : Outer) : List Script → Run → Run
  | [], r => atExit outer r
  | s :: rest, r =>
      if r.halted then atExit outer r
      else
        match Run.redirectsAll s with
        | some (line, redirects) =>
            Run.redirectedOr outer redirects Run.failing (main outer rest) { r with line := line }
        | none => main outer rest (outer.scripts [s] r)

/-- Runs a shell. -/
def shell (outer : Outer) : Behaviour := fun c s =>
  match readOrder c s [] c.arguments with
  | .error text => (.exited 2, s.complain (String.ofList c.name ++ ": 0: " ++ text ++ "\n"))
  | .ok o =>
      let r := main outer (Script.ofText o.text) (startingRun c s o)
      (r.ending, r.scene)

/-! ## Utilities that start programs -/

/-- The search path in an environment. -/
def searchOf (environment : List (List Char × List Char)) : List Char :=
  (environment.lookup "PATH".toList).getD defaultSearch

/-- Starts a program for a utility, which complains in its own words when that fails. -/
def startFor (outer : Outer) (wording : String → String) (c : Call)
    (environment : List (List Char × List Char)) (words : List (List Char)) (s : Scene) : Ending × Scene :=
  match words with
  | [] => (.exited 0, s)
  | name :: arguments =>
      match outer.start (searchOf environment) ⟨name, arguments, environment, c.directory⟩ s with
      | .ok r => r
      | .error e =>
          (.exited (if e = .notFound then 127 else 126),
            s.fault c (wording (String.ofList name) ++ ": " ++ e.reason))

/-- A name between quotation marks. -/
def quoted (name : String) : String :=
  "'" ++ name ++ "'"

/-- A name between quotation marks, after what was to be done with it. -/
def asCommand (name : String) : String :=
  "failed to run command " ++ quoted name

/-- The words of a text that blanks separate; blanks between quotation marks do not.  `quote` is the mark
that is open, and `word` what has been read of a word, the last character first. -/
def readWords (quote : Option Char) (word : Option (List Char)) : List Char → List (List Char)
  | [] => (word.map List.reverse).toList
  | '\\' :: c :: rest =>
      readWords quote (some (if quote = some '\'' then c :: '\\' :: word.getD [] else c :: word.getD []))
        rest
  | c :: rest =>
      match quote with
      | some q =>
          if c = q then readWords none (some (word.getD [])) rest
          else readWords quote (some (c :: word.getD [])) rest
      | none =>
          if c = '"' || c = '\'' then readWords (some c) (some (word.getD [])) rest
          else if Text.isBlank c then (word.map List.reverse).toList ++ readWords none none rest
          else readWords none (some (c :: word.getD [])) rest

/-- The words of a text that blanks separate. -/
def wordsOf (s : List Char) : List (List Char) :=
  readWords none none s

/-- Splits the options of `env` that are given as one text. -/
def splitStrings (arguments : List (List Char)) : List (List Char) :=
  match arguments with
  | ['-', 'S'] :: text :: rest => wordsOf text ++ rest
  | ('-' :: 'S' :: text) :: rest => wordsOf text ++ rest
  | arguments => arguments

/-- Sets variables as the first arguments say.  Returns the environment and the command. -/
def setAll (environment : List (List Char × List Char)) :
    List (List Char) → List (List Char × List Char) × List (List Char)
  | [] => (environment, [])
  | a :: rest =>
      match Run.binding a with
      | (name, some value) => setAll ((environment.filter fun b => b.1 != name) ++ [(name, value)]) rest
      | (_, none) => (environment, a :: rest)

/-- An environment on lines. -/
def linesFor (environment : List (List Char × List Char)) : List Char :=
  environment.flatMap fun (n, v) => n ++ '=' :: v ++ ['\n']

/-- Runs a program in an environment that has been changed, or shows that environment. -/
def environmentUtility (outer : Outer) : Utility where
  form := ⟨['i', '0'], ['u', 'C']⟩
  mixed := false
  refusal := 125
  run o c s :=
    let dropped := (o.given.filter fun g => g.1 == 'u').map Prod.snd
    let operands := if o.operands.head? == some ['-'] then o.operands.tail else o.operands
    let base := if o.has 'i' || operands.length < o.operands.length then [] else
      c.environment.filter fun b => !dropped.contains b.1
    let (environment, words) := setAll base operands
    if words.isEmpty then (.exited 0, s.say (linesFor environment))
    else startFor outer quoted c environment words s

/-- Shows variables of the environment. -/
def showVariables : Utility where
  form := ⟨['0'], []⟩
  mixed := true
  refusal := 2
  run o c s :=
    if o.operands.isEmpty then (.exited 0, s.say (linesFor c.environment))
    else
      let values := o.operands.map fun n => c.environment.lookup n
      (statusOf (values.all Option.isSome) 1,
        s.say ((values.filterMap id).flatMap fun v => v ++ ['\n']))

/-- Runs a program after some operands of its own. -/
def running (outer : Outer) (wording : String → String) (valued : List Char) (own : Nat) :
    Utility where
  form := ⟨['v', 'f'], valued⟩
  mixed := false
  refusal := 125
  run o c s := startFor outer wording c c.environment (o.operands.drop own) s

/-- Divides words into groups of a size; `fuel` bounds their number. -/
def grouped (size : Nat) : Nat → List (List Char) → List (List (List Char))
  | 0, _ => []
  | _ + 1, [] => []
  | fuel + 1, words => words.take size :: grouped size fuel (words.drop size)

/-- Runs a program with the words of the input as further arguments. -/
def collecting (outer : Outer) : Utility where
  form := ⟨['r', 't', '0'], ['n', 'I', 'L']⟩
  mixed := false
  refusal := 1
  run o c s :=
    let text := textOf s.input
    let s := { s with input := [] }
    let command := if o.operands.isEmpty then ["echo".toList] else o.operands
    let runAll (batches : List (List (List Char))) : Ending × Scene :=
      let (fine, s) := batches.foldl
        (fun (fine, s) words =>
          let (ending, s) := startFor outer id c c.environment words s
          (fine && ending = .exited 0, s)) (true, s)
      (statusOf fine 123, s)
    match o.value? 'I' with
    | some mark =>
        let lines := (text.splitOn '\n').filter (!·.isEmpty)
        let fill (line word : List Char) : List Char :=
          ((String.ofList word).replace (String.ofList mark) (String.ofList line)).toList
        runAll (lines.map fun line => command.map (fill line))
    | none =>
        let words := wordsOf text
        if words.isEmpty && o.has 'r' then (.exited 0, s)
        else
          match (o.value? 'n').map count with
          | some (n + 1) => runAll ((grouped (n + 1) words.length words).map (command ++ ·))
          | _ => runAll [command ++ words]

/-- What a utility does. -/
def behaviour (outer : Outer) (name : String) : Behaviour :=
  if shells.contains name then shell outer
  else
    match name, simple.lookup name with
    | _, some b => b
    | "env", none =>
        fun c => (environmentUtility outer).behave { c with arguments := splitStrings c.arguments }
    | "printenv", none => showVariables.behave
    | "nice", none => (running outer quoted ['n'] 0).behave
    | "nohup", none => (running outer asCommand [] 0).behave
    | "timeout", none => (running outer asCommand ['k', 's'] 1).behave
    | "xargs", none => (collecting outer).behave
    | _, none => refusing

/-- Starts a program that is found on a search path. -/
def startOn (outer : Outer) (search : List Char) (c : Call) (s : Scene) : Except OsError (Ending × Scene) :=
  (find (fun path => loadOrRead s.disk path c) search c.name).map fun l =>
    behaviour outer l.utility l.call s

/-- What scripts run beside their own commands, as deep as the given number. -/
def outerOf : Nat → Outer
  | 0 => ⟨fun _ r => { r with ended := some (.exited 127) }, fun _ _ _ => .error .notFound⟩
  | depth + 1 =>
      let outer := outerOf depth
      ⟨Run.scripts outer, startOn outer⟩

/-- How deep programs may start others. -/
def greatestDepth : Nat := 200

/-- Runs a utility that has been found. -/
def run (l : Loaded) (s : Scene) : Ending × Scene :=
  behaviour (outerOf greatestDepth) l.utility l.call s

/-- The disk with all utilities. -/
def install (disk : Disk) : Disk :=
  names.foldl installUtility disk

end Programs
end Host
end Keyring
