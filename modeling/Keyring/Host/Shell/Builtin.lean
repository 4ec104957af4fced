import Keyring.Host.Shell.Expansion
import Keyring.Host.Shell.Signal
import Keyring.Host.Utility.Show
import Keyring.Host.Utility.Test

/-!
# Commands of the shell itself

The commands that a shell does not start as programs, because they change the state of the script or
because they are simple.
-/

namespace Keyring
namespace Host
namespace Run

/-- Splits a word that assigns a variable into its name and the word for its value; `name` is what has
been read of the name. -/
def assignment? (name : List Char) : Word → Option (List Char × Word)
  | .text s false :: rest =>
      let front := s.takeWhile (· != '=')
      if front.length = s.length then assignment? (name ++ s) rest
      else
        let name := name ++ front
        let fits := name.all Script.isVariableChar && name.head?.any fun c => !c.isDigit
        if fits then some (name, .text (s.drop (front.length + 1)) false :: rest) else none
  | _ => none

/-- Splits a text at its first equals sign. -/
def binding (s : List Char) : List Char × Option (List Char) :=
  let name := s.takeWhile (· != '=')
  (name, if name.length = s.length then none else some (s.drop (name.length + 1)))

/-- Starts a program with the words of a command.  Returns how it ended; a program that cannot be started
makes a status of its own, and a complaint with a given front. -/
def external (outer : Outer) (r : Run) (front : String) (name : List Char)
    (arguments : List (List Char)) : Run × Ending :=
  match outer.start r.search (r.call name arguments) r.scene with
  | .ok (ending, scene) =>
      let r := { r with scene := scene, status := ending.status }
      let r := match ending with
        | .signalled signal =>
            match Signal.obituary? signal with
            | some text => r.withScene (r.scene.complain (text ++ "\n"))
            | none => r
        | .exited _ => r
      (r, ending)
  | .error e =>
      let missing := [OsError.notFound, .notDirectory].contains e
      let status := if missing || [OsError.nameTooLong, .tooManyLinks].contains e then 127 else 126
      let reason := if missing then "not found" else e.reason
      (r.fault (front ++ String.ofList name ++ ": " ++ reason) status, .exited status)

/-- Ends the script with the status that an argument asks for. -/
def exit (r : Run) (arguments : List (List Char)) : Run :=
  match arguments with
  | [] => { r with ended := some (.exited r.status) }
  | n :: _ =>
      match Format.natural? 10 n with
      | some n => { r with status := n % 256, ended := some (.exited (n % 256)) }
      | none => r.abort ("exit: Illegal number: " ++ String.ofList n)

/-- The number of levels or arguments that a command is asked for. -/
def levels (arguments : List (List Char)) : Nat :=
  ((arguments.head?).bind (Format.natural? 10)).getD 1

/-- Does what the script wants done on a signal; a signal that it has not said anything about ends it. -/
def receive (outer : Outer) (r : Run) (signal : Nat) : Run :=
  let action := if signal = Signal.kill then none else r.traps.lookup signal
  match action with
  | some [] => { r with status := 0 }
  | some action => { outer.scripts (Script.ofText action) r with status := 0 }
  | none =>
      if Signal.harmless.contains signal then { r with status := 0 }
      else { r with ended := some (.signalled signal) }

/-- The signal and the targets of a `kill` command. -/
def killArguments (arguments : List (List Char)) : Option Nat × List (List Char) :=
  match arguments with
  | ['-', 's'] :: name :: rest => (Signal.number? name, rest)
  | ('-' :: name) :: rest =>
      if name == ['-'] then (some Signal.terminate, rest) else (Signal.number? name, rest)
  | rest => (some Signal.terminate, rest)

/-- What `kill` says when it is given no targets. -/
def killUsage : String :=
  "kill: Usage: kill [-s sigspec | -signum | -sigspec] [pid | job]... or\nkill -l [exitstatus]"

/-- Sends a signal. -/
def kill (outer : Outer) (r : Run) (arguments : List (List Char)) : Run :=
  if arguments == [['-', 'l']] then
    r.withScene (r.scene.say (Signal.names.flatMap fun n => n.toList ++ ['\n'])) |>.withStatus 0
  else match killArguments arguments with
  | (none, _) => r.fault "kill: Illegal option -S" 2
  | (some _, []) => r.fault killUsage 2
  | (some signal, targets) =>
      if targets.contains processNumber then r.receive outer signal
      else r.fault "kill: No such process\n" 1

/-- Says what is to be done on signals. -/
def trap (r : Run) (arguments : List (List Char)) : Run :=
  match arguments with
  | [] => r.withStatus 0
  | action :: signals =>
      let (action, signals) :=
        if action == ['-'] then (none, signals)
        else if signals.isEmpty then (none, [action])
        else (some action, signals)
      signals.foldl
        (fun r name =>
          match Signal.number? name with
          | none => r.fault ("trap: " ++ String.ofList name ++ ": bad trap") 1
          | some n =>
              let others := r.traps.filter fun t => t.1 != n
              { r with traps := (action.toList.map fun a => (n, a)) ++ others })
        (r.withStatus 0)

/-- Sets options of the shell: `given` says whether they are switched on. -/
def setOptions (r : Run) (given : Bool) (letters : List Char) : Run :=
  letters.foldl
    (fun r letter =>
      if letter == 'e' then { r with strict := given }
      else if letter == 'u' then { r with bound := given }
      else r) r

/-- Sets options and arguments. -/
def set (r : Run) : List (List Char) → Run
  | [] => r.withStatus 0
  | ['-', '-'] :: rest => { r with arguments := rest, status := 0 }
  | ['-', 'o'] :: name :: rest =>
      let r := match String.ofList name with
        | "errexit" => r.setOptions true ['e']
        | "nounset" => r.setOptions true ['u']
        | _ => r
      r.set rest
  | ('-' :: letters) :: rest => (r.setOptions true letters).set rest
  | ('+' :: letters) :: rest => (r.setOptions false letters).set rest
  | rest => { r with arguments := rest, status := 0 }

/-- Makes variables part of the environment, giving values to some. -/
def declare (r : Run) (arguments : List (List Char)) : Run :=
  arguments.foldl
    (fun r a =>
      match binding a with
      | (name, some value) => (r.assign name value).put ⟨name, value, true⟩
      | (name, none) => r.exporting name)
    (r.withStatus 0)

/-- Makes variables that last as long as the function that is being run. -/
def localize (r : Run) (arguments : List (List Char)) : Run :=
  arguments.foldl
    (fun r a =>
      let (name, value) := binding a
      let r := { r with locals := (name, r.variableOf name) :: r.locals }
      match value with
      | some value => r.assign name value
      | none => r)
    (r.withStatus 0)

/-- Removes variables or functions. -/
def discard (r : Run) (arguments : List (List Char)) : Run :=
  match arguments with
  | ['-', 'f'] :: names =>
      { r with functions := r.functions.filter fun f => !names.contains f.1, status := 0 }
  | ['-', 'v'] :: names => names.foldl Run.unset (r.withStatus 0)
  | names => names.foldl Run.unset (r.withStatus 0)

/-- Goes to a directory. -/
def changeDirectory (r : Run) (arguments : List (List Char)) : Run :=
  let target := match arguments with
    | [] => (r.lookup "HOME").getD []
    | ['-'] :: _ => (r.lookup "OLDPWD").getD []
    | ['-', '-'] :: rest => (rest.head?).getD []
    | target :: _ => target
  match r.scene.disk.look (r.path target) with
  | .ok (place, .directory _) =>
      let directory := ("/" ++ String.intercalate "/" place).toList
      let r := r.assign "OLDPWD".toList (Files.placeOf r.directory)
      { r.assign "PWD".toList directory with directory := directory, status := 0 }
  | _ => r.fault ("cd: can't cd to " ++ String.ofList target) 2

/-- A line of the input up to its end, which counts as read; a line that ends in a backslash is joined
with the next one unless lines are taken as they are.  `fuel` bounds the number of characters. -/
def readLine (raw : Bool) : Nat → List UInt8 → List UInt8 × List UInt8 × Bool
  | 0, s => ([], s, false)
  | _ + 1, [] => ([], [], false)
  | fuel + 1, b :: rest =>
      if b == 10 then ([], rest, true)
      else
        match raw, b == 92, rest with
        | false, true, 10 :: rest => readLine raw fuel rest
        | false, true, d :: rest =>
            let (line, rest, complete) := readLine raw fuel rest
            (b :: d :: line, rest, complete)
        | _, _, rest =>
            let (line, rest, complete) := readLine raw fuel rest
            (b :: line, rest, complete)

/-- A text without the backslashes that take the meaning from other characters. -/
def withoutBackslashes : List Char → List Char
  | '\\' :: c :: rest => c :: withoutBackslashes rest
  | c :: rest => c :: withoutBackslashes rest
  | [] => []

/-- Divides a line among names: the last one gets what is left. -/
def divide (separators : List Char) : List (List Char) → List Char → List (List Char × List Char)
  | [], _ => []
  | names, line =>
      let isGap (c : Char) : Bool := separators.contains c && (c == ' ' || c == '\t' || c == '\n')
      let line := line.dropWhile isGap
      match names with
      | [] => []
      | [name] =>
          let kept := (line.reverse.dropWhile isGap).reverse
          let once := kept.takeWhile fun c => !separators.contains c
          [(name, if once.length + 1 = kept.length then once else kept)]
      | name :: others =>
          let word := line.takeWhile fun c => !separators.contains c
          let rest := (line.drop word.length).dropWhile isGap
          let rest := match rest with
            | c :: after => if separators.contains c && !isGap c then after else c :: after
            | [] => []
          (name, word) :: divide separators others rest

/-- Reads a line of the input into variables. -/
def read (r : Run) (arguments : List (List Char)) : Run :=
  let options := arguments.takeWhile fun a => a.head? == some '-'
  let raw := options.any fun a => a.contains 'r'
  let prompts := options.any fun a => a.getLast? == some 'p'
  let names := arguments.drop (options.length + (if prompts then 1 else 0))
  if names.isEmpty then r.fault "read: arg count" 2
  else
    let (line, input, complete) := readLine raw (r.scene.input.length + 1) r.scene.input
    let text := textOf (line.filter (· != 0))
    let parts := divide r.separators names text
    let r := r.withScene { r.scene with input := input }
    let r := parts.foldl
      (fun r (name, value) => r.assign name (if raw then value else withoutBackslashes value)) r
    r.withStatus (if complete then 0 else 1)

/-- The commands of the shell itself. -/
def builtins : List String :=
  [".", ":", "[", "break", "cd", "command", "continue", "echo", "eval", "exec", "exit", "export", "false",
    "hash", "jobs", "kill", "local", "printf", "pwd", "read", "readonly", "return", "set", "shift", "test",
    "times", "trap", "true", "type", "ulimit", "umask", "unset", "wait"]

/-- The commands whose assignments last and whose faults end the script. -/
def specialBuiltins : List String :=
  [".", ":", "break", "continue", "eval", "exec", "exit", "export", "readonly", "return", "set", "shift",
    "times", "trap", "unset"]

/-- Says where a command comes from. -/
def whereabouts (r : Run) (name : List Char) : Option (List Char) :=
  if (r.functions.lookup name).isSome || builtins.contains (String.ofList name) then some name
  else whereIs? r.scene.disk r.directory r.search name

/-- Runs the text of a file as part of the script. -/
def source (outer : Outer) (r : Run) (arguments : List (List Char)) : Run :=
  match arguments with
  | [] => r.withStatus 0
  | file :: _ =>
      let paths := if isPath file then [file] else candidates r.search file
      match paths.findSome? fun p => (r.scene.disk.readBytes (r.path p)).toOption with
      | some bytes =>
          let inner := outer.scripts (Script.ofText (textOf bytes.toList)) r
          { inner with jump := if inner.jump = some .returns then none else inner.jump }
      | none =>
          if isPath file then r.abort (".: cannot open " ++ String.ofList file ++ ": No such file")
          else r.abort (".: " ++ String.ofList file ++ ": not found")

/-- The words of `command` after its options, and whether it only asks where a command is. -/
def commandWords : List (List Char) → Bool × List (List Char)
  | ['-', 'v'] :: rest => (true, rest)
  | ['-', 'V'] :: rest => (true, rest)
  | ['-', 'p'] :: rest => (false, rest)
  | ['-', '-'] :: rest => (false, rest)
  | rest => (false, rest)

/-- Says where commands come from; `wording` has nothing to say about some that are not found. -/
def describe (r : Run) (wording : List Char → Option (List Char) → List Char)
    (names : List (List Char)) : Run :=
  names.foldl
    (fun r name =>
      let place := r.whereabouts name
      let text := wording name place
      let r := r.withScene (r.scene.say (if text.isEmpty then [] else text ++ ['\n']))
      if place.isSome then r else r.withStatus 127)
    (r.withStatus 0)

/-- What `type` says about a command. -/
def typeWording (name : List Char) : Option (List Char) → List Char
  | some place =>
      name ++ (if name == place then " is a shell builtin".toList else " is ".toList ++ place)
  | none => name ++ ": not found".toList

/-- Runs a command of the shell itself, if it is one. -/
def builtin? (outer : Outer) (r : Run) (name : List Char) (arguments : List (List Char)) : Option Run :=
  match String.ofList name with
  | "." => some (r.source outer arguments)
  | ":" => some (r.withStatus 0)
  | "[" => some (r.after (Test.utility true) name arguments)
  | "break" =>
      some { r with
        status := 0
        jump := if r.loops = 0 then none else some (.breaks (min (levels arguments) r.loops)) }
  | "cd" => some (r.changeDirectory arguments)
  | "continue" =>
      some { r with
        status := 0
        jump := if r.loops = 0 then none else some (.continues (min (levels arguments) r.loops)) }
  | "echo" => some (r.after (if r.plain then Show.echo else Show.shellEcho) name arguments)
  | "eval" =>
      some (outer.scripts (Script.ofText (List.intercalate [' '] arguments)) (r.withStatus 0))
  | "exit" => some (r.exit arguments)
  | "export" => some (r.declare arguments)
  | "false" => some (r.withStatus 1)
  | "kill" => some (r.kill outer arguments)
  | "local" => some (r.localize arguments)
  | "printf" => some (r.after Show.printf name arguments)
  | "pwd" => some (r.withScene (r.scene.say (Files.placeOf r.directory ++ ['\n'])) |>.withStatus 0)
  | "read" => some (r.read arguments)
  | "readonly" =>
      some (arguments.foldl
        (fun r a => match binding a with
          | (name, some value) => r.assign name value
          | (_, none) => r) (r.withStatus 0))
  | "return" =>
      let status := ((arguments.head?).bind (Format.natural? 10)).getD r.status
      some { r with status := status % 256, jump := some .returns }
  | "set" => some (r.set arguments)
  | "shift" =>
      if levels arguments > r.arguments.length then some (r.abort "shift: can't shift that many")
      else some { r with arguments := r.arguments.drop (levels arguments), status := 0 }
  | "test" => some (r.after (Test.utility false) name arguments)
  | "trap" => some (r.trap arguments)
  | "true" => some (r.withStatus 0)
  | "type" =>
      some (r.describe typeWording arguments)
  | "unset" => some (r.discard arguments)
  | name => if builtins.contains name then some (r.withStatus 0) else none

/-- Puts a program in the place of the script. -/
def replaceBy (outer : Outer) (r : Run) (words : List (List Char)) : Run :=
  match words with
  | [] => r.withStatus 0
  | name :: arguments =>
      let (r, ending) := r.external outer "exec: " name arguments
      { r with ended := some ending }

/-- Runs a function of the script. -/
def callFunction (outer : Outer) (r : Run) (body : Script) (arguments : List (List Char)) : Run :=
  let inner := outer.scripts [body] { r with arguments := arguments, locals := [], loops := 0 }
  let restored := inner.locals.foldl Run.restore inner
  { restored with
    arguments := r.arguments
    locals := r.locals
    loops := r.loops
    jump := if inner.jump = some .returns then none else inner.jump }

/-- Runs a command that is given by its words, leaving functions out of account. -/
def plainCommand (outer : Outer) (r : Run) : List (List Char) → Run
  | [] => r.withStatus 0
  | name :: arguments =>
      match String.ofList name with
      | "exec" => r.replaceBy outer arguments
      | "command" =>
          match commandWords arguments with
          | (true, names) => r.describe (fun _ place => place.getD []) names
          | (false, words) =>
              match words with
              | [] => r.withStatus 0
              | name :: arguments =>
                  (r.builtin? outer name arguments).getD (r.external outer "" name arguments).1
      | _ => (r.builtin? outer name arguments).getD (r.external outer "" name arguments).1

/-- Runs a command that is given by its words. -/
def command (outer : Outer) (r : Run) (words : List (List Char)) : Run :=
  match words with
  | [] => r.withStatus 0
  | name :: arguments =>
      if specialBuiltins.contains (String.ofList name) then r.plainCommand outer words
      else
        match r.functions.lookup name with
        | some body => r.callFunction outer body arguments
        | none => r.plainCommand outer words

end Run
end Host
end Keyring
