import Keyring.Host.Shell.Builtin
import Keyring.Host.Shell.Redirection

/-!
# Running scripts

The commands of a script are run one after another, each on the state that the one before has left.  The
functions here are defined by recursion on the script; a loop that goes on as long as a condition holds
is bounded by a number of rounds, and what a script runs beside its own commands is given by an
`Outer`.
-/

namespace Keyring
namespace Host
namespace Run

/-- How often a loop may go round. -/
def greatestRounds : Nat := 100000

/-- Ends a strict script whose command has failed. -/
def settle (r : Run) : Run :=
  if r.strict && !r.guarded && r.status != 0 && !r.halted then
    { r with ended := some (.exited r.status) }
  else r

/-- Runs something whose failure is only asked for. -/
def asking (body : Run → Run) (r : Run) : Run :=
  { body { r with guarded := true } with guarded := r.guarded }

/-- Runs something in a shell of its own. -/
def apart (body : Run → Run) (r : Run) : Run :=
  r.leaving (body { r with traps := r.traps.filter fun t => t.2.isEmpty, loops := 0 })

/-- The run after the body of a loop, and whether the loop goes on. -/
def afterRound (r : Run) : Run × Bool :=
  match r.jump with
  | some (.breaks n) => ({ r with jump := if n ≤ 1 then none else some (.breaks (n - 1)) }, false)
  | some (.continues n) =>
      if n ≤ 1 then ({ r with jump := none }, r.ended.isNone)
      else ({ r with jump := some (.continues (n - 1)) }, false)
  | some .returns => (r, false)
  | none => (r, r.ended.isNone)

/-- Goes round as long as a condition succeeds, or fails; `fuel` bounds the number of rounds and `last`
is the status of the last one. -/
def rounds (condition body : Run → Run) (whileTrue : Bool) : Nat → Nat → Run → Run
  | 0, last, r => r.withStatus last
  | fuel + 1, last, r =>
      match (asking condition r).afterRound with
      | (r, false) => r
      | (r, true) =>
          if (r.status == 0) == whileTrue then
            match (body r).afterRound with
            | (r, false) => r
            | (r, true) => rounds condition body whileTrue fuel r.status r
          else r.withStatus last

/-- Goes round once for each of several texts. -/
def roundFor (body : Run → Run) (name : List Char) : List (List Char) → Run → Run
  | [], r => r
  | item :: rest, r =>
      match (body (r.assign name item)).afterRound with
      | (r, false) => r
      | (r, true) => roundFor body name rest r

/-- Runs the body of a loop with one loop more around it. -/
def looping (body : Run → Run) (r : Run) : Run :=
  { body { r with loops := r.loops + 1 } with loops := r.loops }

/-- The words of a command that assigns variables, which are taken apart: the assignments in front, and
the words after them. -/
def leadingAssignments : List Word → List (List Char × Word) × List Word
  | [] => ([], [])
  | w :: rest =>
      match assignment? [] w with
      | some a =>
          let (others, words) := leadingAssignments rest
          (a :: others, words)
      | none => ([], w :: rest)

/-- The words of a command.  The arguments of a command that declares variables are not divided where they
assign one. -/
def expandCommand (outer : Outer) (r : Run) (words : List Word) : Run × List (List Char) :=
  match words with
  | [] => (r, [])
  | name :: arguments =>
      let (r, front) := r.expand outer name
      let declares := ["export", "readonly", "local"].any fun n => front == [n.toList]
      if declares then
        let (r, texts) := arguments.foldl
          (fun (r, texts) w =>
            match assignment? [] w with
            | some (name, value) =>
                let (r, value) := r.expandText outer value
                (r, texts ++ [name ++ '=' :: value])
            | none =>
                let (r, more) := r.expand outer w
                (r, texts ++ more)) (r, [])
        (r, front ++ texts)
      else
        let (r, texts) := r.expandAll outer arguments
        (r, front ++ texts)

/-- Assigns variables, for programs too if `exported`. -/
def assignAll (outer : Outer) (exported : Bool) (r : Run) (assignments : List (List Char × Word)) : Run :=
  assignments.foldl
    (fun r (name, value) =>
      let (r, text) := r.expandText outer value
      if exported then (r.assign name text).exporting name else r.assign name text) r

/-- Runs a command with assignments that last as long as it does, unless it is one whose assignments
last. -/
def commandWith (outer : Outer) (assignments : List (List Char × Word)) (words : List (List Char))
    (r : Run) : Run :=
  let lasting := words.head?.any fun name => specialBuiltins.contains (String.ofList name)
  let saved := assignments.map fun a => (a.1, r.variableOf a.1)
  let r := r.assignAll outer (!lasting) assignments
  if r.halted then r
  else
    let r := r.command outer words
    if lasting then r else saved.foldl Run.restore r

/-- Runs a simple command. -/
def simple (outer : Outer) (line : Nat) (words : List Word) (redirects : List Redirect) (r : Run) : Run :=
  let (assignments, words) := leadingAssignments words
  let (r, texts) := { r with line := line, substituted := none }.expandCommand outer words
  if r.halted then r
  else if texts.isEmpty then
    let assigned (r : Run) : Run :=
      let r := r.assignAll outer false assignments
      if r.halted then r else r.withStatus (r.substituted.getD 0)
    (redirected outer redirects assigned r).settle
  else
    let special := texts.head?.any fun name => specialBuiltins.contains (String.ofList name)
    (redirectedOr outer redirects (if special then failing else id) (commandWith outer assignments texts)
      r).settle

/-- The line and the redirections of a command that redirects the script itself. -/
def redirectsAll (s : Script) : Option (Nat × List Redirect) :=
  match s with
  | .simple line [w] (first :: others) =>
      if Script.literal? w == some "exec".toList then some (line, first :: others) else none
  | _ => none

/-- Runs two commands, the second of which reads what the first one writes. -/
def piped (first second : Run → Run) (r : Run) : Run :=
  let left := apart first { r with scene := { r.scene with written := [] } }
  let complaints := left.scene.written.filter fun w => w.1 = .errors
  let right := apart second
    { left with
      scene := ⟨left.scene.disk, left.scene.textOn .output, complaints ++ r.scene.written⟩
      ended := r.ended, status := r.status }
  (right.withScene { right.scene with input := left.scene.input }).settle

mutual

/-- Runs one command. -/
def script (outer : Outer) : Script → Run → Run
  | .simple line words redirects, r => simple outer line words redirects r
  | .group body redirects, r => redirected outer redirects (scripts outer body) r
  | .subshell body redirects, r =>
      (redirected outer redirects (apart (scripts outer body)) r).settle
  | .each name items body redirects, r =>
      redirected outer redirects
        (fun r =>
          let (r, texts) := r.expandAll outer items
          if r.halted then r
          else looping (roundFor (scripts outer body) name texts) (r.withStatus 0)) r
  | .repeated whileTrue condition body redirects, r =>
      redirected outer redirects
        (looping (rounds (scripts outer condition) (scripts outer body) whileTrue greatestRounds 0)) r
  | .branch condition yes no redirects, r =>
      redirected outer redirects
        (fun r =>
          let r := asking (scripts outer condition) r
          if r.halted then r
          else if r.status == 0 then scripts outer yes r
          else scripts outer no (r.withStatus 0)) r
  | .select subject patterns bodies redirects, r =>
      redirected outer redirects
        (fun r =>
          let (r, text) := r.expandText outer subject
          cases outer bodies patterns text r) r
  | .function name body, r =>
      { r with functions := (name, body) :: r.functions.filter fun f => f.1 != name, status := 0 }
  | .chain first whenSuccessful second, r =>
      let r := asking (script outer first) r
      if !r.halted && (r.status == 0) == whenSuccessful then script outer second r else r
  | .pipe first second, r => piped (script outer first) (script outer second) r
  | .negated body, r =>
      let r := asking (script outer body) r
      if r.halted then r else r.withStatus (if r.status == 0 then 1 else 0)

/-- Runs commands one after another. -/
def scripts (outer : Outer) : List Script → Run → Run
  | [], r => r
  | s :: rest, r =>
      if r.halted then r
      else
        match redirectsAll s with
        | some (line, redirects) =>
            redirectedOr outer redirects failing (scripts outer rest) { r with line := line }
        | none => scripts outer rest (script outer s r)

/-- Runs the commands of the first case that a text fits. -/
def cases (outer : Outer) : List (List Script) → List (List Word) → List Char → Run → Run
  | body :: bodies, p :: patterns, text, r =>
      match r.fitsAny outer text p with
      | (r, true) => scripts outer body (r.withStatus 0)
      | (r, false) => cases outer bodies patterns text r
  | _, _, _, r => r.withStatus 0

end

end Run
end Host
end Keyring
