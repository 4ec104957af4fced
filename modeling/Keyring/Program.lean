import Keyring.Arguments.Meaning
import Keyring.Command.Execute

/-!
# The program

One invocation of the program: its words are read, the settings loaded, the command carried out, and
the outcome printed.  A configuration file that is not understood counts as none.  Machine-readable
output goes to the standard output whatever the outcome; a failure in text form goes to the error
output.

Some texts are generated from the description of the command line by other programs, and only handed out
here: how the program is used, what is said about words that are not understood, and completion scripts.
-/

namespace Keyring

/-- The texts that are generated. -/
structure Texts where
  usage : String
  complaint : Arguments.Fault → String
  scripts : Shell → String

/-- What an invocation is given. -/
structure Invocation where
  words : List String
  input : ByteArray
  entries : Option (List Entry)
  machine : Host.Machine
  now : Instant

/-- What an invocation leaves: its exit status, what it wrote to the standard output, what appeared on
the terminal while the command was carried out and below it at the end, how often something was asked
or prompted for, and the machine. -/
structure Outcome where
  status : Nat
  output : String
  screen : String
  complaint : String
  questions : Nat
  machine : Host.Machine

/-- What was written to the error output. -/
def Outcome.errors (o : Outcome) : String :=
  o.screen ++ o.complaint

namespace Program

/-- The version of the program. -/
def version : String := "keyswitch 0.1.0"

/-- The variable that names the configuration file. -/
def configVariable : String := "KEYSWITCH_CONFIG"

/-- The variable that names the data directory. -/
def dataVariable : String := "KEYSWITCH_HOME"

/-- The exit status of an invocation whose words are not understood. -/
def usageStatus : Nat := 2

/-- The exit status of an invocation that ends without a report. -/
def crashStatus : Nat := 101

/-- The lines of bytes. -/
def linesOf : List UInt8 → List (List UInt8)
  | [] => []
  | b :: rest =>
      if b = 10 then [] :: linesOf rest
      else
        match linesOf rest with
        | [] => [[b]]
        | line :: lines => (b :: line) :: lines

/-- A line without the carriage returns at its end. -/
def withoutReturns (line : List Char) : List Char :=
  (line.reverse.dropWhile (· == '\r')).reverse

/-- The reply that a line of the input is. -/
def replyOf (line : List UInt8) : Reply :=
  match Text.decode? ⟨line.toArray⟩ with
  | some text => .ok (String.ofList (withoutReturns text.toList))
  | none => .error (.broken OsError.notText.message)

/-- The replies that an input holds. -/
def replies (input : ByteArray) : List Reply :=
  (linesOf input.toList).map replyOf

/-- The settings of an invocation. -/
def settings (i : Invocation) (o : Arguments.SharedOptions) : Config :=
  let environment := i.machine.environment
  let path := Location.config o.configFile (environment.lookup configVariable) environment
  (Config.load i.machine.disk path).toOption.getD .standard

/-- The context of an invocation. -/
def context (texts : Texts) (i : Invocation) (o : Arguments.SharedOptions) : Context :=
  let environment := i.machine.environment
  let config := settings i o
  let directory := Location.data o.dataDirectory (environment.lookup dataVariable) environment
  .standard config (config.paths directory) i.now texts.scripts

/-- The world that an invocation finds. -/
def world (i : Invocation) : World :=
  let w := World.fresh none i.machine (replies i.input)
  { w with input := i.input, terminal := { w.terminal with entries := i.entries } }

/-- The outcome for words that are not carried out. -/
def refused (texts : Texts) (fault : Arguments.Fault) (machine : Host.Machine) : Outcome :=
  match fault with
  | .help => ⟨0, texts.usage, "", "", 0, machine⟩
  | .version => ⟨0, version ++ "\n", "", "", 0, machine⟩
  | fault => ⟨usageStatus, "", "", texts.complaint fault, 0, machine⟩

/-- A line that is printed, if there is one. -/
def printed : Option String → String
  | some line => line ++ "\n"
  | none => ""

/-- The outcome of a command that leaves a world, after which a text is printed on the standard output
and another on the error output. -/
def outcome (status : Nat) (output complaint : String) (w : World) : Outcome :=
  ⟨status, w.output ++ output, w.terminal.screen, complaint,
    w.terminal.asked.length + w.terminal.prompted.length, w.machine⟩

/-- The outcome of a command that has been carried out. -/
def concluded (p : Presentation) : Except Abort Report × World → Outcome
  | (.ok report, w) => outcome 0 (printed (p.ofReport? report)) "" w
  | (.error (.failed f), w) =>
      let line := p.ofFailure f ++ "\n"
      if p.json then outcome f.kind.exitStatus line "" w
      else outcome f.kind.exitStatus "" line w
  | (.error .crashed, w) => outcome crashStatus "" "" w

/-- Runs the program. -/
def run (texts : Texts) (i : Invocation) : Outcome :=
  match Arguments.parse i.words with
  | .error fault => refused texts fault i.machine
  | .ok asked =>
      concluded asked.options.presentation
        ((context texts i asked.options).execute asked.command (world i))

end Program
end Keyring
