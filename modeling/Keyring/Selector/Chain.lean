import Keyring.Action
import Keyring.Selector.Lines
import Keyring.Selector.Menu
import Keyring.World

/-!
# Selectors and their chain

A selector chooses a key from a collection, or says that it cannot be used, or fails.  A chain asks
its selectors one after the other until one does not say that it cannot be used.  Nobody is asked
about a collection with fewer than two keys.

There are three kinds of selectors: the numbered menu, an external picker, and one whose outcome is
fixed beforehand.
-/

namespace Keyring

/-- How an external picker is started. -/
structure PickerOptions where
  program : String
  height : String
  border : Bool
  reverse : Bool
deriving DecidableEq, Repr

/-- The picker that is used unless another is configured. -/
def PickerOptions.standard : PickerOptions :=
  ⟨"fzf", "40%", true, true⟩

/-- What a selector that does not fail says. -/
inductive Selection
  | chosen (name : KeyName)
  | unavailable (reason : String)
deriving DecidableEq

/-- A selector. -/
inductive Selector
  | menu
  | picker (options : PickerOptions)
  | fixed (number : Nat) (outcome : Except Failure Selection)

namespace Selector

/-- The name of a selector. -/
def name : Selector → String
  | .menu => "builtin"
  | .picker _ => "fzf"
  | .fixed _ _ => "fixed"

/-- The choice that needs no selector: none can be made from no keys, and one key is chosen. -/
def trivial? (keys : Collection) : Except Failure (Option KeyName) :=
  match keys.names with
  | [] => .error .noKeys
  | [only] => .ok (some only)
  | _ => .ok none

namespace Menu

/-- The failure of a question without an answer. -/
def replyFailure : ReplyFault → Failure
  | .endOfInput => .selectionCancelled
  | .interrupted => .selectionCancelled
  | .broken reason => .internal ("failed to read selection: " ++ reason)

/-- Shows the menu and asks for a number. -/
def run (keys : Collection) (hint : Option KeyName) (w : World) : Except Failure Selection × World :=
  match (w.display (text keys hint)).ask (question keys hint) with
  | (.error fault, w) => (.error (replyFailure fault), w)
  | (.ok answer, w) => ((choose keys hint answer).map .chosen, w)

end Menu

namespace Picker

/-- The arguments of a picker. -/
def arguments (o : PickerOptions) (hint : Option KeyName) : List String :=
  ["--prompt=Select API key > ",
    "--header=Up/Down: navigate | Enter: select | Esc: cancel",
    "--height=" ++ o.height,
    "--ansi",
    "--query=" ++ (hint.map KeyName.value).getD ""] ++
    (if o.border then ["--border"] else []) ++
    (if o.reverse then ["--reverse"] else [])

/-- How a picker is started for a collection. -/
def invocation (o : PickerOptions) (keys : Collection) (hint : Option KeyName) : Host.Invocation :=
  ⟨o.program, arguments o hint, [], (pickerText keys hint).toUTF8⟩

/-- The failure of a picker whose end cannot be found out. -/
def lost (program : String) (error : OsError) : Failure :=
  .internal ("failed to wait for " ++ program ++ ": " ++ error.message)

/-- What a picker that has been waited for says. -/
def result (program : String) (f : Host.Finished) : Except Failure Selection :=
  match f.ending with
  | .error e => .error (lost program e)
  | .ok (.exited 0) =>
      ((readChoice (Text.decodeLossy f.output)).mapError ChoiceFault.failure).map .chosen
  | .ok _ => .error .selectionCancelled

/-- Starts a picker and reads its choice. -/
def run (o : PickerOptions) (keys : Collection) (hint : Option KeyName) (w : World) :
    Except Failure Selection × World :=
  if w.machine.hasPicker o.program then
    let i := invocation o keys hint
    match { w with pickers := w.pickers ++ [i] }.start i with
    | (.ok f, w) => (result o.program f, w)
    | (.error e, w) =>
        (.ok (.unavailable ("failed to start " ++ o.program ++ ": " ++ e.message)), w)
  else (.ok (.unavailable (o.program ++ " is not available")), w)

end Picker

/-- Asks a selector about at least two keys. -/
def consult (s : Selector) (keys : Collection) (hint : Option KeyName) (w : World) :
    Except Failure Selection × World :=
  match s with
  | .menu => Menu.run keys hint w
  | .picker o => Picker.run o keys hint w
  | .fixed number outcome =>
      (outcome, { w with consultations := w.consultations ++ [⟨number, keys, hint⟩] })

/-- Asks one selector alone.  The menu and the picker answer by themselves when there is no choice
to be made; a fixed selector is always asked. -/
def select (s : Selector) (keys : Collection) (hint : Option KeyName) (w : World) :
    Except Failure Selection × World :=
  match s with
  | .fixed _ _ => s.consult keys hint w
  | s =>
      match trivial? keys with
      | .error f => (.error f, w)
      | .ok (some name) => (.ok (.chosen name), w)
      | .ok none => s.consult keys hint w

/-- Asks selectors one after the other. -/
def selectFirst (keys : Collection) (hint : Option KeyName) :
    List Selector → World → Except Failure KeyName × World
  | [], w => (.error (.internal "no key selector is available"), w)
  | s :: rest, w =>
      match s.select keys hint w with
      | (.error f, w) => (.error f, w)
      | (.ok (.chosen name), w) => (.ok name, w)
      | (.ok (.unavailable _), w) => selectFirst keys hint rest w

/-- Chooses a key with a chain of selectors. -/
def chooseWith (chain : List Selector) (keys : Collection) (hint : Option KeyName) (w : World) :
    Except Failure KeyName × World :=
  match trivial? keys with
  | .error f => (.error f, w)
  | .ok (some name) => (.ok name, w)
  | .ok none => selectFirst keys hint chain w

end Selector
end Keyring
