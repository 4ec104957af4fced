import Keyring.Host.Process

/-!
# Options of utilities

Utilities take options of one letter, some of which have a value, and operands.  Options and operands may
be mixed; two dashes end the options.  An option with a long name is refused.
-/

namespace Keyring
namespace Host

/-- The options that a utility knows. -/
structure OptionForm where
  flags : List Char
  valued : List Char

/-- Why options cannot be read. -/
inductive OptionFault
  | unknownName (text : List Char)
  | unknownLetter (letter : Char)
  | missingValue (letter : Char)
deriving DecidableEq, Repr

/-- The wording of a fault. -/
def OptionFault.message : OptionFault → String
  | .unknownName text => "unrecognized option '" ++ String.ofList text ++ "'"
  | .unknownLetter letter => "invalid option -- '" ++ String.ofList [letter] ++ "'"
  | .missingValue letter => "option requires an argument -- '" ++ String.ofList [letter] ++ "'"

/-- The options and the operands that a utility has been given. -/
structure Options where
  given : List (Char × List Char)
  operands : List (List Char)
deriving DecidableEq, Repr

namespace Options

/-- Whether an option has been given. -/
def has (o : Options) (letter : Char) : Bool :=
  o.given.any fun g => g.1 == letter

/-- The value that an option has been given last. -/
def value? (o : Options) (letter : Char) : Option (List Char) :=
  (o.given.reverse.find? fun g => g.1 == letter).map Prod.snd

/-- Reads the letters after a dash.  Returns the options, and the one that still needs a value. -/
def readLetters (form : OptionForm) :
    List Char → Except OptionFault (List (Char × List Char) × Option Char)
  | [] => .ok ([], none)
  | c :: rest =>
      if form.valued.contains c then
        .ok (if rest.isEmpty then ([], some c) else ([(c, rest)], none))
      else if form.flags.contains c then
        (readLetters form rest).map fun (given, open?) => ((c, []) :: given, open?)
      else .error (.unknownLetter c)

/-- Adds options in front. -/
def withGiven (given : List (Char × List Char)) (o : Options) : Options :=
  { o with given := given ++ o.given }

/-- Adds an operand in front. -/
def withOperand (operand : List Char) (o : Options) : Options :=
  { o with operands := operand :: o.operands }

/-- Reads arguments; with `mixed`, options may follow operands. -/
def read (form : OptionForm) (mixed : Bool) : List (List Char) → Except OptionFault Options
  | [] => .ok ⟨[], []⟩
  | ['-', '-'] :: rest => .ok ⟨[], rest⟩
  | ('-' :: '-' :: name) :: _ => .error (.unknownName ('-' :: '-' :: name))
  | ('-' :: c :: letters) :: rest =>
      match readLetters form (c :: letters), rest with
      | .error e, _ => .error e
      | .ok (given, none), rest => (read form mixed rest).map (withGiven given)
      | .ok (_, some letter), [] => .error (.missingValue letter)
      | .ok (given, some letter), value :: rest =>
          (read form mixed rest).map (withGiven (given ++ [(letter, value)]))
  | a :: rest =>
      if mixed then (read form mixed rest).map (withOperand a) else .ok ⟨[], a :: rest⟩

end Options

/-- A utility: the options that it knows, whether they may follow operands, the status with which it
refuses others, and what it does. -/
structure Utility where
  form : OptionForm
  mixed : Bool
  refusal : Nat
  run : Options → Behaviour

/-- The scene after a utility has complained. -/
def Scene.fault (s : Scene) (c : Call) (text : String) : Scene :=
  s.complain (String.ofList c.name ++ ": " ++ text ++ "\n")

/-- The scene after a utility has complained about its arguments. -/
def Scene.misuse (s : Scene) (c : Call) (text : String) : Scene :=
  s.fault c (text ++ "\nTry '" ++ String.ofList c.name ++ " --help' for more information.")

/-- Runs a utility. -/
def Utility.behave (u : Utility) : Behaviour := fun c s =>
  match Options.read u.form u.mixed c.arguments with
  | .ok o => u.run o c s
  | .error e => (.exited u.refusal, s.misuse c e.message)

end Host
end Keyring
