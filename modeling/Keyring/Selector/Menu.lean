import Keyring.Collection

/-!
# The numbered menu

The menu shows the keys with numbers from one on and asks for a number.  A blank answer takes the
number that the question names as the default: that of the hinted key, or one.  Any other answer is
a decimal number, perhaps with a plus sign, that fits a machine word.
-/

namespace Keyring
namespace Selector
namespace Menu

/-- The number of a name, counted from one. -/
def numberOf? (keys : Collection) (name : KeyName) : Option Nat :=
  (keys.names.findIdx? (· == name)).map (· + 1)

/-- The number that a blank answer takes. -/
def defaultNumber (keys : Collection) (hint : Option KeyName) : Nat :=
  (hint.bind (numberOf? keys)).getD 1

/-- The line of a key. -/
def line (hint : Option KeyName) (key : Profile) (number : Nat) : String :=
  let hinted := decide (some key.name = hint)
  (if hinted then "> " else "  ") ++ toString number ++ ") " ++ key.name.value ++ " (" ++
    key.masked ++ ")" ++ (if hinted then " [last used]" else "")

/-- The lines of keys, the first of which has the given number. -/
def linesFrom (hint : Option KeyName) (number : Nat) : List Profile → List String
  | [] => []
  | key :: rest => line hint key number :: linesFrom hint (number + 1) rest

/-- The text of the menu. -/
def text (keys : Collection) (hint : Option KeyName) : String :=
  String.intercalate "\n" ("Select an API key:" :: "" :: linesFrom hint 1 keys.keys)

/-- The question below the menu. -/
def question (keys : Collection) (hint : Option KeyName) : String :=
  "Enter number (1-" ++ toString keys.size ++ ", default: " ++
    toString (defaultNumber keys hint) ++ "): "

/-- The greatest number that is understood. -/
def greatestNumber : Nat := Nat.pow 2 64 - 1

/-- The digits of an answer without the sign that may stand before them. -/
def unsigned : List Char → List Char
  | '+' :: rest => rest
  | s => s

/-- Reads a number. -/
def readNumber? (answer : List Char) : Option Nat :=
  let digits := unsigned answer
  if digits.isEmpty || !digits.all Char.isDigit then none
  else
    let n := Nat.ofDigitChars 10 digits 0
    if n ≤ greatestNumber then some n else none

/-- What is asked for when an answer is refused. -/
def expected (keys : Collection) : String :=
  ": expected a number between 1 and " ++ toString keys.size

/-- The number that an answer stands for. -/
def numberOf (keys : Collection) (hint : Option KeyName) (answer : List Char) :
    Except Failure Nat :=
  if answer.isEmpty then .ok (defaultNumber keys hint)
  else
    match readNumber? answer with
    | some n => .ok n
    | none =>
        .error (.invalidSelection
          ("invalid selection '" ++ String.ofList answer ++ "'" ++ expected keys))

/-- The name that an answer chooses. -/
def choose (keys : Collection) (hint : Option KeyName) (answer : String) :
    Except Failure KeyName :=
  match numberOf keys hint (Text.trim answer.toList) with
  | .error f => .error f
  | .ok n =>
      match (if n = 0 then none else keys.names[n - 1]?) with
      | some name => .ok name
      | none => .error (.invalidSelection ("invalid selection " ++ toString n ++ expected keys))

end Menu
end Selector
end Keyring
