import Keyring.Host.Arithmetic
import Keyring.Host.Format
import Keyring.Host.Utility.Reading

/-!
# Expressions as arguments

The utility that computes with its arguments: each argument is a number, a text or an operator.
-/

namespace Keyring
namespace Host
namespace Compute

/-- The operator of an arithmetic expression that an argument stands for. -/
def operator? (s : String) : Option String :=
  [("+", "+"), ("-", "-"), ("*", "*"), ("/", "/"), ("%", "%"), ("=", "=="), ("==", "=="), ("!=", "!="),
    ("<", "<"), ("<=", "<="), (">", ">"), (">=", ">="), ("(", "("), (")", ")")].lookup s

/-- The integer that an argument stands for. -/
def integer? (s : List Char) : Option Int :=
  match s with
  | '-' :: rest => (Format.natural? 10 rest).map fun n => -(n : Int)
  | s => (Format.natural? 10 s).map fun n => (n : Int)

/-- The value of arguments that are numbers and operators. -/
def number? (arguments : List (List Char)) : Option Int :=
  let symbols := arguments.mapM fun a =>
    match integer? a with
    | some n => some (Arithmetic.Symbol.number n)
    | none => (operator? (String.ofList a)).map Arithmetic.Symbol.operator
  symbols.bind Arithmetic.value?

/-- The value of arguments: a number, the outcome of a comparison of texts, or a text. -/
def value? (arguments : List (List Char)) : Option (List Char) :=
  match number? arguments, arguments with
  | some n, _ => some (toString n).toList
  | none, [s] => some s
  | none, [a, ['='], b] => some [if a == b then '1' else '0']
  | none, [a, ['!', '='], b] => some [if a != b then '1' else '0']
  | none, [name, s] => if name == "length".toList then some (digits s.length) else none
  | none, _ => none

/-- Shows the value of its arguments.  The status says whether it counts as true. -/
def behave : Behaviour := fun c s =>
  match c.arguments with
  | [] => (.exited 2, s.misuse c "missing operand")
  | arguments =>
      match value? arguments with
      | some v =>
          (.exited (if v.isEmpty || v == ['0'] then 1 else 0), s.say (v ++ ['\n']))
      | none => (.exited 2, s.fault c "syntax error")

end Compute
end Host
end Keyring
