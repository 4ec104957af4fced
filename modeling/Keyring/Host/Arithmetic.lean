/-!
# Arithmetic in scripts

An arithmetic expression is built from integers, variables, parentheses and operators.  A variable
without a number as its value counts as zero.  An expression that cannot be read, or that divides by
zero, has no value.
-/

namespace Keyring
namespace Host
namespace Arithmetic

/-- A token of an expression. -/
inductive Symbol
  | number (n : Int)
  | name (s : List Char)
  | operator (s : String)
deriving DecidableEq, Repr

/-- The operators with two operands, and how tightly they bind. -/
def levels : List (String × Nat) :=
  [("||", 1), ("&&", 2), ("|", 3), ("^", 4), ("&", 5), ("==", 6), ("!=", 6), ("<=", 7), (">=", 7),
    ("<<", 8), (">>", 8), ("<", 7), (">", 7), ("+", 9), ("-", 9), ("*", 10), ("/", 10), ("%", 10)]

/-- The other operators. -/
def others : List String := ["(", ")", "!", "~", "?", ":"]

/-- The number that a word denotes: decimal, octal after a zero, or hexadecimal after `0x`. -/
def number (s : List Char) : Int :=
  match s with
  | '0' :: 'x' :: rest => Nat.ofDigitChars 16 rest 0
  | '0' :: rest => Nat.ofDigitChars 8 rest 0
  | rest => Nat.ofDigitChars 10 rest 0

/-- Whether a character may stand in a number or a name. -/
def isWordChar (c : Char) : Bool :=
  c.isAlphanum || c == '_'

/-- The tokens of an expression; `fuel` bounds their number. -/
def symbols : Nat → List Char → Option (List Symbol)
  | 0, _ => some []
  | _ + 1, [] => some []
  | fuel + 1, c :: rest =>
      if c == ' ' || c == '\t' || c == '\n' then symbols fuel rest
      else if isWordChar c then
        let word := (c :: rest).takeWhile isWordChar
        let symbol := if c.isDigit then .number (number word) else .name word
        (symbols fuel ((c :: rest).drop word.length)).map (symbol :: ·)
      else
        match (levels.map Prod.fst ++ others).find? fun o => o.toList.isPrefixOf (c :: rest) with
        | some o => (symbols fuel ((c :: rest).drop o.length)).map (.operator o :: ·)
        | none => none

/-- One for true and zero for false. -/
def truth (b : Bool) : Int :=
  if b then 1 else 0

/-- The value of an operator. -/
def apply (operator : String) (a b : Int) : Option Int :=
  match operator with
  | "||" => some (truth (a != 0 || b != 0))
  | "&&" => some (truth (a != 0 && b != 0))
  | "|" => some (a.toNat ||| b.toNat : Nat)
  | "^" => some (a.toNat ^^^ b.toNat : Nat)
  | "&" => some (a.toNat &&& b.toNat : Nat)
  | "==" => some (truth (a == b))
  | "!=" => some (truth (a != b))
  | "<" => some (truth (a < b))
  | "<=" => some (truth (a ≤ b))
  | ">" => some (truth (a > b))
  | ">=" => some (truth (a ≥ b))
  | "<<" => some (a * Nat.pow 2 b.toNat)
  | ">>" => some (Int.fdiv a (Nat.pow 2 b.toNat))
  | "+" => some (a + b)
  | "-" => some (a - b)
  | "*" => some (a * b)
  | "/" => if b = 0 then none else some (Int.tdiv a b)
  | "%" => if b = 0 then none else some (Int.tmod a b)
  | _ => none

mutual

/-- Reads an operand and yields its value. -/
def operand (value : List Char → Int) : Nat → List Symbol → Option (Int × List Symbol)
  | 0, _ => none
  | fuel + 1, ts =>
      match ts with
      | .number n :: rest => some (n, rest)
      | .name s :: rest => some (value s, rest)
      | .operator "-" :: rest => (operand value fuel rest).map fun (n, rest) => (-n, rest)
      | .operator "+" :: rest => operand value fuel rest
      | .operator "!" :: rest =>
          (operand value fuel rest).map fun (n, rest) => (truth (n == 0), rest)
      | .operator "~" :: rest => (operand value fuel rest).map fun (n, rest) => (-n - 1, rest)
      | .operator "(" :: rest =>
          match choice value fuel rest with
          | some (n, .operator ")" :: rest) => some (n, rest)
          | _ => none
      | _ => none

/-- Goes on after a value with the operators that bind at least as tightly as a level. -/
def goOn (value : List Char → Int) : Nat → Nat → Int → List Symbol → Option (Int × List Symbol)
  | 0, _, _, _ => none
  | fuel + 1, level, left, ts =>
      match ts with
      | .operator o :: rest =>
          match levels.lookup o with
          | none => some (left, ts)
          | some l =>
              if l < level then some (left, ts)
              else
                match operand value fuel rest with
                | none => none
                | some (right, rest) =>
                    match goOn value fuel (l + 1) right rest with
                    | none => none
                    | some (right, rest) =>
                        match apply o left right with
                        | none => none
                        | some n => goOn value fuel level n rest
      | _ => some (left, ts)

/-- Reads an expression, which may choose between two others, and yields its value. -/
def choice (value : List Char → Int) : Nat → List Symbol → Option (Int × List Symbol)
  | 0, _ => none
  | fuel + 1, ts =>
      match operand value fuel ts with
      | none => none
      | some (n, rest) =>
          match goOn value fuel 1 n rest with
          | some (n, .operator "?" :: rest) =>
              match choice value fuel rest with
              | some (yes, .operator ":" :: rest) =>
                  (choice value fuel rest).map fun (no, rest) => (if n = 0 then no else yes, rest)
              | _ => none
          | r => r

end

/-- The value of the tokens of an expression. -/
def valueOf? (value : List Char → Int) (ts : List Symbol) : Option Int :=
  match choice value (4 * ts.length + 4) ts with
  | some (n, []) => some n
  | _ => none

/-- The value of tokens without variables. -/
def value? (ts : List Symbol) : Option Int :=
  valueOf? (fun _ => 0) ts

/-- The value of an expression; there is nothing in an empty one. -/
def evaluate? (value : List Char → Int) (s : List Char) : Option Int :=
  match symbols (s.length + 1) s with
  | none => none
  | some [] => some 0
  | some ts => valueOf? value ts

end Arithmetic
end Host
end Keyring
