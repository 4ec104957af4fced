import Keyring.Host.Format
import Keyring.Host.Utility.Reading
import Keyring.Text.Blank

/-!
# Tests

A test asks about a text, a file, or two texts or numbers.  Tests can be negated and joined.
-/

namespace Keyring
namespace Host
namespace Test

/-- The comparisons of numbers by their names. -/
def comparisons : List (String × (Int → Int → Bool)) :=
  [("-eq", fun a b => a == b), ("-ne", fun a b => a != b), ("-lt", fun a b => a < b),
    ("-le", fun a b => a ≤ b), ("-gt", fun a b => a > b), ("-ge", fun a b => a ≥ b)]

/-- The comparisons of texts by their names. -/
def relations : List (String × (List Char → List Char → Bool)) :=
  [("=", fun a b => a == b), ("==", fun a b => a == b), ("!=", fun a b => a != b),
    ("<", fun a b => a < b), (">", fun a b => b < a)]

/-- The questions about a text or a file by their letters. -/
def questions (disk : Disk) (directory : List Char) : List (Char × (List Char → Bool)) :=
  let node (p : List Char) : Option Node := ((disk.look (pathFrom directory p)).map Prod.snd).toOption
  let about (f : Node → Bool) (p : List Char) : Bool := (node p).any f
  let isFile : Node → Bool
    | .file _ _ => true
    | .directory _ => false
  [('n', fun s => !s.isEmpty), ('z', fun s => s.isEmpty), ('e', about fun _ => true),
    ('f', fun p => disk.isFile (pathFrom directory p)), ('d', about fun n => !isFile n), ('r', about fun _ => true),
    ('w', about fun _ => true), ('x', about fun n => n.mode &&& 0o111 != 0 || !isFile n),
    ('s', about fun n => match n with | .file b _ => b.size > 0 | .directory _ => true),
    ('h', fun _ => false), ('L', fun _ => false), ('p', fun _ => false), ('S', fun _ => false),
    ('b', fun _ => false), ('c', fun p => p == "/dev/null".toList), ('t', fun _ => false)]

/-- The number that a text stands for, or the text that is none. -/
def number (s : List Char) : Except (List Char) Int :=
  let t := Text.trim s
  match Format.natural? 10 (match t with | '-' :: rest => rest | '+' :: rest => rest | t => t) with
  | some n => .ok (if t.head? == some '-' then -(n : Int) else n)
  | none => .error s

/-- The answer to a question with two operands. -/
def binary (a o b : List Char) : Option (Except (List Char) Bool) :=
  match relations.lookup (String.ofList o), comparisons.lookup (String.ofList o) with
  | some holds, _ => some (.ok (holds a b))
  | none, some holds =>
      some (match number a, number b with
        | .ok a, .ok b => .ok (holds a b)
        | .error s, _ => .error s
        | _, .error s => .error s)
  | none, none => none

/-- The answer to a question with one operand. -/
def unary (disk : Disk) (directory o s : List Char) : Option Bool :=
  match o with
  | ['-', letter] => ((questions disk directory).lookup letter).map fun f => f s
  | _ => none

/-- The answer to a test without its joints: at most three words, perhaps negated. -/
def simple (disk : Disk) (directory : List Char) (words : List (List Char)) :
    Except (List Char) Bool :=
  match words with
  | [] => .ok false
  | [s] => .ok (!s.isEmpty)
  | [a, o, b] =>
      match binary a o b with
      | some r => r
      | none =>
          if a == ['!'] then (simple disk directory [o, b]).map (! ·)
          else if a == ['('] && b == [')'] then .ok (!o.isEmpty)
          else .error o
  | [o, s] =>
      match unary disk directory o s with
      | some b => .ok b
      | none => if o == ['!'] then .ok s.isEmpty else .error o
  | ['!'] :: rest => (simple disk directory rest).map (! ·)
  | s :: _ => .error s

/-- Splits words at a joint that has words on both sides. -/
def parts (joint : String) (words : List (List Char)) : List (List (List Char)) :=
  words.splitOn joint.toList

/-- The answer to a test.  An error holds the word that is out of place. -/
def eval (disk : Disk) (directory : List Char) (words : List (List Char)) :
    Except (List Char) Bool :=
  if words.length ≤ 3 then simple disk directory words
  else do
    let answers ← (parts "-o" words).mapM fun l => do
      let answers ← (parts "-a" l).mapM (simple disk directory)
      return answers.all id
    return answers.any id

/-- What is wrong with a word. -/
def complaint (word : List Char) : String :=
  "Illegal number: " ++ String.ofList word

/-- Answers a test; with `bracket` it ends with a closing bracket. -/
def utility (bracket : Bool) : Behaviour := fun c s =>
  if bracket && c.arguments.getLast? != some [']'] then (.exited 2, s.fault c "missing ]")
  else
    match eval s.disk c.directory (if bracket then c.arguments.dropLast else c.arguments) with
    | .ok b => (.exited (if b then 0 else 1), s)
    | .error word => (.exited 2, s.fault c (complaint word))

end Test
end Host
end Keyring
