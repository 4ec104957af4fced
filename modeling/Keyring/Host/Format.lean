import Keyring.Host.Process

/-!
# Formats and escapes

A backslash in a text that is to be shown begins an escape, which stands for a byte.  A format holds
escapes and conversions; it is written again as long as arguments are left for its conversions.
-/

namespace Keyring
namespace Host
namespace Format

/-- The value of an octal digit. -/
def octal? (c : Char) : Option Nat :=
  if '0' ≤ c && c ≤ '7' then some (c.toNat - '0'.toNat) else none

/-- Reads at most so many octal digits. -/
def octals : Nat → Nat → List Char → Nat × List Char
  | 0, n, s => (n, s)
  | _ + 1, n, [] => (n, [])
  | count + 1, n, c :: rest =>
      match octal? c with
      | some d => octals count (8 * n + d) rest
      | none => (n, c :: rest)

/-- The bytes that letters stand for after a backslash. -/
def letters : List (Char × UInt8) :=
  [('a', 7), ('b', 8), ('f', 12), ('n', 10), ('r', 13), ('t', 9), ('v', 11), ('\\', 92)]

/-- Reads an escape after its backslash. -/
def readEscape (s : List Char) : List UInt8 × List Char :=
  match s with
  | [] => ([92], [])
  | c :: rest =>
      match letters.lookup c with
      | some b => ([b], rest)
      | none =>
          if (octal? c).isSome then
            let (n, rest) := octals 3 0 s
            ([UInt8.ofNat n], rest)
          else (92 :: bytesOf [c], rest)

/-- The bytes of a text with escapes, and whether the escape that ends all writing is among them;
`fuel` bounds the number of characters. -/
def unescape : Nat → List Char → List UInt8 × Bool
  | 0, _ => ([], false)
  | _ + 1, [] => ([], false)
  | _ + 1, '\\' :: 'c' :: _ => ([], true)
  | fuel + 1, '\\' :: '0' :: c :: rest =>
      let (bytes, rest) :=
        if (octal? c).isSome then readEscape (c :: rest) else readEscape ('0' :: c :: rest)
      let (others, stopped) := unescape fuel rest
      (bytes ++ others, stopped)
  | fuel + 1, '\\' :: rest =>
      let (bytes, rest) := readEscape rest
      let (others, stopped) := unescape fuel rest
      (bytes ++ others, stopped)
  | fuel + 1, c :: rest =>
      let (others, stopped) := unescape fuel rest
      (bytesOf [c] ++ others, stopped)

/-- The bytes of a text with escapes. -/
def escaped (s : List Char) : List UInt8 × Bool :=
  unescape (s.length + 1) s

/-- A piece of a format.  The width and the precision of a conversion may be taken from the arguments,
which is written as an absent number. -/
inductive Piece
  | bytes (b : List UInt8)
  | conversion (flags : List Char) (width precision : Option (Option Nat)) (kind : Char)

/-- Reads a number or the sign for one that is an argument. -/
def readSize (s : List Char) : Option (Option Nat) × List Char :=
  match s with
  | '*' :: rest => (some none, rest)
  | s =>
      let digits := s.takeWhile Char.isDigit
      if digits.isEmpty then (none, s)
      else (some (some (Nat.ofDigitChars 10 digits 0)), s.drop digits.length)

/-- Reads a conversion after its sign. -/
def readConversion (s : List Char) : Option (Piece × List Char) :=
  let flags := s.takeWhile ['-', '+', ' ', '#', '0'].contains
  let (width, rest) := readSize (s.drop flags.length)
  let (precision, rest) := match rest with
    | '.' :: rest =>
        let (p, rest) := readSize rest
        (some (p.getD (some 0)), rest)
    | rest => (none, rest)
  match rest with
  | kind :: rest => some (.conversion flags width precision kind, rest)
  | [] => none

/-- Reads the pieces of a format; `fuel` bounds their number. -/
def read : Nat → List Char → List Piece
  | 0, _ => []
  | _ + 1, [] => []
  | fuel + 1, '%' :: '%' :: rest => .bytes [37] :: read fuel rest
  | fuel + 1, '%' :: rest =>
      match readConversion rest with
      | some (p, rest) => p :: read fuel rest
      | none => [.bytes [37]]
  | fuel + 1, '\\' :: rest =>
      let (bytes, rest) := readEscape rest
      .bytes bytes :: read fuel rest
  | fuel + 1, c :: rest => .bytes (bytesOf [c]) :: read fuel rest

/-- Bytes filled up to a width. -/
def padded (left : Bool) (width : Nat) (fill : UInt8) (bytes : List UInt8) : List UInt8 :=
  let missing := List.replicate (width - bytes.length) fill
  if left then bytes ++ missing else missing ++ bytes

/-- The number that digits stand for in a base, unless there is something else among them. -/
def natural? (base : Nat) (s : List Char) : Option Nat :=
  let fits (c : Char) : Bool :=
    c.isDigit && c.toNat - '0'.toNat < base ||
      base == 16 && ['a', 'b', 'c', 'd', 'e', 'f'].contains c.toLower
  if s.isEmpty || !s.all fits then none else some (Nat.ofDigitChars base s 0)

/-- The number that a text stands for: decimal, octal after a zero, hexadecimal after `0x`, or the code of
a character after a quotation mark. -/
def number? (s : List Char) : Option Int :=
  let magnitude? (s : List Char) : Option Nat :=
    match s with
    | '0' :: 'x' :: rest => natural? 16 rest
    | '0' :: d :: rest => natural? 8 (d :: rest)
    | s => natural? 10 s
  match s with
  | [] => some 0
  | '\'' :: c :: _ => some c.toNat
  | '"' :: c :: _ => some c.toNat
  | '-' :: rest => (magnitude? rest).map fun n => -(n : Int)
  | '+' :: rest => (magnitude? rest).map fun n => (n : Int)
  | s => (magnitude? s).map fun n => (n : Int)

/-- A number with its sign in front. -/
def signed (flags : List Char) (n : Int) : List Char :=
  if n < 0 then ['-']
  else if flags.contains '+' then ['+']
  else if flags.contains ' ' then [' ']
  else []

/-- The bytes of a number in a base. -/
def numeral (flags : List Char) (width : Nat) (precision : Option Nat) (base : Nat)
    (sign : List Char) (n : Nat) : List UInt8 :=
  let digits := Nat.toDigits base n
  let digits := List.replicate (precision.getD 1 - digits.length) '0' ++ digits
  let zeros := if flags.contains '0' && !flags.contains '-' && precision.isNone
    then List.replicate (width - sign.length - digits.length) '0' else []
  padded (flags.contains '-') width 32 (bytesOf (sign ++ zeros ++ digits))

/-- What a conversion writes for an argument: the bytes, whether the argument fits it, and whether all
writing ends. -/
def convert (flags : List Char) (width : Nat) (precision : Option Nat) (kind : Char)
    (argument : List Char) : List UInt8 × Bool × Bool :=
  let cut (b : List UInt8) : List UInt8 :=
    padded (flags.contains '-') width 32 (match precision with | some p => b.take p | none => b)
  let n := number? argument
  let value := n.getD 0
  let magnitude := value.natAbs
  let fits := n.isSome
  match kind with
  | 's' => (cut (bytesOf argument), true, false)
  | 'b' =>
      let (b, stopped) := escaped argument
      (cut b, true, stopped)
  | 'c' => (padded (flags.contains '-') width 32 ((bytesOf argument).take 1), true, false)
  | 'd' => (numeral flags width precision 10 (signed flags value) magnitude, fits, false)
  | 'i' => (numeral flags width precision 10 (signed flags value) magnitude, fits, false)
  | 'u' => (numeral flags width precision 10 [] magnitude, fits, false)
  | 'o' => (numeral flags width precision 8 [] magnitude, fits, false)
  | 'x' => (numeral flags width precision 16 [] magnitude, fits, false)
  | 'X' =>
      ((numeral flags width precision 16 [] magnitude).map fun b => if 97 ≤ b then b - 32 else b,
        fits, false)
  | _ => ([], false, true)

/-- What has been written of a format. -/
structure Written where
  bytes : List UInt8
  arguments : List (List Char)
  used : Bool
  fits : Bool
  stopped : Bool

/-- Writes a piece. -/
def Written.piece (w : Written) (p : Piece) : Written :=
  if w.stopped then w
  else
    match p with
    | .bytes b => { w with bytes := w.bytes ++ b }
    | .conversion flags width precision kind =>
        let size (s : Option (Option Nat)) (arguments : List (List Char)) :
            Option Int × List (List Char) :=
          match s with
          | none => (none, arguments)
          | some (some n) => (some n, arguments)
          | some none => ((arguments.head?.bind number?), arguments.tail)
        let (width, arguments) := size width w.arguments
        let (precision, arguments) := size precision arguments
        let width := width.getD 0
        let flags := if width < 0 then '-' :: flags else flags
        let (b, fits, stopped) :=
          convert flags width.natAbs (precision.map Int.toNat) kind (arguments.head?.getD [])
        ⟨w.bytes ++ b, arguments.tail, true, w.fits && fits, stopped⟩

/-- Writes a format as often as there are arguments for it; `fuel` bounds how often. -/
def writeFrom (pieces : List Piece) : Nat → List (List Char) → List UInt8 × Bool
  | 0, _ => ([], true)
  | fuel + 1, arguments =>
      let w := pieces.foldl Written.piece ⟨[], arguments, false, true, false⟩
      if w.used && !w.stopped && !w.arguments.isEmpty then
        let (bytes, fits) := writeFrom pieces fuel w.arguments
        (w.bytes ++ bytes, w.fits && fits)
      else (w.bytes, w.fits)

/-- Writes a format with arguments.  Returns the bytes and whether all arguments fit it. -/
def write (form : List Char) (arguments : List (List Char)) : List UInt8 × Bool :=
  writeFrom (read (form.length + 1) form) (arguments.length + 1) arguments

end Format
end Host
end Keyring
