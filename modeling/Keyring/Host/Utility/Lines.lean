import Keyring.Host.Format
import Keyring.Host.Pattern
import Keyring.Host.Utility.Reading

/-!
# Utilities for lines

The utilities that show, choose, count, cut, order and change the lines of a text.
-/

namespace Keyring
namespace Host
namespace Lines

/-- Copies its sources. -/
def copy : Utility where
  form := ⟨['u'], []⟩
  mixed := true
  refusal := 1
  run o c s :=
    let (bytes, fine, s) := readSources plainWording c s o.operands
    (statusOf fine 1, s.write .output bytes)

/-- How much of a text is shown: a number of lines or of bytes, perhaps counted from the other end. -/
structure Amount where
  number : Nat
  inBytes : Bool
  reversed : Bool

/-- The amount that is asked for; the sign is the one that counts from the other end. -/
def amount (sign : Char) (o : Options) : Amount :=
  match o.value? 'c', o.value? 'n' with
  | some v, _ => ⟨count v, true, v.head? == some sign⟩
  | none, some v => ⟨count v, false, v.head? == some sign⟩
  | none, none => ⟨10, false, false⟩

/-- The pieces of a text that are counted. -/
def Amount.pieces (a : Amount) (bytes : List UInt8) : List (List UInt8) :=
  if a.inBytes then bytes.map fun b => [b] else linesOf bytes

/-- The front of a text. -/
def front (a : Amount) (bytes : List UInt8) : List UInt8 :=
  let pieces := a.pieces bytes
  (pieces.take (if a.reversed then pieces.length - a.number else a.number)).flatten

/-- The back of a text. -/
def back (a : Amount) (bytes : List UInt8) : List UInt8 :=
  let pieces := a.pieces bytes
  (pieces.drop (if a.reversed then a.number - 1 else pieces.length - a.number)).flatten

/-- Shows a part of each source, with a heading when there are several. -/
def showEach (part : List UInt8 → List UInt8) (o : Options) : Behaviour := fun c s =>
  let (l, s) := sources c s o.operands
  let (fine, s) := reportSources openWording c l s
  let l := l.filter fun source => source.content.toOption.isSome
  let headed := (o.operands.length > 1 || o.has 'v') && !o.has 'q'
  let heading (n : Nat) (source : Source) : List UInt8 :=
    if headed then
      bytesOf ((if n = 0 then [] else ['\n']) ++ "==> ".toList ++
        (if isInputName source.name then "standard input".toList else source.name) ++ " <==\n".toList)
    else []
  let shown := l.mapIdx fun n source => heading n source ++ part source.bytes
  (statusOf fine 1, s.write .output shown.flatten)

/-- Shows the front of its sources. -/
def head : Utility where
  form := ⟨['q', 'v'], ['n', 'c']⟩
  mixed := true
  refusal := 1
  run o := showEach (front (amount '-' o)) o

/-- Shows the back of its sources. -/
def tail : Utility where
  form := ⟨['q', 'v'], ['n', 'c']⟩
  mixed := true
  refusal := 1
  run o := showEach (back (amount '+' o)) o

/-- The arguments of `head` and `tail` with a number of lines that stands by itself made an option. -/
def withNumber (arguments : List (List Char)) : List (List Char) :=
  match arguments with
  | ('-' :: d :: rest) :: others =>
      if (d :: rest).all Char.isDigit then ['-', 'n'] :: (d :: rest) :: others else arguments
  | arguments => arguments

/-- Shows the lines of its sources in reverse. -/
def reverse : Utility where
  form := ⟨[], []⟩
  mixed := true
  refusal := 1
  run o c s :=
    let wording (n : String) (e : OsError) : String :=
      "failed to open '" ++ n ++ "' for reading: " ++ e.reason
    let (bytes, fine, s) := readSources wording c s o.operands
    (statusOf fine 1, s.write .output (linesOf bytes).reverse.flatten)

/-- A stretch of fields or characters, counted from one. -/
structure Stretch where
  first : Nat
  last : Option Nat

/-- Reads a list of stretches such as `1,3-4,6-`. -/
def stretches (s : List Char) : List Stretch :=
  (s.splitOn ',').map fun part =>
    match part.splitOn '-' with
    | [n] => ⟨count n, some (count n)⟩
    | [first, last] =>
        ⟨if first.isEmpty then 1 else count first, if last.isEmpty then none else some (count last)⟩
    | _ => ⟨1, none⟩

/-- The items that some stretch holds. -/
def chosen {α : Type} (l : List Stretch) (items : List α) : List α :=
  let holds (n : Nat) : Bool := l.any fun r => r.first ≤ n && (r.last.getD n) ≥ n
  ((items.mapIdx fun n x => (n + 1, x)).filter fun p => holds p.1).map Prod.snd

/-- Cuts fields or characters out of lines.  A line that is not divided is a field of its own. -/
def cut : Utility where
  form := ⟨['s', 'n'], ['f', 'd', 'c', 'b']⟩
  mixed := true
  refusal := 1
  run o c s :=
    let (bytes, fine, s) := readSources plainWording c s o.operands
    let separator : UInt8 := (((o.value? 'd').bind (·.head?)).map fun d => UInt8.ofNat d.toNat).getD 9
    let part (line : List UInt8) : Option (List UInt8) :=
      match o.value? 'f', o.value? 'c', o.value? 'b' with
      | some f, _, _ =>
          let fields := line.splitOn separator
          if fields.length = 1 then (if o.has 's' then none else some line)
          else some (List.intercalate [separator] (chosen (stretches f) fields))
      | none, some l, _ => some (chosen (stretches l) line)
      | none, none, some l => some (chosen (stretches l) line)
      | none, none, none => none
    if (o.value? 'f' <|> o.value? 'c' <|> o.value? 'b').isNone then
      (.exited 1, s.misuse c "you must specify a list of bytes, characters, or fields")
    else
      (statusOf fine 1, s.write .output
        ((linesOf bytes).filterMap fun line => (part (bodyOf line)).map ended).flatten)

/-- The number of words in a text. -/
def wordCount (bytes : List UInt8) : Nat :=
  let isGap (b : UInt8) : Bool := b == 32 || (9 ≤ b && b ≤ 13)
  (bytes.foldl
    (fun (n, inside) b => if isGap b then (n, false) else (if inside then n else n + 1, true))
    (0, false)).1

/-- A number filled up with blanks in front. -/
def column (width n : Nat) : List Char :=
  List.replicate (width - (digits n).length) ' ' ++ digits n

/-- Counts lines, words and bytes. -/
def counts : Utility where
  form := ⟨['l', 'w', 'c', 'm'], []⟩
  mixed := true
  refusal := 1
  run o c s :=
    let (l, s) := sources c s o.operands
    let (fine, s) := reportSources plainWording c l s
    let l := l.filter fun source => source.content.toOption.isSome
    let every := !(o.has 'l' || o.has 'w' || o.has 'c' || o.has 'm')
    let figures (b : List UInt8) : List Nat :=
      (if every || o.has 'l' then [b.count 10] else []) ++
        (if every || o.has 'w' then [wordCount b] else []) ++
        (if o.has 'm' then [(textOf b).length] else []) ++
        (if every || o.has 'c' then [b.length] else [])
    let all := l.flatMap Source.bytes
    let width :=
      if (figures []).length = 1 && o.operands.length ≤ 1 then 1
      else if o.operands.isEmpty || o.operands.any isInputName then 7
      else (digits all.length).length
    let row (b : List UInt8) (name : List Char) : List UInt8 :=
      let cells := (figures b).map (column width)
      bytesOf (List.intercalate [' '] (cells ++ (if name.isEmpty then [] else [name])) ++ ['\n'])
    let rows := l.map fun source => row source.bytes (if o.operands.isEmpty then [] else source.name)
    let total := if o.operands.length > 1 then [row all "total".toList] else []
    (statusOf fine 1, s.write .output (rows ++ total).flatten)

/-- Searches lines for patterns. -/
def search (always : List Char) : Utility where
  form := ⟨['q', 'v', 'c', 'F', 'E', 'G', 'i', 'n', 'x', 'o', 'l', 'L', 'h', 'H', 's', 'a'],
    ['e', 'm']⟩
  mixed := true
  refusal := 2
  run o c s :=
    let has (letter : Char) : Bool := always.contains letter || o.has letter
    match o.value? 'e' <|> o.operands.head? with
    | none => (.exited 2, s.complain
        ("Usage: grep [OPTION]... PATTERNS [FILE]...\nTry '" ++ String.ofList c.name ++
          " --help' for more information.\n"))
    | some pattern =>
        let names := if (o.value? 'e').isSome then o.operands else o.operands.tail
        let (l, s) := sources c s names
        let (fine, s) :=
          if has 's' then (l.all fun source => source.content.toOption.isSome, s)
          else reportSources plainWording c l s
        let fold (s : List Char) : List Char := if has 'i' then s.map Char.toLower else s
        let expressions := ((fold pattern).splitOn '\n').map fun p =>
          if has 'F' then Expression.literal p else Expression.read (has 'E') p
        let fits (line : List UInt8) : Bool :=
          let text := fold (textOf (bodyOf line))
          (expressions.any fun e => if has 'x' then e.fitsAll text else e.fits text) != has 'v'
        let named := (names.length > 1 || has 'H') && !has 'h'
        let found (source : Source) : List (Nat × List UInt8) :=
          let lines := ((linesOf source.bytes).mapIdx fun n line => (n + 1, line)).filter
            fun p => fits p.2
          match o.value? 'm' with
          | some n => lines.take (count n)
          | none => lines
        let label (source : Source) (mark : Char) : List UInt8 :=
          if named then bytesOf (source.name ++ [mark]) else []
        let parts (line : List UInt8) : List (List UInt8) :=
          if has 'o' then
            expressions.flatMap fun e => (e.parts (textOf (bodyOf line))).map fun p => bytesOf p
          else [bodyOf line]
        let shown (source : Source) : List UInt8 :=
          let lines := found source
          if has 'q' then []
          else if has 'l' then (if lines.isEmpty then [] else ended (bytesOf source.name))
          else if has 'L' then (if lines.isEmpty then ended (bytesOf source.name) else [])
          else if has 'c' then label source ':' ++ ended (bytesOf (digits lines.length))
          else
            lines.flatMap fun (n, line) => (parts line).flatMap fun p =>
              label source ':' ++ (if has 'n' then bytesOf (digits n ++ [':']) else []) ++ ended p
        let anyFound := l.any fun source => !(found source).isEmpty
        let status := if anyFound && (fine || has 'q') then 0 else if fine then 1 else 2
        (.exited status, s.write .output (l.flatMap shown))

/-- Whether bytes come before others, or are the same. -/
def inOrder : List UInt8 → List UInt8 → Bool
  | [], _ => true
  | _ :: _, [] => false
  | a :: as, b :: bs => a < b || (a == b && inOrder as bs)

/-- The number at the front of a text. -/
def leadingNumber (line : List UInt8) : Int :=
  let s := (textOf line).dropWhile fun c => c == ' ' || c == '\t'
  match s with
  | '-' :: rest => -(count (rest.takeWhile Char.isDigit) : Int)
  | s => count (s.takeWhile Char.isDigit)

/-- The fields of a line: divided by a separator, or else by the blanks in front of them. -/
def fieldsOf (separator : Option UInt8) (line : List UInt8) : List (List UInt8) :=
  match separator with
  | some b => line.splitOn b
  | none => (line.splitOn 32).filter (!·.isEmpty)

/-- Orders lines. -/
def sort : Utility where
  form := ⟨['r', 'n', 'u', 's', 'f', 'b'], ['t', 'k']⟩
  mixed := true
  refusal := 2
  run o c s :=
    let (bytes, fine, s) := readSources (fun n e => "cannot read: " ++ n ++ ": " ++ e.reason) c s
      o.operands
    let separator := ((o.value? 't').bind (·.head?)).map fun d => UInt8.ofNat d.toNat
    let spec := (o.value? 'k').getD []
    let first := count (spec.takeWhile Char.isDigit)
    let last := (spec.splitOn ',')[1]?.map fun p => count (p.takeWhile Char.isDigit)
    let numeric := o.has 'n' || spec.contains 'n'
    let reversed := o.has 'r' || spec.contains 'r'
    let key (line : List UInt8) : List UInt8 :=
      if spec.isEmpty then line
      else
        let fields := (fieldsOf separator line).drop (first - 1)
        List.intercalate [separator.getD 32] (match last with
          | some n => fields.take (n + 1 - first)
          | none => fields)
    let same (a b : List UInt8) : Bool :=
      if numeric then leadingNumber (key a) == leadingNumber (key b) else key a == key b
    let least (a b : List UInt8) : Bool :=
      if numeric then leadingNumber (key a) ≤ leadingNumber (key b) else inOrder (key a) (key b)
    let before (a b : List UInt8) : Bool :=
      if same a b then o.has 'u' || o.has 's' || (if o.has 'r' then inOrder b a else inOrder a b)
      else if reversed then least b a else least a b
    let lines := ((linesOf bytes).map bodyOf).mergeSort before
    let lines :=
      if o.has 'u' then
        (lines.foldl (fun kept line => match kept with
          | k :: _ => if same k line then kept else line :: kept
          | [] => [line]) []).reverse
      else lines
    (statusOf fine 2, s.write .output (lines.map ended).flatten)

/-- Groups equal lines that stand together, each with their number. -/
def groups : List (List UInt8) → List (Nat × List UInt8)
  | [] => []
  | line :: rest =>
      match groups rest with
      | (n, l) :: others => if l == line then (n + 1, l) :: others else (1, line) :: (n, l) :: others
      | [] => [(1, line)]

/-- Drops the repetitions of lines. -/
def distinct : Utility where
  form := ⟨['c', 'd', 'u'], []⟩
  mixed := true
  refusal := 1
  run o c s :=
    let (bytes, fine, s) := readSources plainWording c s (o.operands.take 1)
    let kept := (groups ((linesOf bytes).map bodyOf)).filter fun (n, _) =>
      (!o.has 'd' || n > 1) && (!o.has 'u' || n = 1)
    let shown := kept.flatMap fun (n, line) =>
      (if o.has 'c' then bytesOf (column 7 n ++ [' ']) else []) ++ ended line
    (statusOf fine 1, s.write .output shown)

/-- Reads a set of characters for `tr`; `fuel` bounds their number. -/
def readSet : Nat → List Char → List UInt8
  | 0, _ => []
  | _ + 1, [] => []
  | fuel + 1, c :: rest =>
      match CharSet.named.find? fun n => n.1.toList.isPrefixOf (c :: rest) with
      | some (name, ranges) =>
          (ranges.flatMap fun (low, high) =>
            (List.range (high.toNat - low.toNat + 1)).map fun n => UInt8.ofNat (low.toNat + n)) ++
            readSet fuel ((c :: rest).drop name.length)
      | none =>
          match c, rest with
          | '\\', d :: rest =>
              let (bytes, rest) := Format.readEscape (d :: rest)
              (if bytes.length = 1 then bytes else bytes.drop 1) ++ readSet fuel rest
          | low, '-' :: high :: rest =>
              ((List.range (high.toNat - low.toNat + 1)).map fun n => UInt8.ofNat (low.toNat + n)) ++
                readSet fuel rest
          | c, rest => bytesOf [c] ++ readSet fuel rest

/-- Drops the repetitions of bytes of a set that stand together. -/
def squeeze (set : List UInt8) : List UInt8 → List UInt8
  | [] => []
  | b :: rest =>
      match squeeze set rest with
      | d :: others => if b == d && set.contains b then d :: others else b :: d :: others
      | [] => [b]

/-- Changes, deletes or squeezes characters of its input. -/
def exchange : Utility where
  form := ⟨['d', 's', 'c', 'C'], []⟩
  mixed := false
  refusal := 1
  run o c s :=
    match o.operands with
    | [] => (.exited 1, s.misuse c "missing operand")
    | first :: others =>
        let all := (List.range 256).map UInt8.ofNat
        let set (s : List Char) : List UInt8 := readSet (s.length + 1) s
        let base := set first
        let base := if o.has 'c' || o.has 'C' then all.filter fun b => !base.contains b else base
        let second := set (others.head?.getD [])
        let change (b : UInt8) : UInt8 :=
          match base.findIdx? (· == b) with
          | some n => (second[n]?.or second.getLast?).getD b
          | none => b
        let changed :=
          if o.has 'd' then s.input.filter fun b => !base.contains b
          else if others.isEmpty then s.input else s.input.map change
        let squeezed :=
          if o.has 's' then squeeze (if others.isEmpty then base else second) changed else changed
        (.exited 0, { s with input := [] }.write .output squeezed)

/-- The numbers from one to another. -/
def sequence : Utility where
  form := ⟨[], ['s']⟩
  mixed := false
  refusal := 1
  run o c s :=
    let number (a : List Char) : Int := (Format.number? a).getD 0
    let bounds : Option (Int × Int × Int) := match o.operands.map number with
      | [last] => some (1, 1, last)
      | [first, last] => some (first, 1, last)
      | [first, step, last] => some (first, step, last)
      | _ => none
    match bounds with
    | none => (.exited 1, s.misuse c "missing operand")
    | some (first, step, last) =>
        let size := if step = 0 then 0 else (Int.fdiv (last - first) step + 1).toNat
        let texts := (List.range size).map fun (n : Nat) => (toString (first + step * n)).toList
        let text := List.intercalate ((o.value? 's').getD ['\n']) texts
        (.exited 0, s.say (if texts.isEmpty then [] else text ++ ['\n']))

end Lines
end Host
end Keyring
