/-!
# Patterns

Scripts match texts in two ways.  A glob fits a whole text; it is used by choices and where a parameter
loses its front or its back.  An expression fits some part of a line; it is used by the utilities that
search and edit lines.  An expression is a choice of sequences of characters that may be repeated;
groups are not read.
-/

namespace Keyring
namespace Host

/-- A set of characters between square brackets: its ranges, or everything but them. -/
structure CharSet where
  negated : Bool
  ranges : List (Char × Char)
deriving DecidableEq, Repr

namespace CharSet

/-- Whether a character is in a set. -/
def contains (s : CharSet) (c : Char) : Bool :=
  (s.ranges.any fun (low, high) => low ≤ c && c ≤ high) != s.negated

/-- The sets that have names. -/
def named : List (String × List (Char × Char)) :=
  [("[:digit:]", [('0', '9')]), ("[:lower:]", [('a', 'z')]), ("[:upper:]", [('A', 'Z')]),
    ("[:alpha:]", [('a', 'z'), ('A', 'Z')]), ("[:alnum:]", [('a', 'z'), ('A', 'Z'), ('0', '9')]),
    ("[:space:]", [(' ', ' '), ('\t', '\r')]), ("[:blank:]", [(' ', ' '), ('\t', '\t')])]

/-- Reads ranges up to the closing bracket, which counts as a character when it comes first. -/
def readRanges : Nat → Bool → List Char → Option (List (Char × Char) × List Char)
  | 0, _, _ => none
  | _ + 1, _, [] => none
  | fuel + 1, first, c :: rest =>
      if c = ']' && !first then some ([], rest)
      else
        match named.find? fun n => n.1.toList.isPrefixOf (c :: rest) with
        | some (name, ranges) =>
            (readRanges fuel false ((c :: rest).drop name.length)).map fun (r, s) => (ranges ++ r, s)
        | none =>
            match rest with
            | '-' :: high :: rest =>
                if high = ']' then
                  (readRanges fuel false ('-' :: high :: rest)).map fun (r, s) => ((c, c) :: r, s)
                else (readRanges fuel false rest).map fun (r, s) => ((c, high) :: r, s)
            | rest => (readRanges fuel false rest).map fun (r, s) => ((c, c) :: r, s)

/-- Reads a set after its opening bracket. -/
def read? (s : List Char) : Option (CharSet × List Char) :=
  match s with
  | '!' :: rest => (readRanges (rest.length + 1) true rest).map fun (r, s) => (⟨true, r⟩, s)
  | '^' :: rest => (readRanges (rest.length + 1) true rest).map fun (r, s) => (⟨true, r⟩, s)
  | rest => (readRanges (rest.length + 1) true rest).map fun (r, s) => (⟨false, r⟩, s)

end CharSet

/-- A piece of a glob. -/
inductive Glob
  | exact (c : Char)
  | one
  | many
  | oneOf (set : CharSet)
deriving DecidableEq, Repr

namespace Glob

/-- Reads the pieces of a glob; `fuel` bounds their number. -/
def readFrom : Nat → List Char → List Glob
  | 0, _ => []
  | _ + 1, [] => []
  | fuel + 1, '*' :: rest => .many :: readFrom fuel rest
  | fuel + 1, '?' :: rest => .one :: readFrom fuel rest
  | fuel + 1, '\\' :: c :: rest => .exact c :: readFrom fuel rest
  | fuel + 1, '[' :: rest =>
      match CharSet.read? rest with
      | some (set, rest) => .oneOf set :: readFrom fuel rest
      | none => .exact '[' :: readFrom fuel rest
  | fuel + 1, c :: rest => .exact c :: readFrom fuel rest

/-- The pieces of a text in which every character stands for itself. -/
def literal (s : List Char) : List Glob :=
  s.map .exact

/-- Reads a glob. -/
def read (s : List Char) : List Glob :=
  readFrom s.length s

/-- Whether a piece stands for a character. -/
def accepts (c : Char) : Glob → Bool
  | .exact d => c == d
  | .one => true
  | .many => true
  | .oneOf set => set.contains c

/-- Whether a glob fits a text. -/
def fits : List Glob → List Char → Bool
  | [], s => s.isEmpty
  | .many :: rest, s => (List.range (s.length + 1)).any fun n => fits rest (s.drop n)
  | g :: rest, c :: s => g.accepts c && fits rest s
  | _ :: _, [] => false

/-- A text without the front that a glob fits. -/
def dropFront (longest : Bool) (glob : List Glob) (s : List Char) : List Char :=
  let lengths := List.range (s.length + 1)
  match (if longest then lengths.reverse else lengths).find? fun n => fits glob (s.take n) with
  | some n => s.drop n
  | none => s

/-- A text without the back that a glob fits. -/
def dropBack (longest : Bool) (glob : List Glob) (s : List Char) : List Char :=
  let lengths := List.range (s.length + 1)
  match (if longest then lengths else lengths.reverse).find? fun n => fits glob (s.drop n) with
  | some n => s.take n
  | none => s

end Glob

/-- What an expression takes at one place. -/
inductive Atom
  | exact (c : Char)
  | any
  | oneOf (set : CharSet)
  | start
  | stop
deriving DecidableEq, Repr

/-- How often an atom is taken. -/
inductive Repetition
  | once
  | optional
  | some
  | any
deriving DecidableEq, Repr

/-- An expression: sequences of repeated atoms, one of which has to fit. -/
structure Expression where
  choices : List (List (Atom × Repetition))
deriving DecidableEq, Repr

namespace Expression

/-- Reads the repetition after an atom. -/
def readRepetition (extended : Bool) : List Char → Repetition × List Char
  | '*' :: rest => (.any, rest)
  | '+' :: rest => if extended then (.some, rest) else (.once, '+' :: rest)
  | '?' :: rest => if extended then (.optional, rest) else (.once, '?' :: rest)
  | '\\' :: '+' :: rest => if extended then (.once, '\\' :: '+' :: rest) else (.some, rest)
  | '\\' :: '?' :: rest => if extended then (.once, '\\' :: '?' :: rest) else (.optional, rest)
  | rest => (.once, rest)

/-- The character that an escape stands for. -/
def escaped (c : Char) : Char :=
  if c = 't' then '\t' else if c = 'n' then '\n' else c

/-- Reads the sequences of an expression; `fuel` bounds the number of atoms. -/
def readFrom (extended : Bool) : Nat → Bool → List Char → List (List (Atom × Repetition))
  | 0, _, _ => [[]]
  | _ + 1, _, [] => [[]]
  | fuel + 1, first, c :: rest =>
      let goOn (a : Atom) (s : List Char) :=
        let (r, s) := readRepetition extended s
        match readFrom extended fuel false s with
        | sequence :: others => ((a, r) :: sequence) :: others
        | [] => [[(a, r)]]
      match c, rest with
      | '^', _ =>
          if first || extended then
            match readFrom extended fuel true rest with
            | sequence :: others => ((.start, .once) :: sequence) :: others
            | [] => []
          else goOn (.exact '^') rest
      | '$', _ => if rest.isEmpty || extended then goOn .stop rest else goOn (.exact '$') rest
      | '.', _ => goOn .any rest
      | '\\', '|' :: rest =>
          if extended then goOn (.exact '|') rest else [] :: readFrom extended fuel true rest
      | '|', _ =>
          if extended then [] :: readFrom extended fuel true rest else goOn (.exact '|') rest
      | '\\', d :: rest => goOn (.exact (escaped d)) rest
      | '[', _ =>
          match CharSet.read? rest with
          | some (set, rest) => goOn (.oneOf set) rest
          | none => goOn (.exact '[') rest
      | c, rest => goOn (.exact c) rest

/-- Reads an expression. -/
def read (extended : Bool) (s : List Char) : Expression :=
  ⟨readFrom extended (s.length + 1) true s⟩

/-- The expression that fits a text as it is. -/
def literal (s : List Char) : Expression :=
  ⟨[s.map fun c => (.exact c, .once)]⟩

/-- Whether an atom takes a character. -/
def accepts (c : Char) : Atom → Bool
  | .exact d => c == d
  | .any => true
  | .oneOf set => set.contains c
  | .start => false
  | .stop => false

/-- How often an atom can be taken from the front of a text. -/
def run (a : Atom) (s : List Char) : Nat :=
  (s.takeWhile fun c => accepts c a).length

/-- The numbers from the greatest down to the least. -/
def downFrom (greatest least : Nat) : List Nat :=
  ((List.range (greatest + 1)).filter (least ≤ ·)).reverse

/-- The length of the part at the front of a text that a sequence fits, as long as possible at each
atom; `atStart` says whether the text is at the start of its line. -/
def fitSequence : List (Atom × Repetition) → Bool → List Char → Option Nat
  | [], _, _ => some 0
  | (.start, _) :: rest, atStart, s => if atStart then fitSequence rest atStart s else none
  | (.stop, _) :: rest, atStart, s => if s.isEmpty then fitSequence rest atStart s else none
  | (a, .once) :: rest, _, s =>
      match s with
      | c :: s => if accepts c a then (fitSequence rest false s).map (· + 1) else none
      | [] => none
  | (a, repetition) :: rest, atStart, s =>
      let greatest := if repetition = .optional then min 1 (run a s) else run a s
      let least := if repetition = .some then 1 else 0
      (downFrom greatest least).findSome? fun n =>
        (fitSequence rest (atStart && n == 0) (s.drop n)).map (· + n)

/-- The greatest length that one of the choices fits. -/
def fitFront (e : Expression) (atStart : Bool) (s : List Char) : Option Nat :=
  (e.choices.filterMap fun sequence => fitSequence sequence atStart s).max?

/-- The place and the length of the first part of a line that an expression fits. -/
def find? (e : Expression) (line : List Char) : Option (Nat × Nat) :=
  (List.range (line.length + 1)).findSome? fun n =>
    (e.fitFront (n == 0) (line.drop n)).map fun length => (n, length)

/-- Whether an expression fits some part of a line. -/
def fits (e : Expression) (line : List Char) : Bool :=
  (e.find? line).isSome

/-- Whether an expression fits a line from its start to its end. -/
def fitsAll (e : Expression) (line : List Char) : Bool :=
  (e.choices.filterMap fun s => fitSequence (s ++ [(.stop, .once)]) true line).isEmpty == false

/-- The parts of a line that an expression fits and that are not empty; `fuel` bounds their number and
`atStart` says whether the text is at the start of its line. -/
def partsFrom (e : Expression) : Nat → Bool → List Char → List (List Char)
  | 0, _, _ => []
  | _ + 1, _, [] => []
  | fuel + 1, atStart, c :: s =>
      match e.fitFront atStart (c :: s) with
      | some (length + 1) =>
          (c :: s).take (length + 1) :: partsFrom e fuel false (s.drop length)
      | _ => partsFrom e fuel false s

/-- The parts of a line that an expression fits and that are not empty. -/
def parts (e : Expression) (line : List Char) : List (List Char) :=
  e.partsFrom (line.length + 1) true line

/-- Replaces the parts of a line that an expression fits, or only the first of them; `fuel` bounds
their number and `atStart` says whether the text is at the start of its line. -/
def replaceFrom (e : Expression) (all : Bool) (by' : List Char → List Char) :
    Nat → Bool → List Char → List Char
  | 0, _, s => s
  | fuel + 1, atStart, s =>
      let found := (List.range (s.length + 1)).findSome? fun n =>
        (e.fitFront (atStart && n == 0) (s.drop n)).map fun length => (n, length)
      match found with
      | none => s
      | some (n, length) =>
          let part := (s.drop n).take length
          let rest := s.drop (n + length)
          let done := s.take n ++ by' part
          if !all then done ++ rest
          else
            match length, rest with
            | 0, c :: rest => done ++ c :: replaceFrom e all by' fuel false rest
            | 0, [] => done
            | _, rest => if rest.isEmpty then done else done ++ replaceFrom e all by' fuel false rest

/-- Replaces the parts of a line that an expression fits. -/
def replace (e : Expression) (all : Bool) (by' : List Char → List Char) (line : List Char) :
    List Char :=
  e.replaceFrom all by' (line.length + 1) true line

end Expression
end Host
end Keyring
