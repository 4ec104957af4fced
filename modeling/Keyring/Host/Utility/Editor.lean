import Keyring.Host.Format
import Keyring.Host.Pattern
import Keyring.Host.Utility.Reading

/-!
# The line editor

The editor goes through the lines of a text and does what its orders say with each of them: showing it,
dropping it, replacing parts of it, or stopping.  An order may be bound to the lines that an address or a
range of addresses selects.
-/

namespace Keyring
namespace Host
namespace Editor

/-- What selects a line. -/
inductive Address
  | line (number : Nat)
  | last
  | expression (e : Expression)
deriving DecidableEq, Repr

/-- What an order does with a line. -/
inductive Deed
  | print
  | drop
  | quit
  | number
  | replace (e : Expression) (by' : List Char) (all : Bool) (print : Bool)
  | swap (base others : List Char)
deriving DecidableEq, Repr

/-- An order.  `active` says whether its range has begun. -/
structure Order where
  first : Option Address
  last : Option Address
  negated : Bool
  deed : Deed
  active : Bool
deriving DecidableEq, Repr

/-- Reads a text up to a mark that no backslash precedes.  A backslash before the mark is dropped. -/
def upTo (mark : Char) : List Char → Option (List Char × List Char)
  | [] => none
  | '\\' :: c :: rest =>
      (upTo mark rest).map fun (s, rest) => (if c = mark then c :: s else '\\' :: c :: s, rest)
  | c :: rest => if c = mark then some ([], rest) else (upTo mark rest).map fun (s, rest) => (c :: s, rest)

/-- Reads an address, if there is one. -/
def readAddress (extended : Bool) (s : List Char) : Option Address × List Char :=
  match s with
  | '$' :: rest => (some .last, rest)
  | '/' :: rest =>
      match upTo '/' rest with
      | some (e, rest) => (some (.expression (.read extended e)), rest)
      | none => (none, s)
  | s =>
      let d := s.takeWhile Char.isDigit
      if d.isEmpty then (none, s) else (some (.line (count d)), s.drop d.length)

/-- Reads what an order does. -/
def readDeed (extended : Bool) (s : List Char) : Option (Deed × List Char) :=
  match s with
  | 'p' :: rest => some (.print, rest)
  | 'd' :: rest => some (.drop, rest)
  | 'q' :: rest => some (.quit, rest)
  | '=' :: rest => some (.number, rest)
  | 's' :: mark :: rest =>
      match upTo mark rest with
      | none => none
      | some (e, rest) =>
          match upTo mark rest with
          | none => none
          | some (r, rest) =>
              let flags := rest.takeWhile Char.isAlpha
              some (.replace (.read extended e) r (flags.contains 'g') (flags.contains 'p'),
                rest.drop flags.length)
  | 'y' :: mark :: rest =>
      match upTo mark rest with
      | none => none
      | some (base, rest) => (upTo mark rest).map fun (others, rest) => (.swap base others, rest)
  | _ => none

/-- Whether a character separates orders. -/
def isSeparator (c : Char) : Bool :=
  c == ' ' || c == '\t' || c == ';' || c == '\n'

/-- Reads orders; `fuel` bounds their number. -/
def readOrders (extended : Bool) : Nat → List Char → Option (List Order)
  | 0, _ => some []
  | fuel + 1, s =>
      match s.dropWhile isSeparator with
      | [] => some []
      | s =>
          let (first, s) := readAddress extended s
          let (last, s) := match s with
            | ',' :: rest => readAddress extended rest
            | s => (none, s)
          let s := s.dropWhile (· == ' ')
          let (negated, s) := match s with
            | '!' :: rest => (true, rest.dropWhile (· == ' '))
            | s => (false, s)
          match readDeed extended s with
          | none => none
          | some (deed, rest) =>
              (readOrders extended fuel rest).map fun l => ⟨first, last, negated, deed, false⟩ :: l

/-- A line among the others: its number, whether it is the last one, and its text. -/
structure Place where
  number : Nat
  isLast : Bool
  text : List Char

/-- Whether an address selects a line. -/
def Address.selects (p : Place) : Address → Bool
  | .line n => p.number == n
  | .last => p.isLast
  | .expression e => e.fits p.text

/-- Whether an order is to be done with a line, and the order after it. -/
def Order.step (p : Place) (o : Order) : Bool × Order :=
  match o.first, o.last with
  | none, _ => (!o.negated, o)
  | some a, none => (a.selects p != o.negated, o)
  | some a, some b =>
      if o.active then (!o.negated, { o with active := !b.selects p })
      else if a.selects p then
        let reached := match b with
          | .line n => n ≤ p.number
          | .last => p.isLast
          | .expression _ => false
        (!o.negated, { o with active := !reached })
      else (o.negated, o)

/-- The text that replaces a part of a line. -/
def replacement (part : List Char) : List Char → List Char
  | [] => []
  | '&' :: rest => part ++ replacement part rest
  | '\\' :: 'n' :: rest => '\n' :: replacement part rest
  | '\\' :: 't' :: rest => '\t' :: replacement part rest
  | '\\' :: c :: rest => c :: replacement part rest
  | c :: rest => c :: replacement part rest

/-- What has become of a line. -/
structure Cycle where
  place : Place
  shown : List (List Char)
  dropped : Bool
  stopped : Bool

/-- Does one order. -/
def Cycle.obey (c : Cycle) (d : Deed) : Cycle :=
  match d with
  | .print => { c with shown := c.shown ++ [c.place.text] }
  | .drop => { c with dropped := true }
  | .quit => { c with stopped := true }
  | .number => { c with shown := c.shown ++ [digits c.place.number] }
  | .swap base others =>
      let change (x : Char) : Char := ((base.findIdx? (· == x)).bind fun n => others[n]?).getD x
      { c with place := { c.place with text := c.place.text.map change } }
  | .replace e by' all print =>
      if !e.fits c.place.text then c
      else
        let text := e.replace all (fun part => replacement part by') c.place.text
        { c with
          place := { c.place with text := text }
          shown := if print then c.shown ++ [text] else c.shown }

/-- Does the orders with a line.  Returns what has become of it, and the orders after it. -/
def Cycle.obeyAll : List Order → Cycle → Cycle × List Order
  | [], c => (c, [])
  | o :: rest, c =>
      if c.dropped || c.stopped then (c, o :: rest)
      else
        let (applies, o) := o.step c.place
        let (c, rest) := Cycle.obeyAll rest (if applies then c.obey o.deed else c)
        (c, o :: rest)

/-- The lines that the editor shows. -/
def edit (silent : Bool) : List Order → Nat → List (List Char) → List (List Char)
  | _, _, [] => []
  | orders, number, line :: rest =>
      let (c, orders) := Cycle.obeyAll orders ⟨⟨number, rest.isEmpty, line⟩, [], false, false⟩
      let shown := if silent || c.dropped then c.shown else c.shown ++ [c.place.text]
      if c.stopped then shown else shown ++ edit silent orders (number + 1) rest

/-- What the editor says when it is given no orders. -/
def usage : String :=
  "Usage: sed [OPTION]... \x7bscript-only-if-no-other-script\x7d [input-file]...\n"

/-- Edits its sources. -/
def utility : Utility where
  form := ⟨['n', 'E', 'r', 's', 'u'], ['e']⟩
  mixed := true
  refusal := 1
  run o c s :=
    let scripts := (o.given.filter fun g => g.1 == 'e').map Prod.snd
    let (scripts, names) :=
      if scripts.isEmpty then (o.operands.take 1, o.operands.drop 1) else (scripts, o.operands)
    let script := List.intercalate ['\n'] scripts
    let orders := readOrders (o.has 'E' || o.has 'r') (script.length + 1) script
    match scripts, orders with
    | [], _ => (.exited 1, s.complain usage)
    | _, none => (.exited 1, s.fault c "-e expression #1, char 1: unknown command")
    | _, some orders =>
        let (bytes, fine, s) :=
          readSources (fun n e => "can't read " ++ n ++ ": " ++ e.reason) c s names
        let lines := (linesOf bytes).map fun line => textOf (bodyOf line)
        let shown := (edit (o.has 'n') orders 1 lines).map bytesOf
        let joined := (shown.map ended).flatten
        let unended := bytes.getLast? != some 10 && shown.getLast? == lines.getLast?.map bytesOf
        (statusOf fine 2, s.write .output (if unended then joined.dropLast else joined))

end Editor
end Host
end Keyring
