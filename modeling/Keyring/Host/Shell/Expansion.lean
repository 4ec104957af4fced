import Keyring.Host.Arithmetic
import Keyring.Host.Pattern
import Keyring.Host.Shell.Run

/-!
# Expansion of words

A word of a script stands for any number of texts: its parameters are replaced by their values, which are
divided at separators unless they are quoted, and a text with the signs of a glob stands for the paths
that it fits.  Each character remembers whether a quotation has taken its special meaning.

Expanding a word may run scripts and assign variables, so the state of the run is handed through.
-/

namespace Keyring
namespace Host

/-- What of a word is divided at separators where it is not quoted: nothing, the values in it, or its own
characters as well, as in the operand of a parameter. -/
inductive Division
  | none
  | values
  | every
deriving DecidableEq, Repr

/-- Whether values are divided. -/
def Division.isPartial (d : Division) : Bool :=
  d != .none

/-- What is divided of an operand. -/
def Division.inside (d : Division) : Division :=
  if d = .none then .none else .every

/-- A text whose characters know whether they are quoted. -/
abbrev Field := List (Char × Bool)

/-- The fields that a word has made so far: those that are complete, the newest first, and the one that
has been begun, its last character first.  `spaced` says that the last complete one was ended by a
blank. -/
structure Fields where
  complete : List Field
  begun : Option Field
  spaced : Bool

namespace Fields

/-- No fields. -/
def start : Fields := ⟨[], none, false⟩

/-- Adds characters to the field that has been begun, or begins one. -/
def add (f : Fields) (quoted : Bool) (s : List Char) : Fields :=
  ⟨f.complete, some ((s.map fun c => (c, quoted)).reverse ++ f.begun.getD []), false⟩

/-- Completes the field that has been begun. -/
def close (f : Fields) : Fields :=
  match f.begun with
  | some field => ⟨field :: f.complete, none, f.spaced⟩
  | none => f

/-- Adds a character of a value that is divided at separators. -/
def addDivided (separators : List Char) (f : Fields) (c : Char) : Fields :=
  if !separators.contains c then f.add false [c]
  else if c == ' ' || c == '\t' || c == '\n' then
    if f.begun.isSome then { f.close with spaced := true } else f
  else if f.begun.isSome then { f.close with spaced := false }
  else if f.spaced then { f with spaced := false }
  else { f with complete := [] :: f.complete }

/-- Adds a value, divided at separators if it is to be. -/
def value (f : Fields) (divided quoted : Bool) (separators s : List Char) : Fields :=
  if divided && !quoted then s.foldl (addDivided separators) f
  else if s.isEmpty && !quoted then f
  else f.add quoted s

/-- Adds several values as fields of their own. -/
def several (f : Fields) (one : Fields → List Char → Fields) : List (List Char) → Fields
  | [] => f
  | [s] => one f s
  | s :: rest => several (one f s).close one rest

/-- The fields. -/
def all (f : Fields) : List Field :=
  f.close.complete.reverse.map List.reverse

/-- The fields as one. -/
def joined (f : Fields) : Field :=
  List.intercalate [(' ', true)] f.all

end Fields

namespace Field

/-- The text of a field. -/
def text (f : Field) : List Char :=
  f.map Prod.fst

/-- A field read as a glob. -/
def glob (f : Field) : List Glob :=
  Glob.read (f.flatMap fun (c, quoted) => if quoted then ['\\', c] else [c])

/-- Whether a field holds a sign of a glob. -/
def isSpecial (f : Field) : Bool :=
  f.any fun (c, quoted) => !quoted && ['*', '?', '['].contains c

/-- The names in a directory that a field fits; a name that starts with a dot has to be asked for. -/
def names (disk : Disk) (place : String) (f : Field) : List (List Char) :=
  let shown (n : List Char) : Bool := n.head? != some '.' || (f.head?.map Prod.fst) == some '.'
  ((disk.list place).map String.toList).filter fun n => shown n && Glob.fits f.glob n

/-- The paths that components fit after a front. -/
def paths (disk : Disk) (directory : List Char) : List Field → List Char → List (List Char)
  | [], front => [front]
  | f :: rest, front =>
      let stop : List Char := if rest.isEmpty then [] else ['/']
      if f.isSpecial then
        let place := if front.isEmpty then ['.'] else front
        (names disk (pathFrom directory place) f).flatMap fun n =>
          paths disk directory rest (front ++ n ++ stop)
      else paths disk directory rest (front ++ f.text ++ stop)

/-- The texts that a field stands for: the paths that it fits, or itself when there are none. -/
def texts (disk : Disk) (directory : List Char) (f : Field) : List (List Char) :=
  if !f.isSpecial then [f.text]
  else
    let parts := f.splitOnP fun (c, _) => c == '/'
    let found := (paths disk directory parts []).filter fun p =>
      disk.present (pathFrom directory p)
    if found.isEmpty then [f.text] else found

end Field

namespace Run

/-- Runs the text of a script in a shell of its own.  Returns its output without the newlines at the end,
and the run. -/
def outputOf (outer : Outer) (r : Run) (text : List Char) : List Char × Run :=
  let inner := outer.scripts (Script.ofText text)
    { r with scene := { r.scene with written := [] }, guarded := true }
  let output := textOf (inner.scene.textOn .output)
  let complaints := inner.scene.written.filter fun w => w.1 = .errors
  let r := { r with
    scene := { inner.scene with written := complaints ++ r.scene.written }
    substituted := some inner.ending.status
    ended := (r.leaving inner).ended }
  ((output.reverse.dropWhile (· == '\n')).reverse, r)

/-- The integer that a variable holds. -/
def integer (r : Run) (name : List Char) : Int :=
  (Format.number? ((r.value? name).getD [])).getD 0

/-- Whether a parameter counts as set. -/
def isSet (r : Run) (name : List Char) (emptyCounts : Bool) : Bool :=
  match r.value? name with
  | none => false
  | some v => !(emptyCounts && v.isEmpty)

/-- Adds the value of a parameter to fields. -/
def addParameter (r : Run) (name : List Char) (quoted : Bool) (division : Division) (f : Fields) :
    Run × Fields :=
  let divided := division.isPartial
  let one (quoted : Bool) (f : Fields) (s : List Char) : Fields := f.value divided quoted r.separators s
  if name == ['@'] && divided then (r, f.several (one quoted) r.arguments)
  else if name == ['*'] && divided && !quoted then (r, f.several (one false) r.arguments)
  else
    match r.value? name with
    | some v => (r, one quoted f v)
    | none =>
        if r.bound && name != ['@'] && name != ['*'] then
          (r.abort (String.ofList name ++ ": parameter not set"), f)
        else (r, one quoted f [])

mutual

/-- Adds what a piece of a word stands for to fields. -/
def expandPart (outer : Outer) : Part → Division → Run × Fields → Run × Fields
  | .text s quoted, division, (r, f) =>
      if division = .every && !quoted then (r, f.value true false r.separators s)
      else (r, f.add quoted s)
  | .output text quoted, division, (r, f) =>
      let (s, r) := r.outputOf outer text
      (r, f.value division.isPartial quoted r.separators s)
  | .arithmetic expression quoted, division, (r, f) =>
      let (r, g) := expandParts outer expression .none (r, .start)
      match Arithmetic.evaluate? r.integer g.joined.text with
      | some n => (r, f.value division.isPartial quoted r.separators (toString n).toList)
      | none =>
          let text := String.ofList g.joined.text
          (r.abort ("arithmetic expression: expecting primary: \"" ++ text ++ "\""), f)
  | .parameter name quoted change operand, division, (r, f) =>
      match change with
      | .none => r.addParameter name quoted division f
      | .length =>
          let size := (bytesOf ((r.value? name).getD [])).length
          (r, f.value division.isPartial quoted r.separators (digits size))
      | .orElse emptyCounts =>
          if r.isSet name emptyCounts then r.addParameter name quoted division f
          else expandParts outer operand division.inside (r, if quoted then f.add true [] else f)
      | .ifSet emptyCounts =>
          if r.isSet name emptyCounts then
            expandParts outer operand division.inside (r, if quoted then f.add true [] else f)
          else (r, if quoted then f.add true [] else f)
      | .assign emptyCounts =>
          if r.isSet name emptyCounts then r.addParameter name quoted division f
          else
            let (r, g) := expandParts outer operand .none (r, .start)
            (r.assign name g.joined.text).addParameter name quoted division f
      | .insist emptyCounts =>
          if r.isSet name emptyCounts then r.addParameter name quoted division f
          else
            let (r, g) := expandParts outer operand .none (r, .start)
            let text := if operand.isEmpty then
                "parameter not set" ++ (if emptyCounts then " or null" else "")
              else String.ofList g.joined.text
            (r.abort (String.ofList name ++ ": " ++ text), f)
      | .dropFront longest =>
          let (r, g) := expandParts outer operand .none (r, .start)
          let s := Glob.dropFront longest g.joined.glob ((r.value? name).getD [])
          (r, f.value division.isPartial quoted r.separators s)
      | .dropBack longest =>
          let (r, g) := expandParts outer operand .none (r, .start)
          let s := Glob.dropBack longest g.joined.glob ((r.value? name).getD [])
          (r, f.value division.isPartial quoted r.separators s)

/-- Adds what the pieces of a word stand for to fields. -/
def expandParts (outer : Outer) : List Part → Division → Run × Fields → Run × Fields
  | [], _, state => state
  | p :: rest, division, state =>
      expandParts outer rest division (expandPart outer p division state)

end

/-- A word whose tilde at the start is replaced by the variable that it stands for. -/
def withHome (w : Word) : Word :=
  let home : Part := .parameter "HOME".toList true .none []
  match w with
  | [.text ['~'] false] => [home]
  | .text ['~'] false :: .text ('/' :: s) quoted :: rest => home :: .text ('/' :: s) quoted :: rest
  | w => w

/-- Whether a word is nothing but the quoted list of the arguments. -/
def isArgumentList (w : Word) : Bool :=
  let isEmptyText (p : Part) : Bool :=
    match p with
    | .text [] _ => true
    | _ => false
  match w.filter fun p => !isEmptyText p with
  | [.parameter ['@'] true .none _] => true
  | _ => false

/-- The texts that a word stands for. -/
def expand (outer : Outer) (r : Run) (w : Word) : Run × List (List Char) :=
  if isArgumentList w then (r, r.arguments)
  else
    let (r, f) := expandParts outer (withHome w) .values (r, .start)
    (r, f.all.flatMap (Field.texts r.scene.disk r.directory))

/-- The texts that words stand for. -/
def expandAll (outer : Outer) (r : Run) : List Word → Run × List (List Char)
  | [] => (r, [])
  | w :: rest =>
      let (r, texts) := r.expand outer w
      let (r, others) := r.expandAll outer rest
      (r, texts ++ others)

/-- The field that a word stands for where it is not divided. -/
def expandOne (outer : Outer) (r : Run) (w : Word) : Run × Field :=
  let (r, f) := expandParts outer (withHome w) .none (r, .start)
  (r, f.joined)

/-- The text that a word stands for where it is not divided. -/
def expandText (outer : Outer) (r : Run) (w : Word) : Run × List Char :=
  let (r, f) := r.expandOne outer w
  (r, f.text)

/-- Whether one of several patterns fits a text. -/
def fitsAny (outer : Outer) (r : Run) (s : List Char) : List Word → Run × Bool
  | [] => (r, false)
  | w :: rest =>
      let (r, f) := r.expandOne outer w
      if Glob.fits f.glob s then (r, true) else r.fitsAny outer s rest

end Run
end Host
end Keyring
