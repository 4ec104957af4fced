import Keyring.Failure

/-!
# Reports and how they are printed

A command that succeeds hands back a report: data for programs and text for people.  Machine-readable
output is one line for every outcome, whatever the other settings; text output drops what the user
has asked not to see.
-/

namespace Keyring

/-- When the text of a report is printed. -/
inductive Emphasis
  | report
  | notice
  | silent
deriving DecidableEq, Repr

/-- What a successful command hands back. -/
structure Report where
  data : Json
  text : String
  emphasis : Emphasis
deriving Repr

namespace Report

/-- A report whose text is the purpose of the command. -/
def shown (data : Json) (text : String) : Report :=
  ⟨data, text, .report⟩

/-- A report whose text only confirms what was done. -/
def notice (data : Json) (text : String) : Report :=
  ⟨data, text, .notice⟩

/-- A report without text. -/
def silent (data : Json) : Report :=
  ⟨data, "", .silent⟩

end Report

/-- How output is presented. -/
structure Presentation where
  json : Bool
  quiet : Bool
  noColor : Bool
  verbose : Bool
deriving DecidableEq, Repr

namespace Presentation

/-- What is printed of a report. -/
def ofReport? (p : Presentation) (r : Report) : Option String :=
  if p.json then some (Json.object [("ok", .bool true), ("data", r.data)]).compact
  else
    match r.emphasis with
    | .silent => none
    | .notice => if p.quiet || r.text.isEmpty then none else some r.text
    | .report => if r.text.isEmpty then none else some r.text

/-- The escape sequence that turns red and bold on. -/
def red : String := "\x1b[1;31m"

/-- The escape sequence that ends colours. -/
def reset : String := "\x1b[0m"

/-- The word before the message of a failure. -/
def label (p : Presentation) (f : Failure) : String :=
  let word := if p.verbose then "error[" ++ f.kind.code ++ "]" else "error"
  if p.noColor then word else red ++ word ++ reset

/-- The line of details below a message. -/
def detailLine (p : Presentation) (f : Failure) : String :=
  match f.details with
  | some d => if p.verbose then "\n  details: " ++ d.compact else ""
  | none => ""

/-- What is printed of a failure. -/
def ofFailure (p : Presentation) (f : Failure) : String :=
  if p.json then f.json.compact
  else p.label f ++ ": " ++ f.message ++ p.detailLine f

end Presentation
end Keyring
