/-!
# The terminal

Commands show texts on the terminal and ask questions there.  A terminal holds the replies that are
still to come; when there are none left, a question finds the end of the input.  A secret is entered
unseen, which needs a keyboard: there is none where the standard input is a file.
-/

namespace Keyring

/-- Why a question gets no answer. -/
inductive ReplyFault
  | endOfInput
  | interrupted
  | broken (reason : String)
deriving DecidableEq, Repr

/-- A reply to a question: an answer, or why there is none. -/
abbrev Reply := Except ReplyFault String

/-- What is entered unseen: a text, or why there is none. -/
abbrev Entry := Except String String

/-- The replies to come, the entries to come if there is a keyboard, what has been shown, asked and prompted
for, and everything written in order. -/
structure Terminal where
  replies : List Reply
  entries : Option (List Entry)
  shown : List String
  asked : List String
  prompted : List String
  screen : String

namespace Terminal

/-- A terminal with the given replies and without a keyboard, on which nothing has been written. -/
def withReplies (replies : List Reply) : Terminal :=
  ⟨replies, none, [], [], [], ""⟩

/-- Writes a text as it is. -/
def write (t : Terminal) (text : String) : Terminal :=
  { t with screen := t.screen ++ text }

/-- Shows a text on lines of its own. -/
def display (t : Terminal) (text : String) : Terminal :=
  { t.write (text ++ "\n") with shown := t.shown ++ [text] }

/-- Asks a question. -/
def ask (t : Terminal) (question : String) : Reply × Terminal :=
  let t := { t.write question with asked := t.asked ++ [question] }
  match t.replies with
  | [] => (.error .endOfInput, t)
  | r :: rest => (r, { t with replies := rest })

/-- The reason that there is nothing left to enter. -/
def endOfEntries : String := "unexpected end of file"

/-- Asks for a text that is entered unseen, if there is a keyboard. -/
def enter (t : Terminal) (prompt : String) : Option (Entry × Terminal) :=
  t.entries.map fun entries =>
    let t := { t.write prompt with prompted := t.prompted ++ [prompt] }
    match entries with
    | [] => (.error endOfEntries, t)
    | e :: rest => (e, { t with entries := some rest })

end Terminal
end Keyring
