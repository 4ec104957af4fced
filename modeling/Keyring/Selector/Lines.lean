import Keyring.Collection

/-!
# The lines of a picker

An external picker shows one line for every key and hands back the line that was chosen.  A line is
a marker, the name, and after tabs the mask of the secret and the note, which only serve to tell keys
apart.  From the text that comes back, the first field of the first line is the name.
-/

namespace Keyring
namespace Selector

/-- The marker of the entry that is hinted at. -/
def hintMarker : String := "* "

/-- The marker of the other entries. -/
def plainMarker : String := "  "

/-- The entry of a key. -/
def entry (hint : Option KeyName) (key : Profile) : String :=
  (if some key.name = hint then hintMarker else plainMarker) ++ key.name.value ++ "\t" ++
    key.masked ++ "\t" ++ key.note.getD ""

/-- The entries of a collection in order. -/
def entries (keys : Collection) (hint : Option KeyName) : List String :=
  keys.keys.map (entry hint)

/-- The text that a picker is given. -/
def pickerText (keys : Collection) (hint : Option KeyName) : String :=
  String.intercalate "\n" (entries keys hint)

/-- Why the text that a picker hands back names no key. -/
inductive ChoiceFault
  | nothing
  | notName (fault : NameFault)
deriving DecidableEq, Repr

/-- The failure of a command. -/
def ChoiceFault.failure : ChoiceFault → Failure
  | .nothing => .invalidSelection "selector returned no key"
  | .notName fault => .invalidSelection ("selector returned an invalid key: " ++ fault.message)

/-- A field without the marker of the entry that is hinted at. -/
def withoutMarker : List Char → List Char
  | '*' :: rest => Text.trimStart rest
  | field => field

/-- The text of the name in the first line of a text. -/
def nameField (output : List Char) : List Char :=
  withoutMarker (Text.trim (Text.before '\t' (Text.firstLine (Text.trim output))))

/-- Reads the name from the text that a picker hands back. -/
def readChoice (output : String) : Except ChoiceFault KeyName :=
  let name := nameField output.toList
  if name.isEmpty then .error .nothing
  else (KeyName.ofText (String.ofList name)).mapError .notName

end Selector
end Keyring
