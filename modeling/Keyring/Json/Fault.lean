import Keyring.Json.Printer
import Keyring.Text.Quoted

/-!
# What can be wrong with a document

A fault in a document is either a breach of the grammar or a value that does not have the shape its
reader asks for.  It carries the text that was still unread when it was noticed, from which its line
and column are computed at the end; columns count bytes.
-/

namespace Keyring
namespace Json

/-- A breach of the grammar. -/
inductive Malformed
  | endInList
  | endInObject
  | endInString
  | endInValue
  | colonExpected
  | listEndExpected
  | objectEndExpected
  | wordExpected
  | valueExpected
  | badEscape
  | badNumber
  | numberOutOfRange
  | controlCharacter
  | keyNotString
  | loneSurrogate
  | trailingComma
  | trailingCharacters
  | escapeCutShort
  | tooDeep
deriving DecidableEq, Repr

/-- The wording of a breach. -/
def Malformed.message : Malformed → String
  | .endInList => "EOF while parsing a list"
  | .endInObject => "EOF while parsing an object"
  | .endInString => "EOF while parsing a string"
  | .endInValue => "EOF while parsing a value"
  | .colonExpected => "expected `:`"
  | .listEndExpected => "expected `,` or `]`"
  | .objectEndExpected => "expected `,` or `\x7d`"
  | .wordExpected => "expected ident"
  | .valueExpected => "expected value"
  | .badEscape => "invalid escape"
  | .badNumber => "invalid number"
  | .numberOutOfRange => "number out of range"
  | .controlCharacter => "control character (\\u0000-\\u001F) found while parsing a string"
  | .keyNotString => "key must be a string"
  | .loneSurrogate => "lone leading surrogate in hex escape"
  | .trailingComma => "trailing comma"
  | .trailingCharacters => "trailing characters"
  | .escapeCutShort => "unexpected end of hex escape"
  | .tooDeep => "recursion limit exceeded"

/-- The kind of a value, as a message about its shape names it. -/
inductive Found
  | null
  | bool (value : Bool)
  | number (value : Number)
  | text (value : String)
  | list
  | map
deriving DecidableEq, Repr

/-- The wording of a kind. -/
def Found.message : Found → String
  | .null => "null"
  | .bool b => "boolean `" ++ String.ofList (boolText b) ++ "`"
  | .number (.int n) => "integer `" ++ String.ofList (intText n) ++ "`"
  | .number n => "floating point `" ++ String.ofList (numberText n) ++ "`"
  | .text s => "string " ++ Text.quoted s
  | .list => "sequence"
  | .map => "map"

/-- The kind of a value. -/
def found : Json → Found
  | .null => .null
  | .bool b => .bool b
  | .number n => .number n
  | .string s => .text s
  | .array _ => .list
  | .object _ => .map

/-- A value that does not have the shape that is asked for. -/
inductive Mismatch
  | wrongType (found : Found) (expected : String)
  | wrongValue (found : Found) (expected : String)
  | missingField (name : String)
  | repeatedField (name : String)
  | unknownField (name : String) (known : List String)
  | unknownVariant (name : String) (known : List String)
  | wrongLength (length : Nat) (expected : String)
  | notSingleMember
deriving DecidableEq, Repr

/-- A choice among names in backquotes. -/
def oneOf : List String → String
  | [] => ""
  | [a] => "`" ++ a ++ "`"
  | [a, b] => "`" ++ a ++ "` or `" ++ b ++ "`"
  | names => "one of " ++ String.intercalate ", " (names.map fun n => "`" ++ n ++ "`")

/-- The wording of a mismatch. -/
def Mismatch.message : Mismatch → String
  | .wrongType found expected => "invalid type: " ++ found.message ++ ", expected " ++ expected
  | .wrongValue found expected => "invalid value: " ++ found.message ++ ", expected " ++ expected
  | .missingField name => "missing field `" ++ name ++ "`"
  | .repeatedField name => "duplicate field `" ++ name ++ "`"
  | .unknownField name known => "unknown field `" ++ name ++ "`, expected " ++ oneOf known
  | .unknownVariant name known => "unknown variant `" ++ name ++ "`, expected " ++ oneOf known
  | .wrongLength length expected =>
      "invalid length " ++ toString length ++ ", expected " ++ expected
  | .notSingleMember => "invalid value: map, expected map with a single key"

/-- Why a document is refused. -/
inductive Reason
  | malformed (breach : Malformed)
  | mismatch (shape : Mismatch)
deriving DecidableEq, Repr

/-- The wording of a reason. -/
def Reason.message : Reason → String
  | .malformed m => m.message
  | .mismatch m => m.message

/-- A reason together with the place where it was noticed: the unread text, and how many bytes into
that text the place lies. -/
structure Fault where
  reason : Reason
  rest : List Char
  ahead : Nat
deriving DecidableEq, Repr

/-- A place in a document: its line and the number of bytes before it on that line. -/
structure Position where
  line : Nat
  column : Nat
deriving DecidableEq, Repr

/-- The place that lies after the given bytes. -/
def Position.after (bytes : List UInt8) : Position :=
  bytes.foldl (fun p b => if b = 10 then ⟨p.line + 1, 0⟩ else ⟨p.line, p.column + 1⟩) ⟨1, 0⟩

/-- The number of bytes of a text. -/
def byteLength (s : List Char) : Nat :=
  s.foldl (fun n c => n + c.utf8Size) 0

namespace Fault

/-- A breach noticed at the unread text. -/
def here (m : Malformed) (rest : List Char) : Fault :=
  ⟨.malformed m, rest, 0⟩

/-- A breach by the next byte of the unread text, if there is one. -/
def next (m : Malformed) (rest : List Char) : Fault :=
  ⟨.malformed m, rest, if rest.isEmpty then 0 else 1⟩

/-- A mismatch noticed at the unread text. -/
def shape (m : Mismatch) (rest : List Char) : Fault :=
  ⟨.mismatch m, rest, 0⟩

/-- The place of a fault in its document. -/
def position (f : Fault) (document : String) : Position :=
  let bytes := document.toUTF8.toList
  Position.after (bytes.take (bytes.length - byteLength f.rest + f.ahead))

/-- The wording of a fault in its document. -/
def message (f : Fault) (document : String) : String :=
  let p := f.position document
  f.reason.message ++ " at line " ++ toString p.line ++ " column " ++ toString p.column

end Fault
end Json
end Keyring
