import Keyring.Host.Utility.Options

/-!
# What utilities read

A utility reads the files that it is given, or its input when it is given none or a single dash.  A file
that cannot be read is complained about and passed over.
-/

namespace Keyring
namespace Host

/-- One of the things that a utility reads: its name, and its bytes or the reason why they cannot be
read. -/
structure Source where
  name : List Char
  content : Except OsError (List UInt8)

/-- The bytes of a source, if it can be read. -/
def Source.bytes (s : Source) : List UInt8 :=
  s.content.toOption.getD []

/-- Whether a name stands for the input. -/
def isInputName (name : List Char) : Bool :=
  name == ['-']

/-- Reads the sources that a utility is given. -/
def sources (c : Call) (s : Scene) (names : List (List Char)) : List Source × Scene :=
  let names := if names.isEmpty then [['-']] else names
  let read (name : List Char) : Source :=
    if isInputName name then ⟨name, .ok s.input⟩
    else ⟨name, (s.disk.readBytes (c.path name)).map ByteArray.toList⟩
  (names.map read, if names.any isInputName then { s with input := [] } else s)

/-- The scene after complaints about the sources that cannot be read, and whether there were none. -/
def reportSources (wording : String → OsError → String) (c : Call) (l : List Source) (s : Scene) :
    Bool × Scene :=
  l.foldl
    (fun (fine, s) source =>
      match source.content with
      | .ok _ => (fine, s)
      | .error e => (false, s.fault c (wording (String.ofList source.name) e)))
    (true, s)

/-- The usual complaint about a file. -/
def plainWording (name : String) (e : OsError) : String :=
  name ++ ": " ++ e.reason

/-- The complaint of utilities that say what they were about to do. -/
def openWording (name : String) (e : OsError) : String :=
  "cannot open '" ++ name ++ "' for reading: " ++ e.reason

/-- All the bytes that a utility reads. -/
def readSources (wording : String → OsError → String) (c : Call) (s : Scene)
    (names : List (List Char)) : List UInt8 × Bool × Scene :=
  let (l, s) := sources c s names
  let (fine, s) := reportSources wording c l s
  (l.flatMap Source.bytes, fine, s)

/-- The lines of a text with their ends; the last one may have none. -/
def linesOf : List UInt8 → List (List UInt8)
  | [] => []
  | b :: rest =>
      if b == 10 then [b] :: linesOf rest
      else
        match linesOf rest with
        | [] => [[b]]
        | line :: others => (b :: line) :: others

/-- A line without its end. -/
def bodyOf (line : List UInt8) : List UInt8 :=
  line.filter (· != 10)

/-- A line with its end. -/
def ended (line : List UInt8) : List UInt8 :=
  line ++ [10]

/-- The number that the digits of a text stand for. -/
def count (s : List Char) : Nat :=
  Nat.ofDigitChars 10 (s.filter Char.isDigit) 0

/-- The digits of a number. -/
def digits (n : Nat) : List Char :=
  Nat.toDigits 10 n

/-- The status of a utility that was fine, or not. -/
def statusOf (fine : Bool) (failure : Nat) : Ending :=
  .exited (if fine then 0 else failure)

end Host
end Keyring
