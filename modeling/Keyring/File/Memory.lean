import Keyring.File.Path
import Keyring.File.System

/-!
# Files in memory

A file system that lives in memory.  It remembers how often files were written and their
permissions set, and it can be told to fail certain calls: such a call has no effect and is not
counted.  A call is told from others by what it does, by its path and by the moment at which it is made,
so that every single one of the calls of a command can be made to fail.
-/

namespace Keyring

/-- Files by path: their texts, the permissions that have been set, and what has been done; and the calls
that fail, at each moment. -/
structure Memory where
  text : Path.Key → Option String
  mode : Path.Key → Option Nat
  writes : Nat
  modeChanges : Nat
  moment : Nat
  failing : Nat → FileCall → Path.Key → Bool

namespace Memory

/-- A memory without files that fails no call. -/
def empty : Memory :=
  ⟨fun _ => none, fun _ => none, 0, 0, 0, fun _ _ _ => false⟩

instance : Inhabited Memory := ⟨empty⟩

/-- A function with one value replaced. -/
def replace {α : Type} (f : Path.Key → α) (path : Path.Key) (value : α) : Path.Key → α :=
  fun p => if p = path then value else f p

/-- The memory with a file put or deleted behind the back of its users; permissions are lost. -/
def place (m : Memory) (path : String) (text : Option String) : Memory :=
  { m with text := replace m.text path text, mode := replace m.mode path none }

/-- The memory with other failing calls. -/
def withFailing (m : Memory) (failing : Nat → FileCall → Path.Key → Bool) : Memory :=
  { m with failing := failing }

/-- Whether a call fails now. -/
def fails (m : Memory) (call : FileCall) (path : String) : Bool :=
  m.failing m.moment call path

/-- Reads a file. -/
def read (path : String) (m : Memory) : Except FileFault String :=
  if m.fails .read path then .error (.scripted .read)
  else
    match m.text path with
    | some text => .ok text
    | none => .error (.missing path)

/-- Replaces a file. -/
def write (path text : String) (m : Memory) : Except FileFault Unit × Memory :=
  if m.fails .write path then (.error (.scripted .write), m)
  else (.ok (), { m with text := replace m.text path (some text), writes := m.writes + 1 })

/-- Deletes a file. -/
def remove (path : String) (m : Memory) : Except FileFault Unit × Memory :=
  if m.fails .remove path then (.error (.scripted .remove), m) else (.ok (), m.place path none)

/-- Sets permissions. -/
def setMode (path : String) (mode : Nat) (m : Memory) : Except FileFault Unit × Memory :=
  if m.fails .setMode path then (.error (.scripted .setMode), m)
  else if (m.text path).isNone then (.error (.missing path), m)
  else
    (.ok (), { m with mode := replace m.mode path (some mode), modeChanges := m.modeChanges + 1 })

/-- The memory at the next moment. -/
def elapse (m : Memory) : Memory :=
  { m with moment := m.moment + 1 }

instance : FileSystem Memory where
  present path m := (m.text path).isSome
  read := read
  write := write
  remove := remove
  setMode := setMode
  elapse := elapse

end Memory
end Keyring
