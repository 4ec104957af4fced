import Keyring.Host.Process

/-!
# Signals

A signal has a number and a name.  Most signals end a program that does not catch them.
-/

namespace Keyring
namespace Host
namespace Signal

/-- The names of the signals, from number one on. -/
def names : List String :=
  ["HUP", "INT", "QUIT", "ILL", "TRAP", "ABRT", "BUS", "FPE", "KILL", "USR1", "SEGV", "USR2", "PIPE",
    "ALRM", "TERM", "STKFLT", "CHLD", "CONT", "STOP", "TSTP", "TTIN", "TTOU", "URG", "XCPU", "XFSZ",
    "VTALRM", "PROF", "WINCH", "POLL", "PWR", "SYS"]

/-- The number that a text stands for; the end of a script counts as number zero. -/
def number? (s : List Char) : Option Nat :=
  if !s.isEmpty && s.all Char.isDigit then
    let n := Nat.ofDigitChars 10 s 0
    if n ≤ 64 then some n else none
  else
    let name := String.ofList (s.map Char.toUpper)
    if name == "EXIT" then some 0 else (names.findIdx? (· == name)).map (· + 1)

/-- The signal that asks a program to end. -/
def terminate : Nat := 15

/-- The signal that ends a program in any case. -/
def kill : Nat := 9

/-- The signals that a program does not notice: zero, which only asks whether it is there, and those of
its children, of urgent data and of the size of the window, and those that stop it and let it go on. -/
def harmless : List Nat := [0, 17, 18, 19, 20, 21, 22, 23, 28]

/-- What a shell says of a program that a signal has ended. -/
def obituary? (signal : Nat) : Option String :=
  [(1, "Hangup"), (3, "Quit"), (4, "Illegal instruction"), (6, "Aborted"), (8, "Floating point exception"),
    (9, "Killed"), (11, "Segmentation fault"), (14, "Alarm clock"), (15, "Terminated"),
    (10, "User defined signal 1"), (12, "User defined signal 2")].lookup signal

end Signal
end Host
end Keyring
