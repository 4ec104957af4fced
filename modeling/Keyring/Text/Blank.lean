/-!
# Blank characters, trimming and lines

User input is trimmed in many places: key names, base URLs, notes, menu answers and the entry that
a picker hands back.  All of them use the same notion of blank, the Unicode property White_Space.

The functions work on lists of characters; the two `String` versions at the end are the form in
which the rest of the library calls them.  Trimming keeps a text whose ends are not blank and is
idempotent.
-/

namespace Keyring
namespace Text

/-- The characters with the property White_Space, in the order of their code points. -/
def isBlank (c : Char) : Bool :=
  let n := c.toNat
  (0x09 ≤ n && n ≤ 0x0d) || n == 0x20 || n == 0x85 || n == 0xa0 || n == 0x1680 ||
    (0x2000 ≤ n && n ≤ 0x200a) || n == 0x2028 || n == 0x2029 || n == 0x202f || n == 0x205f ||
    n == 0x3000

/-- The text without the blanks it starts with. -/
def trimStart (s : List Char) : List Char :=
  s.dropWhile isBlank

/-- The text without the blanks it ends with. -/
def trimEnd (s : List Char) : List Char :=
  (s.reverse.dropWhile isBlank).reverse

/-- The text without the blanks at either end. -/
def trim (s : List Char) : List Char :=
  trimEnd (trimStart s)

/-- Everything before the first character equal to `stop`. -/
def before (stop : Char) (s : List Char) : List Char :=
  s.takeWhile (· != stop)

/-- The first line: all before the first newline, less one carriage return at its end. -/
def firstLine (s : List Char) : List Char :=
  let line := before '\n' s
  if line.length < s.length && line.getLast? == some '\r' then line.dropLast else line

/-- A string without the blanks at either end. -/
def trimmed (s : String) : String :=
  String.ofList (trim s.toList)

/-- Whether a string holds nothing but blanks. -/
def isBlankText (s : String) : Bool :=
  s.toList.all isBlank

/-- A trimmed text that is absent when nothing is left of it. -/
def normalized? (s : String) : Option String :=
  let kept := trimmed s
  if kept.isEmpty then none else some kept

/-- Dropping what satisfies a test leaves nothing more to drop. -/
theorem dropWhile_dropWhile (p : Char → Bool) (s : List Char) :
    (s.dropWhile p).dropWhile p = s.dropWhile p := by
  induction s with
  | nil => rfl
  | cons c rest ih =>
      by_cases h : p c = true
      · simpa [List.dropWhile_cons, h] using ih
      · simp [h]

/-- A text that starts with a blank character is not the result of dropping blanks. -/
theorem isBlank_of_dropWhile_eq_cons {s rest : List Char} {c : Char}
    (h : s.dropWhile isBlank = c :: rest) : isBlank c = false := by
  induction s with
  | nil => simp at h
  | cons d tail ih =>
      by_cases hd : isBlank d = true
      · exact ih (by simpa [List.dropWhile_cons, hd] using h)
      · have hcons : d :: tail = c :: rest := by simpa [List.dropWhile_cons, hd] using h
        injection hcons with hc _
        simpa [← hc] using hd

/-- Dropping the blanks at the end of a text that starts with another character keeps that
character. -/
theorem trimEnd_cons {c : Char} (h : isBlank c = false) (rest : List Char) :
    trimEnd (c :: rest) = c :: trimEnd rest := by
  simp only [trimEnd, List.reverse_cons]
  rw [List.dropWhile_append]
  split
  · next hnil =>
      have hrest : rest.reverse.dropWhile isBlank = [] := by simpa using hnil
      simp [hrest, h]
  · simp

/-- Dropping the blanks at the end leaves none there. -/
theorem trimEnd_trimEnd (s : List Char) : trimEnd (trimEnd s) = trimEnd s := by
  simp [trimEnd, dropWhile_dropWhile]

/-- Trimming a second time changes nothing. -/
theorem trim_trim (s : List Char) : trim (trim s) = trim s := by
  unfold trim trimStart
  cases h : s.dropWhile isBlank with
  | nil => simp [trimEnd]
  | cons c rest =>
      have hc := isBlank_of_dropWhile_eq_cons h
      rw [trimEnd_cons hc, List.dropWhile_cons, hc]
      simp only [Bool.false_eq_true, if_false]
      rw [trimEnd_cons hc, trimEnd_trimEnd]

/-- Trimming a string a second time changes nothing. -/
theorem trimmed_trimmed (s : String) : trimmed (trimmed s) = trimmed s := by
  simp [trimmed, trim_trim]

end Text
end Keyring
