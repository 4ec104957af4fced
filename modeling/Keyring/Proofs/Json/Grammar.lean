import Mathlib.Data.List.Forall2
import Mathlib.Data.List.TakeWhile
import Keyring.Json.Codec
import Keyring.Proofs.Json.Layout

/-!
# The grammar of documents

What a JSON document is, without any reader.  A tree keeps numbers and the insides of strings as they are
written; `Value s v rest` says that the text `s` starts with the value `v`, behind blanks, and goes on with
`rest`, and `Document s v` that nothing but blanks goes on behind it.

`Unescapes` says which characters the inside of a string stands for.  It is narrower than `Inside`: a string
that holds half of a surrogate pair is well formed and stands for no text.
-/

namespace Keyring
namespace Json

/-- The structure of a document, with numbers and the insides of strings as they are written. -/
inductive Tree
  | null
  | bool (value : Bool)
  | number (text : List Char)
  | string (text : List Char)
  | array (items : List Tree)
  | object (members : List (List Char × Tree))

/-- Whether a text holds nothing but the blanks that may stand between tokens. -/
def Blank (s : List Char) : Prop :=
  ∀ c ∈ s, isSpace c = true

/-- Whether a text holds nothing but digits. -/
def AllDigits (s : List Char) : Prop :=
  ∀ c ∈ s, c.isDigit = true

/-- The whole part of a number: it only starts with a zero if it is zero. -/
inductive Whole : List Char → Prop
  | zero :
      Whole ['0']
  | positive
      {c : Char}
      {ds : List Char}
      (hc : c.isDigit = true)
      (hzero : c ≠ '0')
      (hds : AllDigits ds) :
      Whole (c :: ds)

/-- The fraction of a number, if it has one. -/
inductive Fraction : List Char → Prop
  | none :
      Fraction []
  | digits
      {ds : List Char}
      (hne : ds ≠ [])
      (hds : AllDigits ds) :
      Fraction ('.' :: ds)

/-- The digits of an exponent, with a sign or without. -/
inductive Scale : List Char → Prop
  | mk
      {sign ds : List Char}
      (hsign : sign = [] ∨ sign = ['+'] ∨ sign = ['-'])
      (hne : ds ≠ [])
      (hds : AllDigits ds) :
      Scale (sign ++ ds)

/-- The exponent of a number, if it has one. -/
inductive Exponent : List Char → Prop
  | none :
      Exponent []
  | scale
      {letter : Char}
      {s : List Char}
      (hletter : letter = 'e' ∨ letter = 'E')
      (hs : Scale s) :
      Exponent (letter :: s)

/-- A number behind its sign. -/
inductive Unsigned : List Char → Prop
  | mk
      {whole fraction exponent : List Char}
      (hwhole : Whole whole)
      (hfraction : Fraction fraction)
      (hexponent : Exponent exponent) :
      Unsigned (whole ++ (fraction ++ exponent))

/-- A number. -/
inductive Numeral : List Char → Prop
  | unsigned
      {s : List Char}
      (h : Unsigned s) :
      Numeral s
  | negative
      {s : List Char}
      (h : Unsigned s) :
      Numeral ('-' :: s)

/-- Four hexadecimal digits and the number that they denote. -/
inductive Quad : List Char → Nat → Prop
  | mk
      {a b c d : Char}
      {va vb vc vd : Nat}
      (ha : Text.hexValue? a = some va)
      (hb : Text.hexValue? b = some vb)
      (hc : Text.hexValue? c = some vc)
      (hd : Text.hexValue? d = some vd) :
      Quad [a, b, c, d] (((va * 16 + vb) * 16 + vc) * 16 + vd)

/-- The characters that have an escape of their own, behind the character that stands for them there. -/
def shortEscapes : List (Char × Char) :=
  [('"', '"'), ('\\', '\\'), ('/', '/'), ('b', '\x08'), ('f', '\x0c'), ('n', '\n'), ('r', '\r'),
    ('t', '\t')]

/-- Whether a character may stand for itself in a string. -/
structure Plain (c : Char) : Prop where
  quote : c ≠ '"'
  backslash : c ≠ '\\'
  control : ¬ c.toNat < 0x20

/-- What may stand between the quotes of a string. -/
inductive Inside : List Char → Prop
  | nil :
      Inside []
  | plain
      {c : Char}
      {s : List Char}
      (hc : Plain c)
      (hs : Inside s) :
      Inside (c :: s)
  | short
      {e c : Char}
      {s : List Char}
      (he : (e, c) ∈ shortEscapes)
      (hs : Inside s) :
      Inside ('\\' :: e :: s)
  | point
      {quad s : List Char}
      {n : Nat}
      (hquad : Quad quad n)
      (hs : Inside s) :
      Inside ('\\' :: 'u' :: (quad ++ s))

/-- A character as it is written in a string.  An escape of one surrogate alone stands for none. -/
inductive Glyph : List Char → Char → Prop
  | plain
      {c : Char}
      (hc : Plain c) :
      Glyph [c] c
  | short
      {e c : Char}
      (he : (e, c) ∈ shortEscapes) :
      Glyph ['\\', e] c
  | point
      {quad : List Char}
      {n : Nat}
      (hquad : Quad quad n)
      (hhigh : isHighSurrogate n = false)
      (hlow : isLowSurrogate n = false) :
      Glyph ('\\' :: 'u' :: quad) (Char.ofNat n)
  | pair
      {first second : List Char}
      {high low : Nat}
      (hfirst : Quad first high)
      (hhigh : isHighSurrogate high = true)
      (hsecond : Quad second low)
      (hlow : isLowSurrogate low = true) :
      Glyph ('\\' :: 'u' :: (first ++ '\\' :: 'u' :: second))
        (Char.ofNat (0x10000 + (high - 0xd800) * 0x400 + (low - 0xdc00)))

/-- What the inside of a string stands for. -/
inductive Unescapes : List Char → List Char → Prop
  | nil :
      Unescapes [] []
  | cons
      {text s cs : List Char}
      {c : Char}
      (hc : Glyph text c)
      (hs : Unescapes s cs) :
      Unescapes (text ++ s) (c :: cs)

mutual

/-- Whether a text starts with a value, behind blanks, and what it goes on with. -/
inductive Value : List Char → Tree → List Char → Prop
  | null
      {gap rest : List Char}
      (hgap : Blank gap) :
      Value (gap ++ 'n' :: 'u' :: 'l' :: 'l' :: rest) .null rest
  | true
      {gap rest : List Char}
      (hgap : Blank gap) :
      Value (gap ++ 't' :: 'r' :: 'u' :: 'e' :: rest) (.bool Bool.true) rest
  | false
      {gap rest : List Char}
      (hgap : Blank gap) :
      Value (gap ++ 'f' :: 'a' :: 'l' :: 's' :: 'e' :: rest) (.bool Bool.false) rest
  | number
      {gap text rest : List Char}
      (hgap : Blank gap)
      (htext : Numeral text) :
      Value (gap ++ (text ++ rest)) (.number text) rest
  | string
      {gap text rest : List Char}
      (hgap : Blank gap)
      (htext : Inside text) :
      Value (gap ++ '"' :: (text ++ '"' :: rest)) (.string text) rest
  | array
      {gap s rest : List Char}
      {items : List Tree}
      (hgap : Blank gap)
      (hitems : Items Bool.true s items rest) :
      Value (gap ++ '[' :: s) (.array items) rest
  | object
      {gap s rest : List Char}
      {members : List (List Char × Tree)}
      (hgap : Blank gap)
      (hmembers : Members Bool.true s members rest) :
      Value (gap ++ '\x7b' :: s) (.object members) rest

/-- Whether a text goes on with items of a list up to its bracket.  Only the first item of a list has no
comma before it. -/
inductive Items : Bool → List Char → List Tree → List Char → Prop
  | close
      {first : Bool}
      {gap rest : List Char}
      (hgap : Blank gap) :
      Items first (gap ++ ']' :: rest) [] rest
  | item
      {first : Bool}
      {gap s s' rest : List Char}
      {v : Tree}
      {items : List Tree}
      (hgap : Blank gap)
      (hitem : Value s v s')
      (hrest : Items Bool.false s' items rest) :
      Items first (gap ++ (comma first ++ s)) (v :: items) rest

/-- Whether a text goes on with members of an object up to its brace. -/
inductive Members : Bool → List Char → List (List Char × Tree) → List Char → Prop
  | close
      {first : Bool}
      {gap rest : List Char}
      (hgap : Blank gap) :
      Members first (gap ++ '\x7d' :: rest) [] rest
  | member
      {first : Bool}
      {gap gap' gap'' name s s' rest : List Char}
      {v : Tree}
      {members : List (List Char × Tree)}
      (hgap : Blank gap)
      (hgap' : Blank gap')
      (hname : Inside name)
      (hgap'' : Blank gap'')
      (hvalue : Value s v s')
      (hrest : Members Bool.false s' members rest) :
      Members first (gap ++ (comma first ++ (gap' ++ '"' :: (name ++ '"' :: (gap'' ++ ':' :: s)))))
        ((name, v) :: members) rest

end

/-- Whether a text is a document that holds the given value. -/
def Document (s : List Char) (v : Tree) : Prop :=
  ∃ rest, Value s v rest ∧ Blank rest

namespace Tree

/-- Whether a value is a string that stands for the given text. -/
def Says (v : Tree) (s : String) : Prop :=
  ∃ text, v = .string text ∧ Unescapes text s.toList

/-- Whether a value is an integer without sign, and which one. -/
def Counts (v : Tree) (n : Nat) : Prop :=
  ∃ ds, v = .number ds ∧ Whole ds ∧ Nat.ofDigitChars 10 ds 0 = n

/-- Whether a value is an object with the given members, whose names are texts. -/
def HasMembers (v : Tree) (members : List (String × Tree)) : Prop :=
  ∃ written, v = .object written ∧
    List.Forall₂ (fun w m => Unescapes w.1 m.1.toList ∧ w.2 = m.2) written members

end Tree

section Blanks

variable {s : List Char}

theorem blank_nil :
    Blank [] :=
  fun _ h => absurd h List.not_mem_nil

theorem Blank.append
    {t : List Char}
    (hs : Blank s)
    (ht : Blank t) :
    Blank (s ++ t) := by
  intro c hc
  rcases List.mem_append.1 hc with h | h
  · exact hs c h
  · exact ht c h

theorem exists_blank_append_skipSpace (s : List Char) :
    ∃ gap, Blank gap ∧ s = gap ++ skipSpace s :=
  ⟨s.takeWhile isSpace, fun _ hc => List.mem_takeWhile_imp hc, (List.takeWhile_append_dropWhile).symm⟩

theorem blank_of_skipSpace_eq_nil
    (h : skipSpace s = []) :
    Blank s :=
  List.dropWhile_eq_nil_iff.1 h

/-- Further blanks may stand before a value. -/
theorem Value.behind
    {gap rest : List Char}
    {v : Tree}
    (h : Value s v rest)
    (hgap : Blank gap) :
    Value (gap ++ s) v rest := by
  cases h with
  | null hgap' =>
      rw [← List.append_assoc]
      exact .null (hgap.append hgap')
  | true hgap' =>
      rw [← List.append_assoc]
      exact .true (hgap.append hgap')
  | false hgap' =>
      rw [← List.append_assoc]
      exact .false (hgap.append hgap')
  | number hgap' htext =>
      rw [← List.append_assoc]
      exact .number (hgap.append hgap') htext
  | string hgap' htext =>
      rw [← List.append_assoc]
      exact .string (hgap.append hgap') htext
  | array hgap' hitems =>
      rw [← List.append_assoc]
      exact .array (hgap.append hgap') hitems
  | object hgap' hmembers =>
      rw [← List.append_assoc]
      exact .object (hgap.append hgap') hmembers

end Blanks

theorem Glyph.inside
    {text s : List Char}
    {c : Char}
    (h : Glyph text c)
    (hs : Inside s) :
    Inside (text ++ s) := by
  cases h with
  | plain hc => exact .plain hc hs
  | short he => exact .short he hs
  | point hquad _ _ => exact .point hquad hs
  | pair hfirst _ hsecond _ =>
      rw [List.cons_append, List.cons_append, List.append_assoc]
      exact .point hfirst (.point hsecond hs)

/-- A string that stands for a text is well formed. -/
theorem Unescapes.inside
    {s cs : List Char}
    (h : Unescapes s cs) :
    Inside s := by
  induction h with
  | nil => exact .nil
  | cons hc _ ih => exact hc.inside ih

end Json
end Keyring
