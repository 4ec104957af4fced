/-!
# Reading bytes as text

Files and the output of programs are bytes.  The strict reading accepts a byte sequence only when it
is UTF-8; it undoes the encoding of every string.  The lossy reading never fails: it puts U+FFFD in
the place of each longest start of a character that the next byte breaks off.
-/

namespace Keyring
namespace Text

/-- The replacement character, written where bytes are not a character. -/
def replacement : Char := '\uFFFD'

/-- How a byte that opens a character continues: the number of bytes that follow it and the range
of the first of them. -/
structure Lead where
  follow : Nat
  low : Nat
  high : Nat

/-- The continuation that an opening byte asks for, if it can open a character. -/
def lead? (b : Nat) : Option Lead :=
  if b < 0x80 then some ⟨0, 0x80, 0xbf⟩
  else if b < 0xc2 then none
  else if b < 0xe0 then some ⟨1, 0x80, 0xbf⟩
  else if b = 0xe0 then some ⟨2, 0xa0, 0xbf⟩
  else if b = 0xed then some ⟨2, 0x80, 0x9f⟩
  else if b < 0xf0 then some ⟨2, 0x80, 0xbf⟩
  else if b = 0xf0 then some ⟨3, 0x90, 0xbf⟩
  else if b < 0xf4 then some ⟨3, 0x80, 0xbf⟩
  else if b = 0xf4 then some ⟨3, 0x80, 0x8f⟩
  else none

/-- A character that has been opened: its code point so far and what may come next. -/
structure Pending where
  point : Nat
  follow : Nat
  low : Nat
  high : Nat

/-- Opens a character with a byte: a finished character, a pending one, or a replacement. -/
def opening (b : Nat) : Char ⊕ Pending :=
  match lead? b with
  | none => .inl replacement
  | some ⟨0, _, _⟩ => .inl (Char.ofNat b)
  | some ⟨1, low, high⟩ => .inr ⟨b - 0xc0, 1, low, high⟩
  | some ⟨2, low, high⟩ => .inr ⟨b - 0xe0, 2, low, high⟩
  | some ⟨n, low, high⟩ => .inr ⟨b - 0xf0, n, low, high⟩

/-- Reads bytes with a replacement character for each broken one; `pending` is the character that
the bytes before have opened. -/
def decodeLossyFrom : Option Pending → List UInt8 → List Char
  | none, [] => []
  | some _, [] => [replacement]
  | none, b :: rest =>
      match opening b.toNat with
      | .inl c => c :: decodeLossyFrom none rest
      | .inr p => decodeLossyFrom (some p) rest
  | some p, b :: rest =>
      let n := b.toNat
      if p.low ≤ n && n ≤ p.high then
        let point := p.point * 64 + (n - 0x80)
        if p.follow ≤ 1 then Char.ofNat point :: decodeLossyFrom none rest
        else decodeLossyFrom (some ⟨point, p.follow - 1, 0x80, 0xbf⟩) rest
      else
        replacement ::
          match opening n with
          | .inl c => c :: decodeLossyFrom none rest
          | .inr q => decodeLossyFrom (some q) rest

/-- Reads bytes as text, whatever they are. -/
def decodeLossy (bytes : ByteArray) : String :=
  String.ofList (decodeLossyFrom none bytes.toList)

/-- Reads bytes as text when they are UTF-8. -/
def decode? (bytes : ByteArray) : Option String :=
  String.fromUTF8? bytes

/-- Strict reading undoes encoding. -/
@[simp] theorem decode?_toUTF8 (s : String) : decode? s.toUTF8 = some s := by
  simp only [decode?, String.fromUTF8?, String.toUTF8_eq_toByteArray, dif_pos s.isValidUTF8]
  rfl

end Text
end Keyring
