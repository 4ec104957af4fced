import Keyring.Json.Codec
import Keyring.Proofs.Json.Quoted

/-!
# Indented documents read back

The readers of a fixed shape undo the indented layout.  What is shown of a reader is that it takes
the text of a value for some result, whatever level the value stands at, whatever blanks come before
it and whatever comes after it; in this form the fact passes from the values inside a container to
the container.
-/

namespace Keyring
namespace Json

/-- What may follow a value in the indented layout: nothing, a comma or a line break. -/
def EndsValue (s : List Char) : Prop :=
  ∀ c ∈ s.head?, c = ',' ∨ c = '\n'

/-- A reader takes the indented text of a value for `x`. -/
def Takes {α : Type} (read : Reader α) (v : Json) (x : α) : Prop :=
  ∀ level gap rest, (∀ c ∈ gap, isSpace c = true) → EndsValue rest →
    read (gap ++ (indentedText level v ++ rest)) = .ok (x, rest)

/-- Blanks before a token are passed over. -/
theorem skipSpace_append
    {gap : List Char}
    (hgap : ∀ c ∈ gap, isSpace c = true)
    (s : List Char) :
    skipSpace (gap ++ s) = skipSpace s :=
  List.dropWhile_append_of_pos hgap

/-- The front of a value is found behind blanks. -/
theorem readFound_append
    {gap : List Char}
    (hgap : ∀ c ∈ gap, isSpace c = true)
    (s : List Char) :
    readFound (gap ++ s) = readFound s := by
  rw [readFound, skipSpace_append hgap, readFound]

/-- A line break and its indentation are blank. -/
theorem isSpace_of_mem_newline
    {level : Nat}
    {c : Char}
    (h : c ∈ newline level) :
    isSpace c = true := by
  rw [newline, List.mem_cons, List.mem_replicate] at h
  rcases h with rfl | ⟨_, rfl⟩
  · rfl
  · rfl

/-- A token is found behind blanks. -/
theorem skipSpace_gap
    {gap : List Char}
    {c : Char}
    (rest : List Char)
    (hgap : ∀ c ∈ gap, isSpace c = true)
    (hc : isSpace c = false) :
    skipSpace (gap ++ c :: rest) = c :: rest := by
  rw [skipSpace_append hgap, skipSpace, List.dropWhile_cons, hc]
  rfl

/-- The comma before an entry; the first entry of a container has none. -/
def comma (first : Bool) : List Char :=
  if first then [] else [',']

/-- The closing brace is found on its own line. -/
theorem nextKey_close
    (first : Bool)
    (level : Nat)
    (rest : List Char) :
    nextKey first (newline level ++ '\x7d' :: rest) = .ok (.close rest) := by
  rw [nextKey, skipSpace_gap rest (fun _ => isSpace_of_mem_newline) rfl]
  rfl

/-- The next member is found behind the comma and blanks. -/
theorem nextKey_entry
    (first : Bool)
    (gap rest : List Char)
    (hgap : ∀ c ∈ gap, isSpace c = true) :
    nextKey first (comma first ++ (gap ++ '"' :: rest)) = .ok (.entry rest) := by
  have hquote := skipSpace_gap rest hgap (show isSpace '"' = false from rfl)
  cases first with
  | true =>
      rw [comma, if_pos rfl, List.nil_append, nextKey, hquote]
      rfl
  | false =>
      have hcomma : skipSpace (',' :: (gap ++ '"' :: rest)) = ',' :: (gap ++ '"' :: rest) := rfl
      rw [comma, if_neg Bool.false_ne_true, List.cons_append, List.nil_append, nextKey, hcomma]
      simp [hquote]

/-- The closing bracket is found on its own line. -/
theorem nextItem_close
    (first : Bool)
    (level : Nat)
    (rest : List Char) :
    nextItem first (newline level ++ ']' :: rest) = .ok (.close rest) := by
  rw [nextItem, skipSpace_gap rest (fun _ => isSpace_of_mem_newline) rfl]
  rfl

/-- The next item of a list is found behind the comma and blanks. -/
theorem nextItem_entry
    (first : Bool)
    {c : Char}
    (gap rest : List Char)
    (hgap : ∀ c ∈ gap, isSpace c = true)
    (hc : isSpace c = false)
    (hopen : c ≠ ']') :
    nextItem first (comma first ++ (gap ++ c :: rest)) = .ok (.entry (c :: rest)) := by
  have htoken := skipSpace_gap rest hgap hc
  cases first with
  | true =>
      rw [comma, if_pos rfl, List.nil_append, nextItem, htoken]
      simp [hopen]
  | false =>
      have hcomma : skipSpace (',' :: (gap ++ c :: rest)) = ',' :: (gap ++ c :: rest) := rfl
      rw [comma, if_neg Bool.false_ne_true, List.cons_append, List.nil_append, nextItem, hcomma]
      simp [htoken, hopen]

/-- What comes after a member ends its value. -/
theorem endsValue_indentedMembers
    (level : Nat)
    (members : List (String × Json))
    (rest : List Char) :
    EndsValue (indentedMembers level members ++ rest) := by
  cases members with
  | nil => simp [EndsValue, indentedMembers, newline]
  | cons m members => simp [EndsValue, indentedMembers]

/-- What comes after an item ends its value. -/
theorem endsValue_indentedItems
    (level : Nat)
    (items : List Json)
    (rest : List Char) :
    EndsValue (indentedItems level items ++ rest) := by
  cases items with
  | nil => simp [EndsValue, indentedItems, newline]
  | cons v items => simp [EndsValue, indentedItems]

/-- Every member takes up text. -/
theorem length_le_length_indentedMembers
    (level : Nat)
    (members : List (String × Json)) :
    members.length ≤ (indentedMembers level members).length := by
  induction members with
  | nil => simp
  | cons m members ih =>
      simp only [indentedMembers, List.length_append, List.length_cons]
      omega

/-- Every item takes up text. -/
theorem length_le_length_indentedItems
    (level : Nat)
    (items : List Json) :
    items.length ≤ (indentedItems level items).length := by
  induction items with
  | nil => simp
  | cons v items ih =>
      simp only [indentedItems, List.length_append, List.length_cons]
      omega

namespace Codec

/-- A text is taken for itself. -/
theorem takes_text (expected s : String) :
    Takes (text expected).read (.string s) s := by
  intro level gap rest hgap _
  have hread : readFound (gap ++ (indentedText level (.string s) ++ rest)) = .ok (.text s, rest) := by
    rw [readFound_append hgap, indentedText, readFound_quoted]
  simp [text, scalar, readScalar, hread]

/-- A truth value is taken for itself. -/
theorem takes_bool (b : Bool) :
    Takes bool.read (.bool b) b := by
  intro level gap rest hgap _
  have hread : readFound (gap ++ (indentedText level (.bool b) ++ rest)) = .ok (.bool b, rest) := by
    rw [readFound_append hgap, indentedText]
    cases b with
    | true => rfl
    | false => rfl
  simp [bool, scalar, readScalar, hread]

/-- A null is taken for nothing where a value may be missing. -/
theorem takes_optional_null {α : Type} (c : Codec α) :
    Takes c.optional.read .null none := by
  intro level gap rest hgap _
  have hskip : skipSpace (gap ++ (indentedText level .null ++ rest)) = 'n' :: 'u' :: 'l' :: 'l' :: rest := by
    rw [skipSpace_append hgap, indentedText]
    rfl
  have hword : readWord ['u', 'l', 'l'] ('u' :: 'l' :: 'l' :: rest) = .ok rest := rfl
  simp only [optional, hskip, hword]

/-- The name of a choice is taken for what is chosen. -/
theorem takes_choice
    {α : Type}
    {choices : List (String × α)}
    {name : String}
    {x : α}
    (h : choose choices name = .ok x) :
    Takes (choice choices).read (.string name) x := by
  intro level gap rest hgap _
  have hskip : skipSpace (gap ++ (indentedText level (.string name) ++ rest)) =
      '"' :: (name.toList.flatMap escape ++ '"' :: rest) := by
    rw [skipSpace_append hgap, indentedText, quoted_append]
    rfl
  have hread := readFound_quoted name rest
  rw [quoted_append] at hread
  simp only [choice, hskip, if_pos, readScalar, hread, h]

/-- A text is taken for itself where it may be missing. -/
theorem takes_optional_text (expected s : String) :
    Takes (optional (text expected)).read (.string s) (some s) := by
  intro level gap rest hgap hrest
  have hquote : skipSpace (gap ++ (indentedText level (.string s) ++ rest)) =
      indentedText level (.string s) ++ rest := by
    rw [skipSpace_append hgap, indentedText, quoted_append]
    rfl
  have hread := takes_text expected s level [] rest (by simp) hrest
  rw [List.nil_append] at hread
  simp only [optional, hquote]
  split
  · next heq =>
      rw [indentedText, quoted_append] at heq
      simp at heq
  · simp [hread]

end Codec

/-- The text of an object opens with its brace. -/
theorem indentedText_object
    (level : Nat)
    (members : List (String × Json)) :
    ∃ body, indentedText level (.object members) = '\x7b' :: body := by
  cases members with
  | nil => exact ⟨['\x7d'], by simp [indentedText]⟩
  | cons m members =>
      exact ⟨newline (level + 1) ++ quoted m.1 ++ ':' :: ' ' :: indentedText (level + 1) m.2 ++
        indentedMembers level members, by simp [indentedText]⟩

/-- One object of a list is read, and the reader goes on behind it. -/
theorem readItemsFrom_entry
    {α : Type}
    {item : Reader α}
    {members : List (String × Json)}
    {x : α}
    (fuel : Nat)
    (first : Bool)
    (level : Nat)
    (read : List α)
    {rest : List Char}
    (hitem : Takes item (.object members) x)
    (hrest : EndsValue rest) :
    readItemsFrom item (fuel + 1) first read
        (comma first ++ (newline level ++ (indentedText level (.object members) ++ rest))) =
      readItemsFrom item fuel false (x :: read) rest := by
  obtain ⟨body, hbody⟩ := indentedText_object level members
  have hread := hitem level [] rest (by simp) hrest
  rw [List.nil_append, hbody, List.cons_append] at hread
  rw [readItemsFrom, hbody, List.cons_append,
    nextItem_entry first _ _ (fun _ => isSpace_of_mem_newline) rfl (by decide)]
  simp only [hread]

/-- The further objects of a list are read up to its bracket. -/
theorem readItemsFrom_indentedItems
    {α : Type}
    {item : Reader α}
    (members : α → List (String × Json))
    (level : Nat)
    (read : List α)
    {xs : List α}
    (rest : List Char)
    {fuel : Nat}
    (hitem : ∀ x ∈ xs, Takes item (.object (members x)) x)
    (hfuel : xs.length < fuel) :
    readItemsFrom item fuel false read
        (indentedItems level (xs.map fun x => .object (members x)) ++ rest) =
      .ok (read.reverse ++ xs, rest) := by
  -- The induction is on the objects to come; `read` holds those before.
  induction xs generalizing read fuel with
  | nil =>
      obtain ⟨fuel, rfl⟩ := Nat.exists_eq_add_one_of_ne_zero (Nat.ne_of_gt hfuel)
      simp only [List.map_nil, indentedItems, List.append_assoc, List.cons_append, List.nil_append,
        readItemsFrom, nextItem_close, List.append_nil]
  | cons x xs ih =>
      rw [List.length_cons] at hfuel
      obtain ⟨fuel, rfl⟩ := Nat.exists_eq_add_one_of_ne_zero (show fuel ≠ 0 by omega)
      have htext : indentedItems level ((x :: xs).map fun x => .object (members x)) ++ rest =
          comma false ++ (newline (level + 1) ++ (indentedText (level + 1) (.object (members x)) ++
            (indentedItems level (xs.map fun x => .object (members x)) ++ rest))) := by
        simp [indentedItems, comma]
      have hx := hitem x List.mem_cons_self
      have hxs := fun y hy => hitem y (List.mem_cons_of_mem x hy)
      rw [htext, readItemsFrom_entry fuel false (level + 1) read hx
        (endsValue_indentedItems level _ rest), ih (x :: read) hxs (by omega)]
      simp

/-- A list of objects is taken for what its items are taken for. -/
theorem Codec.takes_list
    {α : Type}
    {c : Codec α}
    (members : α → List (String × Json))
    {xs : List α}
    (hitem : ∀ x ∈ xs, Takes c.read (.object (members x)) x) :
    Takes (Codec.list c).read (.array (xs.map fun x => .object (members x))) xs := by
  intro level gap rest hgap _
  cases xs with
  | nil =>
      have hfound : readFound (gap ++ (indentedText level (.array []) ++ rest)) =
          .ok (.list, '[' :: ']' :: rest) := by
        rw [readFound_append hgap, indentedText]
        rfl
      simp only [Codec.list, List.map_nil, hfound, List.tail_cons]
      rfl
  | cons x xs =>
      let further := indentedItems level (xs.map fun x => .object (members x)) ++ rest
      let body := newline (level + 1) ++ (indentedText (level + 1) (.object (members x)) ++ further)
      have hfound : readFound (gap ++
          (indentedText level (.array ((x :: xs).map fun x => .object (members x))) ++ rest)) =
          .ok (.list, '[' :: body) := by
        rw [readFound_append hgap, List.map_cons, indentedText]
        simp [readFound, skipSpace, isSpace, body, further]
      have hlength : xs.length < body.length := by
        have hfurther := length_le_length_indentedItems level (xs.map fun x => .object (members x))
        rw [List.length_map] at hfurther
        simp only [body, further, List.length_append, newline, List.length_cons]
        omega
      have hx := hitem x List.mem_cons_self
      have hxs := fun y hy => hitem y (List.mem_cons_of_mem x hy)
      have hfirst := readItemsFrom_entry body.length true (level + 1) [] hx
        (endsValue_indentedItems level (xs.map fun x => .object (members x)) rest)
      rw [comma, if_pos rfl, List.nil_append] at hfirst
      simp only [Codec.list, hfound, List.tail_cons, readItems]
      rw [hfirst, readItemsFrom_indentedItems members level [x] rest hxs hlength]
      simp

namespace Shape

/-- A member that a shape knows: the field of its name, and what reading its value stores. -/
structure Member
    {α : Type}
    (shape : Shape α) where
  field : Field α
  value : Json
  store : α → α
  known : shape.field? field.name = some field
  takes : Takes field.read value store

namespace Member

variable {α : Type} {shape : Shape α}

/-- The name of a member. -/
def name (m : Member shape) : String :=
  m.field.name

/-- The member as it stands in an object. -/
def pair (m : Member shape) : String × Json :=
  (m.name, m.value)

/-- The member of a field that a codec reads. -/
def of
    {β : Type}
    (name : String)
    (required : Bool)
    (codec : Codec β)
    (store : β → α → α)
    {value : Json}
    {x : β}
    (known : shape.field? name = some (.of name required codec store))
    (takes : Takes codec.read value x) :
    Member shape where
  field := .of name required codec store
  value := value
  store := store x
  known := known
  takes := by
    intro level gap rest hgap hrest
    simp only [Field.of, takes level gap rest hgap hrest]

end Member

variable {α : Type} {shape : Shape α}

/-- One member of an object is read, and the reader goes on behind it. -/
theorem readFieldsFrom_entry
    (m : Member shape)
    (fuel : Nat)
    (first : Bool)
    {given : List String}
    (value : α)
    (level : Nat)
    {rest : List Char}
    (hgiven : m.name ∉ given)
    (hrest : EndsValue rest) :
    shape.readFieldsFrom (fuel + 1) first given value
        (comma first ++ (newline level ++ (quoted m.name ++
          (':' :: ' ' :: (indentedText level m.value ++ rest))))) =
      shape.readFieldsFrom fuel false (m.name :: given) (m.store value) rest := by
  have hread := m.takes level [' '] rest (by simp [isSpace]) hrest
  have hcolon : readColon (':' :: ' ' :: (indentedText level m.value ++ rest)) =
      .ok (' ' :: (indentedText level m.value ++ rest)) := rfl
  have hknown : shape.field? m.name = some m.field := m.known
  rw [List.cons_append, List.nil_append] at hread
  rw [readFieldsFrom, quoted_append, nextKey_entry first _ _ fun _ => isSpace_of_mem_newline]
  simp only [readString_flatMap_escape, hknown, List.contains_iff_mem, hgiven, if_false, hcolon,
    hread]

/-- The further members of an object are read up to its brace. -/
theorem readFieldsFrom_indentedMembers
    {members : List (Member shape)}
    (level : Nat)
    {given : List String}
    (value : α)
    (rest : List Char)
    {fuel : Nat}
    (hnodup : (members.map Member.name).Nodup)
    (hgiven : ∀ m ∈ members, m.name ∉ given)
    (hcomplete : shape.missing? ((members.map Member.name).reverse ++ given) = none)
    (hfuel : members.length < fuel) :
    shape.readFieldsFrom fuel false given value
        (indentedMembers level (members.map Member.pair) ++ rest) =
      .ok (members.foldl (fun x m => m.store x) value, rest) := by
  -- The induction is on the members to come.  Each step adds a name to those given, so it has to be
  -- shown again that the names to come are not among them.
  induction members generalizing given value fuel with
  | nil =>
      obtain ⟨fuel, rfl⟩ := Nat.exists_eq_add_one_of_ne_zero (Nat.ne_of_gt hfuel)
      rw [List.map_nil, List.reverse_nil, List.nil_append] at hcomplete
      simp only [List.map_nil, indentedMembers, List.append_assoc, List.cons_append,
        List.nil_append, readFieldsFrom, nextKey_close, hcomplete, List.foldl_nil]
  | cons m members ih =>
      rw [List.length_cons] at hfuel
      rw [List.map_cons, List.nodup_cons] at hnodup
      obtain ⟨fuel, rfl⟩ := Nat.exists_eq_add_one_of_ne_zero (show fuel ≠ 0 by omega)
      have htext : indentedMembers level ((m :: members).map Member.pair) ++ rest =
          comma false ++ (newline (level + 1) ++ (quoted m.name ++
            (':' :: ' ' :: (indentedText (level + 1) m.value ++
              (indentedMembers level (members.map Member.pair) ++ rest))))) := by
        simp [indentedMembers, comma, Member.pair]
      have hdiffer : ∀ n ∈ members, n.name ∉ m.name :: given := by
        intro n hn
        rw [List.mem_cons, not_or]
        exact ⟨fun e => hnodup.1 (e ▸ List.mem_map_of_mem hn),
          hgiven n (List.mem_cons_of_mem m hn)⟩
      have hrest : shape.missing? ((members.map Member.name).reverse ++ m.name :: given) = none := by
        simpa using hcomplete
      rw [htext, readFieldsFrom_entry m fuel false value (level + 1)
        (hgiven m List.mem_cons_self) (endsValue_indentedMembers level _ rest),
        ih (m.store value) hnodup.2 hdiffer hrest (by omega), List.foldl_cons]

/-- An object is taken for what its members store in the blank value, if they have different names
and leave no required field out. -/
theorem takes_codec
    {members : List (Member shape)}
    (hnodup : (members.map Member.name).Nodup)
    (hcomplete : shape.missing? (members.map Member.name).reverse = none) :
    Takes shape.codec.read (.object (members.map Member.pair))
      (members.foldl (fun x m => m.store x) shape.blank) := by
  intro level gap rest hgap _
  cases members with
  | nil =>
      have hfound : readFound (gap ++ (indentedText level (.object []) ++ rest)) =
          .ok (.map, '\x7b' :: '\x7d' :: rest) := by
        rw [readFound_append hgap, indentedText]
        rfl
      have hclose : nextKey true ('\x7d' :: rest) = .ok (.close rest) := rfl
      rw [List.map_nil, List.reverse_nil] at hcomplete
      simp only [codec, List.map_nil, hfound, List.tail_cons, readFieldsFrom, hclose, hcomplete,
        List.foldl_nil]
  | cons m members =>
      let further := indentedMembers level (members.map Member.pair) ++ rest
      let body := newline (level + 1) ++ (quoted m.name ++
        (':' :: ' ' :: (indentedText (level + 1) m.value ++ further)))
      have hfound : readFound (gap ++
          (indentedText level (.object ((m :: members).map Member.pair)) ++ rest)) =
          .ok (.map, '\x7b' :: body) := by
        rw [readFound_append hgap, List.map_cons, Member.pair, indentedText]
        simp [readFound, skipSpace, isSpace, body, further]
      have hlength : members.length < ('\x7b' :: body).length := by
        have hfurther := length_le_length_indentedMembers level (members.map Member.pair)
        rw [List.length_map] at hfurther
        simp only [body, further, List.length_append, List.length_cons]
        omega
      rw [List.map_cons, List.nodup_cons] at hnodup
      have hfirst := readFieldsFrom_entry m ('\x7b' :: body).length true shape.blank (level + 1)
        (List.not_mem_nil (a := m.name))
        (endsValue_indentedMembers level (members.map Member.pair) rest)
      rw [comma, if_pos rfl, List.nil_append] at hfirst
      have hdiffer : ∀ n ∈ members, n.name ∉ [m.name] := by
        intro n hn
        rw [List.mem_singleton]
        exact fun e => hnodup.1 (e ▸ List.mem_map_of_mem hn)
      have hrest : shape.missing? ((members.map Member.name).reverse ++ [m.name]) = none := by
        simpa using hcomplete
      simp only [codec, hfound, List.tail_cons]
      rw [hfirst, readFieldsFrom_indentedMembers level (m.store shape.blank) rest hnodup.2 hdiffer
        hrest hlength, List.foldl_cons]

end Shape

/-- A document holds what is read from its front if only blanks are left behind it. -/
theorem readDocument_eq_ok_iff
    {α : Type}
    {read : Reader α}
    {s : List Char}
    {x : α} :
    readDocument read s = .ok x ↔ ∃ rest, read s = .ok (x, rest) ∧ skipSpace rest = [] := by
  constructor
  · intro h
    unfold readDocument at h
    split at h
    · cases h
    · next y rest hread =>
        split at h
        · next hend =>
            cases h
            exact ⟨rest, hread, hend⟩
        · cases h
  · rintro ⟨rest, hread, hend⟩
    simp only [readDocument, hread, hend]

/-- A reader that takes a value for some result makes the same of its document. -/
theorem Codec.parse_indented
    {α : Type}
    {c : Codec α}
    {v : Json}
    {x : α}
    (h : Takes c.read v x) :
    c.parse v.indented = .ok x := by
  have hread := h 0 [] [] (by simp) (by simp [EndsValue])
  rw [List.nil_append, List.append_nil] at hread
  rw [Codec.parse, readDocument_eq_ok_iff, indented, String.toList_ofList]
  exact ⟨[], hread, rfl⟩

end Json
end Keyring
