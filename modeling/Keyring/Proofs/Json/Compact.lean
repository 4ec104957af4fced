import Keyring.Proofs.Json.Numeral

/-!
# Values on one line read back

The reader of arbitrary values undoes the compact layout for every value whose numbers are integers that
are read exactly, as deep as containers may be nested: `parse_compact`.  Nothing in the text of such a value
is a control character, whatever its strings hold: `unbroken_compactText`.
-/

namespace Keyring

/-- Whether a number is an integer of the kinds that are kept exactly. -/
def Number.Exact : Number → Prop
  | .int n => -(Nat.pow 2 63 : Int) ≤ n ∧ n < (Nat.pow 2 64 : Int)
  | .decimal _ _ => False

namespace Json

mutual

/-- Whether all numbers of a value are exact. -/
def Exact : Json → Prop
  | .number n => n.Exact
  | .array items => ExactItems items
  | .object members => ExactMembers members
  | _ => True

/-- Whether all numbers of items are exact. -/
def ExactItems : List Json → Prop
  | [] => True
  | v :: rest => v.Exact ∧ ExactItems rest

/-- Whether all numbers of members are exact. -/
def ExactMembers : List (String × Json) → Prop
  | [] => True
  | (_, v) :: rest => v.Exact ∧ ExactMembers rest

end

/-- What holds of the values without parts, and of a container when it holds of its parts, holds of all
values. -/
theorem induction
    {motive : Json → Prop}
    (null : motive .null)
    (bool : ∀ b, motive (.bool b))
    (number : ∀ n, motive (.number n))
    (string : ∀ s, motive (.string s))
    (array : ∀ items, (∀ v ∈ items, motive v) → motive (.array items))
    (object : ∀ members, (∀ m ∈ members, motive m.2) → motive (.object members))
    (v : Json) :
    motive v := by
  refine @Json.rec motive (fun items => ∀ v ∈ items, motive v) (fun members => ∀ m ∈ members, motive m.2)
    (fun m => motive m.2) null bool number string array object ?_ ?_ ?_ ?_ ?_ v
  · simp
  · intro v items hv hitems
    exact List.forall_mem_cons.2 ⟨hv, hitems⟩
  · simp
  · intro m members hm hmembers
    exact List.forall_mem_cons.2 ⟨hm, hmembers⟩
  · intro name v hv
    exact hv

section Parts

variable {items : List Json} {members : List (String × Json)} {levels : Nat}

theorem exact_array_iff :
    (array items).Exact ↔ ∀ v ∈ items, v.Exact := by
  rw [Exact]
  induction items with
  | nil => simp [ExactItems]
  | cons v items ih => rw [ExactItems, ih, List.forall_mem_cons]

theorem exact_object_iff :
    (object members).Exact ↔ ∀ m ∈ members, m.2.Exact := by
  rw [Exact]
  induction members with
  | nil => simp [ExactMembers]
  | cons m members ih => rw [ExactMembers, ih, List.forall_mem_cons]

theorem depthItems_le_iff :
    depthItems items ≤ levels ↔ ∀ v ∈ items, v.depth ≤ levels := by
  induction items with
  | nil => simp [depthItems]
  | cons v items ih => rw [depthItems, Nat.max_le, ih, List.forall_mem_cons]

theorem depthMembers_le_iff :
    depthMembers members ≤ levels ↔ ∀ m ∈ members, m.2.depth ≤ levels := by
  induction members with
  | nil => simp [depthMembers]
  | cons m members ih => rw [depthMembers, Nat.max_le, ih, List.forall_mem_cons]

end Parts

/-- What may follow a value on the line: nothing, a comma or the end of a container. -/
def EndsEntry (s : List Char) : Prop :=
  ∀ c ∈ s.head?, c = ',' ∨ c = ']' ∨ c = '\x7d'

theorem EndsEntry.endsNumber
    {rest : List Char}
    (hrest : EndsEntry rest) :
    EndsNumber rest := by
  intro c hc
  rcases hrest c hc with rfl | rfl | rfl
  · decide
  · decide
  · decide

theorem endsEntry_compactItems
    (items : List Json)
    (rest : List Char) :
    EndsEntry (compactItems items ++ rest) := by
  cases items with
  | nil => simp [EndsEntry, compactItems]
  | cons v items => simp [EndsEntry, compactItems]

theorem endsEntry_compactMembers
    (members : List (String × Json))
    (rest : List Char) :
    EndsEntry (compactMembers members ++ rest) := by
  cases members with
  | nil => simp [EndsEntry, compactMembers]
  | cons m members => simp [EndsEntry, compactMembers]

section Numbers

variable {n : Int} {rest : List Char}

/-- An integer that is kept exactly is read as itself. -/
theorem readFound_intText
    (hexact : (Number.int n).Exact)
    (hrest : EndsNumber rest) :
    readFound (intText n ++ rest) = .ok (.number (.int n), rest) := by
  obtain ⟨hleast, hgreatest⟩ := hexact
  cases n with
  | ofNat n =>
      have hfit : n ≤ greatestExact := Nat.le_pred_of_lt (Int.ofNat_lt.1 hgreatest)
      obtain ⟨c, ds, hds, hc⟩ := exists_digit_toDigits n
      have hread := readNumber_toDigits false hfit hrest
      rw [intText, hds, List.cons_append]
      rw [hds, List.cons_append] at hread
      exact readFound_of_isDigit hc hread
  | negSucc n =>
      have hn : n + 1 ≤ Nat.pow 2 63 := by omega
      have hread := readNumber_toDigits true (n := n + 1) (Nat.le_trans hn (by decide)) hrest
      have hinteger : integer true (n + 1) rest = .ok (.int (Int.negSucc n), rest) := by
        have hbound : ¬ n + 1 > Nat.pow 2 63 := Nat.not_lt.2 hn
        simp only [integer, Bool.not_true, Bool.false_eq_true, if_false, Nat.add_one_ne_zero,
          decide_false, hbound, Bool.or_self]
        rfl
      rw [hinteger] at hread
      simp only [intText, List.cons_append]
      simp [readFound, skipSpace, isSpace, hread]

end Numbers

/-- The text of a value starts with a token that closes no list. -/
theorem exists_cons_compactText
    {v : Json}
    (hexact : v.Exact) :
    ∃ c s, compactText v = c :: s ∧ isSpace c = false ∧ c ≠ ']' := by
  cases v with
  | null => exact ⟨'n', _, rfl, rfl, by decide⟩
  | bool b =>
      cases b with
      | true => exact ⟨'t', _, rfl, rfl, by decide⟩
      | false => exact ⟨'f', _, rfl, rfl, by decide⟩
  | number n =>
      cases n with
      | decimal negative magnitude => exact hexact.elim
      | int n =>
          cases n with
          | negSucc n => exact ⟨'-', _, rfl, rfl, by decide⟩
          | ofNat n =>
              obtain ⟨c, ds, hds, hc⟩ := exists_digit_toDigits n
              refine ⟨c, ds, hds, isSpace_of_isDigit hc, ?_⟩
              rintro rfl
              exact absurd hc (by decide)
  | string s => exact ⟨'"', _, rfl, rfl, by decide⟩
  | array items =>
      cases items with
      | nil => exact ⟨'[', _, by rw [compactText], rfl, by decide⟩
      | cons v items => exact ⟨'[', _, by rw [compactText]; rfl, rfl, by decide⟩
  | object members =>
      cases members with
      | nil => exact ⟨'\x7b', _, by rw [compactText], rfl, by decide⟩
      | cons m members => exact ⟨'\x7b', _, by rw [compactText]; rfl, rfl, by decide⟩

/-- A reader undoes the compact layout of a value, whatever comes after it. -/
def ReadsBack (read : Reader Json) (v : Json) : Prop :=
  ∀ rest, EndsEntry rest → read (compactText v ++ rest) = .ok (v, rest)

section Entries

variable {item : Reader Json} {items : List Json} {members : List (String × Json)}

/-- One item of a list is read, and the reader goes on behind it. -/
theorem readItemsFrom_item
    {v : Json}
    (fuel : Nat)
    (first : Bool)
    (read : List Json)
    {rest : List Char}
    (hexact : v.Exact)
    (hitem : ReadsBack item v)
    (hrest : EndsEntry rest) :
    readItemsFrom item (fuel + 1) first read (comma first ++ (compactText v ++ rest)) =
      readItemsFrom item fuel false (v :: read) rest := by
  obtain ⟨c, s, htext, hc, hopen⟩ := exists_cons_compactText hexact
  have hread := hitem rest hrest
  have hnext := nextItem_entry first [] (s ++ rest) (by simp) hc hopen
  rw [htext, List.cons_append] at hread ⊢
  rw [List.nil_append] at hnext
  simp only [readItemsFrom, hnext, hread]

/-- The further items of a list are read up to its bracket. -/
theorem readItemsFrom_compactItems
    (read : List Json)
    (rest : List Char)
    {fuel : Nat}
    (hexact : ∀ v ∈ items, v.Exact)
    (hitems : ∀ v ∈ items, ReadsBack item v)
    (hfuel : items.length < fuel) :
    readItemsFrom item fuel false read (compactItems items ++ rest) = .ok (read.reverse ++ items, rest) := by
  induction items generalizing read fuel with
  | nil =>
      obtain ⟨fuel, rfl⟩ := Nat.exists_eq_add_one_of_ne_zero (Nat.ne_of_gt hfuel)
      have hclose : nextItem false (']' :: rest) = .ok (.close rest) := rfl
      simp [compactItems, readItemsFrom, hclose]
  | cons v items ih =>
      rw [List.length_cons] at hfuel
      obtain ⟨fuel, rfl⟩ := Nat.exists_eq_add_one_of_ne_zero (show fuel ≠ 0 by omega)
      rw [List.forall_mem_cons] at hexact hitems
      have htext : compactItems (v :: items) ++ rest =
          comma false ++ (compactText v ++ (compactItems items ++ rest)) := by
        simp [compactItems, comma]
      rw [htext, readItemsFrom_item fuel false read hexact.1 hitems.1 (endsEntry_compactItems items rest),
        ih (v :: read) hexact.2 hitems.2 (by omega)]
      simp

/-- One member of an object is read, and the reader goes on behind it. -/
theorem readMembersFrom_member
    {v : Json}
    (fuel : Nat)
    (first : Bool)
    (read : List (String × Json))
    (name : String)
    {rest : List Char}
    (hvalue : ReadsBack item v)
    (hrest : EndsEntry rest) :
    readMembersFrom item (fuel + 1) first read
        (comma first ++ (quoted name ++ ':' :: (compactText v ++ rest))) =
      readMembersFrom item fuel false ((name, v) :: read) rest := by
  have hread := hvalue rest hrest
  have hcolon : readColon (':' :: (compactText v ++ rest)) = .ok (compactText v ++ rest) := rfl
  have hnext := nextKey_entry first []
    (name.toList.flatMap escape ++ '"' :: ':' :: (compactText v ++ rest)) (by simp)
  rw [List.nil_append] at hnext
  rw [quoted_append]
  simp only [readMembersFrom, hnext, readString_flatMap_escape, hcolon, hread]

/-- The further members of an object are read up to its brace. -/
theorem readMembersFrom_compactMembers
    (read : List (String × Json))
    (rest : List Char)
    {fuel : Nat}
    (hmembers : ∀ m ∈ members, ReadsBack item m.2)
    (hfuel : members.length < fuel) :
    readMembersFrom item fuel false read (compactMembers members ++ rest) =
      .ok (read.reverse ++ members, rest) := by
  induction members generalizing read fuel with
  | nil =>
      obtain ⟨fuel, rfl⟩ := Nat.exists_eq_add_one_of_ne_zero (Nat.ne_of_gt hfuel)
      have hclose : nextKey false ('\x7d' :: rest) = .ok (.close rest) := rfl
      simp [compactMembers, readMembersFrom, hclose]
  | cons m members ih =>
      obtain ⟨name, v⟩ := m
      rw [List.length_cons] at hfuel
      obtain ⟨fuel, rfl⟩ := Nat.exists_eq_add_one_of_ne_zero (show fuel ≠ 0 by omega)
      rw [List.forall_mem_cons] at hmembers
      have htext : compactMembers ((name, v) :: members) ++ rest =
          comma false ++ (quoted name ++ ':' :: (compactText v ++ (compactMembers members ++ rest))) := by
        simp [compactMembers, comma]
      rw [htext, readMembersFrom_member fuel false read name hmembers.1 (endsEntry_compactMembers members rest),
        ih ((name, v) :: read) hmembers.2 (by omega)]
      simp

/-- Every item takes up text. -/
theorem length_le_length_compactItems (items : List Json) :
    items.length ≤ (compactItems items).length := by
  induction items with
  | nil => simp
  | cons v items ih =>
      simp only [compactItems, List.length_append, List.length_cons]
      omega

/-- Every member takes up text. -/
theorem length_le_length_compactMembers (members : List (String × Json)) :
    members.length ≤ (compactMembers members).length := by
  induction members with
  | nil => simp
  | cons m members ih =>
      simp only [compactMembers, List.length_append, List.length_cons]
      omega

/-- A list is read when its items are. -/
theorem readsBack_array
    (hexact : ∀ v ∈ items, v.Exact)
    (hitems : ∀ v ∈ items, ReadsBack item v) :
    ReadsBack (readValueWith (some item)) (.array items) := by
  intro rest hrest
  cases items with
  | nil =>
      rw [compactText]
      rfl
  | cons v items =>
      let body := compactText v ++ (compactItems items ++ rest)
      have hfound : readFound (compactText (.array (v :: items)) ++ rest) = .ok (.list, '[' :: body) := by
        rw [compactText]
        simp [readFound, skipSpace, isSpace, body]
      rw [List.forall_mem_cons] at hexact hitems
      have hlength : items.length < body.length := by
        obtain ⟨c, s, htext, -⟩ := exists_cons_compactText hexact.1
        have hfurther := length_le_length_compactItems items
        simp only [body, htext, List.length_append, List.length_cons]
        omega
      have hfirst := readItemsFrom_item body.length true [] hexact.1 hitems.1
        (endsEntry_compactItems items rest)
      rw [comma, if_pos rfl, List.nil_append] at hfirst
      simp only [readValueWith, hfound, List.tail_cons, readItems]
      rw [hfirst, readItemsFrom_compactItems [v] rest hexact.2 hitems.2 hlength]
      rfl

/-- An object is read when the values of its members are. -/
theorem readsBack_object (hmembers : ∀ m ∈ members, ReadsBack item m.2) :
    ReadsBack (readValueWith (some item)) (.object members) := by
  intro rest hrest
  cases members with
  | nil =>
      rw [compactText]
      rfl
  | cons m members =>
      obtain ⟨name, v⟩ := m
      let body := quoted name ++ ':' :: (compactText v ++ (compactMembers members ++ rest))
      have hfound : readFound (compactText (.object ((name, v) :: members)) ++ rest) =
          .ok (.map, '\x7b' :: body) := by
        rw [compactText]
        simp [readFound, skipSpace, isSpace, body]
      rw [List.forall_mem_cons] at hmembers
      have hlength : members.length < body.length := by
        have hfurther := length_le_length_compactMembers members
        simp only [body, List.length_append, List.length_cons]
        omega
      have hfirst := readMembersFrom_member body.length true [] name hmembers.1
        (endsEntry_compactMembers members rest)
      rw [comma, if_pos rfl, List.nil_append] at hfirst
      simp only [readValueWith, hfound, List.tail_cons, readMembers]
      rw [hfirst, readMembersFrom_compactMembers [(name, v)] rest hmembers.2 hlength]
      rfl

end Entries

/-- A value without parts is read whatever containers may follow. -/
theorem readValue_eq_of_forall
    {v : Json}
    {s rest : List Char}
    (levels : Nat)
    (h : ∀ inner, readValueWith inner s = .ok (v, rest)) :
    readValue levels s = .ok (v, rest) := by
  cases levels with
  | zero => exact h none
  | succ levels => exact h (some (readValue levels))

/-- A value whose numbers are exact is read back, as long as it is nested no deeper than is allowed. -/
theorem readsBack_readValue
    {v : Json}
    {levels : Nat}
    (hexact : v.Exact)
    (hdepth : v.depth ≤ levels) :
    ReadsBack (readValue levels) v := by
  induction v using Json.induction generalizing levels with
  | null =>
      intro rest _
      have hfound : readFound (compactText .null ++ rest) = .ok (.null, rest) := by
        rw [compactText]
        rfl
      exact readValue_eq_of_forall levels fun inner => by simp only [readValueWith, hfound]
  | bool b =>
      intro rest _
      have hfound : readFound (compactText (.bool b) ++ rest) = .ok (.bool b, rest) := by
        rw [compactText]
        cases b with
        | true => rfl
        | false => rfl
      exact readValue_eq_of_forall levels fun inner => by simp only [readValueWith, hfound]
  | number n =>
      intro rest hrest
      cases n with
      | decimal negative magnitude => exact hexact.elim
      | int n =>
          have hfound : readFound (compactText (.number (.int n)) ++ rest) =
              .ok (.number (.int n), rest) := by
            rw [compactText]
            exact readFound_intText hexact hrest.endsNumber
          exact readValue_eq_of_forall levels fun inner => by simp only [readValueWith, hfound]
  | string s =>
      intro rest _
      have hfound : readFound (compactText (.string s) ++ rest) = .ok (.text s, rest) := by
        rw [compactText, readFound_quoted]
      exact readValue_eq_of_forall levels fun inner => by simp only [readValueWith, hfound]
  | array items ih =>
      rw [exact_array_iff] at hexact
      rw [depth] at hdepth
      obtain ⟨levels, rfl⟩ := Nat.exists_eq_add_one_of_ne_zero (show levels ≠ 0 by omega)
      have hinner := depthItems_le_iff.1 (Nat.le_of_succ_le_succ hdepth)
      exact readsBack_array hexact fun v hv => ih v hv (hexact v hv) (hinner v hv)
  | object members ih =>
      rw [exact_object_iff] at hexact
      rw [depth] at hdepth
      obtain ⟨levels, rfl⟩ := Nat.exists_eq_add_one_of_ne_zero (show levels ≠ 0 by omega)
      have hinner := depthMembers_le_iff.1 (Nat.le_of_succ_le_succ hdepth)
      exact readsBack_object fun m hm => ih m hm (hexact m hm) (hinner m hm)

/-- The line of a value whose numbers are exact is a document that holds the value. -/
theorem parse_compact
    {v : Json}
    (hexact : v.Exact)
    (hdepth : v.depth ≤ greatestDepth) :
    parse v.compact = .ok v := by
  have hread := readsBack_readValue hexact hdepth [] (by simp [EndsEntry])
  rw [List.append_nil] at hread
  rw [parse, readDocument_eq_ok_iff, compact, String.toList_ofList]
  exact ⟨[], hread, rfl⟩

/-- Whether a text holds none of the control characters below U+0020, line breaks among them. -/
def Unbroken (s : List Char) : Prop :=
  ∀ c ∈ s, 0x20 ≤ c.toNat

section Characters

variable {c : Char} {s t : List Char}

@[simp] theorem unbroken_nil :
    Unbroken [] := by
  simp [Unbroken]

@[simp] theorem unbroken_cons :
    Unbroken (c :: s) ↔ 0x20 ≤ c.toNat ∧ Unbroken s :=
  List.forall_mem_cons

@[simp] theorem unbroken_append :
    Unbroken (s ++ t) ↔ Unbroken s ∧ Unbroken t :=
  List.forall_mem_append

theorem unbroken_of_isDigit (h : ∀ c ∈ s, c.isDigit = true) :
    Unbroken s := by
  intro c hc
  have hdigit := Char.isDigit_iff_toNat.1 (h c hc)
  have hzero : '0'.toNat = 0x30 := rfl
  omega

theorem le_toNat_hexDigit (n : Nat) :
    0x20 ≤ (hexDigit n).toNat := by
  have hall : ∀ d < 16, 0x20 ≤ (Nat.digitChar d).toNat := by decide
  exact hall (n % 16) (Nat.mod_lt n (by decide))

/-- Escaping leaves no control character. -/
theorem unbroken_escape (c : Char) :
    Unbroken (escape c) := by
  have hshort : ∀ {e : Char}, 0x20 ≤ e.toNat → Unbroken ['\\', e] := by simp
  -- The cases are those of `escape`: seven short escapes, the control characters, the rest.
  unfold escape
  split
  · exact hshort (by decide)
  split
  · exact hshort (by decide)
  split
  · exact hshort (by decide)
  split
  · exact hshort (by decide)
  split
  · exact hshort (by decide)
  split
  · exact hshort (by decide)
  split
  · exact hshort (by decide)
  split
  · simp [le_toNat_hexDigit]
  · next hcontrol => simpa using Nat.le_of_not_lt hcontrol

theorem unbroken_quoted (s : String) :
    Unbroken (quoted s) := by
  have hinside : Unbroken (s.toList.flatMap escape) := by
    intro d hd
    obtain ⟨c, -, hc⟩ := List.mem_flatMap.1 hd
    exact unbroken_escape c d hc
  simp [quoted, hinside]

theorem unbroken_intText (n : Int) :
    Unbroken (intText n) := by
  cases n with
  | ofNat n =>
      exact unbroken_of_isDigit fun c => Nat.isDigit_of_mem_toDigits (by decide) (by decide)
  | negSucc n =>
      have hdigits : Unbroken (Nat.toDigits 10 (n + 1)) :=
        unbroken_of_isDigit fun c => Nat.isDigit_of_mem_toDigits (by decide) (by decide)
      simp [intText, hdigits]

theorem unbroken_compactItems
    {items : List Json}
    (h : ∀ v ∈ items, Unbroken (compactText v)) :
    Unbroken (compactItems items) := by
  induction items with
  | nil => simp [compactItems]
  | cons v items ih =>
      rw [List.forall_mem_cons] at h
      simp [compactItems, h.1, ih h.2]

theorem unbroken_compactMembers
    {members : List (String × Json)}
    (h : ∀ m ∈ members, Unbroken (compactText m.2)) :
    Unbroken (compactMembers members) := by
  induction members with
  | nil => simp [compactMembers]
  | cons m members ih =>
      rw [List.forall_mem_cons] at h
      simp [compactMembers, unbroken_quoted, h.1, ih h.2]

/-- The line of a value whose numbers are exact is one line, whatever its strings hold. -/
theorem unbroken_compactText
    {v : Json}
    (hexact : v.Exact) :
    Unbroken (compactText v) := by
  induction v using Json.induction with
  | null => simp [compactText]
  | bool b =>
      cases b with
      | true => simp [compactText, boolText]
      | false => simp [compactText, boolText]
  | number n =>
      cases n with
      | int n =>
          rw [compactText]
          exact unbroken_intText n
      | decimal negative magnitude => exact hexact.elim
  | string s =>
      rw [compactText]
      exact unbroken_quoted s
  | array items ih =>
      rw [exact_array_iff] at hexact
      cases items with
      | nil => simp [compactText]
      | cons v items =>
          rw [List.forall_mem_cons] at hexact ih
          have hitems := unbroken_compactItems fun w hw => ih.2 w hw (hexact.2 w hw)
          simp [compactText, ih.1 hexact.1, hitems]
  | object members ih =>
      rw [exact_object_iff] at hexact
      cases members with
      | nil => simp [compactText]
      | cons m members =>
          rw [List.forall_mem_cons] at hexact ih
          have hmembers := unbroken_compactMembers fun n hn => ih.2 n hn (hexact.2 n hn)
          simp [compactText, unbroken_quoted, ih.1 hexact.1, hmembers]

end Characters

end Json
end Keyring
