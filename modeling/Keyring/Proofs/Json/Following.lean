import Keyring.Proofs.Json.Fields
import Keyring.Proofs.Json.Layout

/-!
# Straight from the text, or by way of a value

A text can be read for a result straight away, or a value can be read first and the result be made of it.
Where the value can be read, both ways come to the same: `Codec.parse_eq_ok_iff`.  For an object of a closed
shape this holds if it holds of the values of its known members, because both ways take the members one
by one and stop at the first that they do not know.
-/

namespace Keyring
namespace Json

variable {α : Type} {s rest : List Char} {levels : Nat}

/-- Whether reading the text of a value straight away comes to the same as what is made of the value, and
reads as far. -/
def Follows
    (read : Reader α)
    (ofJson : Json → Except Mismatch α)
    (v : Json) : Prop :=
  ∀ levels s rest, readValue levels s = .ok (v, rest) →
    ∀ x rest', read s = .ok (x, rest') ↔ ofJson v = .ok x ∧ rest' = rest

/-- What is made of a result follows the value if the result does. -/
theorem map_eq_ok_iff
    {β : Type}
    {straight : Except Fault (α × List Char)}
    {made : Except Mismatch α}
    (f : α → β)
    (h : ∀ x rest', straight = .ok (x, rest') ↔ made = .ok x ∧ rest' = rest)
    (x : β)
    (rest' : List Char) :
    (straight.map fun outcome => (f outcome.1, outcome.2)) = .ok (x, rest') ↔
      made.map f = .ok x ∧ rest' = rest := by
  cases straight with
  | ok outcome =>
      obtain ⟨hmade, hrest⟩ := (h outcome.1 outcome.2).1 rfl
      simp [hmade, hrest, Except.map, eq_comm]
  | error e =>
      cases made with
      | error m => simp [Except.map]
      | ok y =>
          have hok := (h y rest).2 ⟨rfl, rfl⟩
          cases hok

/-- The members of an object as they are read, one after the other. -/
inductive MembersRead (value : Reader Json) :
    Bool → List Char → List (String × Json) → List Char → Prop
  | close
      {first : Bool}
      {s rest : List Char}
      (hclose : nextKey first s = .ok (.close rest)) :
      MembersRead value first s [] rest
  | member
      {first : Bool}
      {s t t' u u' rest : List Char}
      {name : String}
      {v : Json}
      {members : List (String × Json)}
      (hentry : nextKey first s = .ok (.entry t))
      (hname : readString t = .ok (name, t'))
      (hcolon : readColon t' = .ok u)
      (hvalue : value u = .ok (v, u'))
      (hmembers : MembersRead value false u' members rest) :
      MembersRead value first s ((name, v) :: members) rest

/-- The fuel is more than the members that are read. -/
theorem membersRead_of_readMembersFrom
    {value : Reader Json}
    {fuel : Nat}
    {first : Bool}
    {read all : List (String × Json)}
    (h : readMembersFrom value fuel first read s = .ok (all, rest)) :
    ∃ members, all = read.reverse ++ members ∧ members.length < fuel ∧
      MembersRead value first s members rest := by
  induction fuel generalizing first read s with
  | zero => cases h
  | succ fuel ih =>
      unfold readMembersFrom at h
      split at h
      · cases h
      · next hclose =>
          cases h
          exact ⟨[], (List.append_nil _).symm, Nat.succ_pos fuel, .close hclose⟩
      · next hentry =>
          split at h
          · cases h
          · next name t hname =>
              split at h
              · cases h
              · next hcolon =>
                  split at h
                  · cases h
                  · next v u hvalue =>
                      obtain ⟨members, rfl, hlength, hmembers⟩ := ih h
                      refine ⟨(name, v) :: members, ?_, Nat.succ_lt_succ hlength,
                        .member hentry hname hcolon hvalue hmembers⟩
                      rw [List.reverse_cons, List.append_assoc, List.singleton_append]

/-- A value that has been read was found first: a scalar with its text, a container by its bracket. -/
theorem readValueWith_eq_ok
    {inner : Option (Reader Json)}
    {v : Json}
    (h : readValueWith inner s = .ok (v, rest)) :
    (readFound s = .ok (found v, rest) ∧ found v ≠ .map) ∨
      (∃ items t, v = .array items ∧ readFound s = .ok (.list, t)) ∨
      ∃ members t read, v = .object members ∧ readFound s = .ok (.map, t) ∧ inner = some read ∧
        readMembers read t.tail = .ok (members, rest) := by
  unfold readValueWith at h
  split at h
  · cases h
  · next hfound =>
      cases h
      exact .inl ⟨hfound, by simp [found]⟩
  · next hfound =>
      cases h
      exact .inl ⟨hfound, by simp [found]⟩
  · next hfound =>
      cases h
      exact .inl ⟨hfound, by simp [found]⟩
  · next hfound =>
      cases h
      exact .inl ⟨hfound, by simp [found]⟩
  · next t hfound =>
      split at h
      · cases h
      · split at h
        · cases h
        · next items _ _ =>
            cases h
            exact .inr (.inl ⟨items, t, rfl, hfound⟩)
  · next t hfound =>
      split at h
      · cases h
      · next read =>
          split at h
          · cases h
          · next members _ hmembers =>
              cases h
              exact .inr (.inr ⟨members, t, read, rfl, hfound, rfl, hmembers⟩)

theorem exists_readValueWith_of_readValue
    {v : Json}
    (h : readValue levels s = .ok (v, rest)) :
    ∃ inner, readValueWith inner s = .ok (v, rest) ∧
      ∀ read, inner = some read → ∃ below, read = readValue below := by
  cases levels with
  | zero => exact ⟨none, h, fun read hread => by cases hread⟩
  | succ levels => exact ⟨some (readValue levels), h, fun read hread => ⟨levels, (Option.some.inj hread).symm⟩⟩

theorem readFound_skipSpace :
    readFound (skipSpace s) = readFound s := by
  obtain ⟨gap, hgap, hs⟩ := exists_blank_append_skipSpace s
  conv_rhs => rw [hs, readFound_append hgap]

/-- Blanks before a value do not matter. -/
theorem readValue_skipSpace :
    readValue levels (skipSpace s) = readValue levels s := by
  cases levels with
  | zero => simp only [readValue, readValueWith, readFound_skipSpace]
  | succ levels => simp only [readValue, readValueWith, readFound_skipSpace]

/-- What a value was found as is its kind. -/
theorem readFound_of_readValue
    {v : Json}
    (h : readValue levels s = .ok (v, rest)) :
    ∃ t, readFound s = .ok (found v, t) ∧ (t = rest ∨ found v = .list ∨ found v = .map) := by
  obtain ⟨inner, hwith, -⟩ := exists_readValueWith_of_readValue h
  obtain ⟨hfound, -⟩ | ⟨items, t, rfl, hfound⟩ | ⟨members, t, -, rfl, hfound, -⟩ := readValueWith_eq_ok hwith
  · exact ⟨rest, hfound, .inl rfl⟩
  · exact ⟨t, hfound, .inr (.inl rfl)⟩
  · exact ⟨t, hfound, .inr (.inr rfl)⟩

namespace Codec

/-- Reading a scalar follows the value, whatever the value is. -/
theorem follows_scalar
    {accept : Found → Except Mismatch α}
    (hlist : ∀ x, accept .list ≠ .ok x)
    (hmap : ∀ x, accept .map ≠ .ok x)
    (v : Json) :
    Follows (scalar accept).read (scalar accept).ofJson v := by
  intro levels s rest h x rest'
  obtain ⟨t, hfound, hrest⟩ := readFound_of_readValue h
  simp only [scalar, readScalar, hfound]
  cases haccept : accept (found v) with
  | error m => simp
  | ok y =>
      have ht : t = rest := by
        rcases hrest with ht | hkind | hkind
        · exact ht
        · exact absurd (hkind ▸ haccept) (hlist y)
        · exact absurd (hkind ▸ haccept) (hmap y)
      simp [ht, eq_comm]

theorem follows_text
    (expected : String)
    (v : Json) :
    Follows (text expected).read (text expected).ofJson v :=
  follows_scalar (fun x hx => by cases hx) (fun x hx => by cases hx) v

theorem follows_bool (v : Json) :
    Follows bool.read bool.ofJson v :=
  follows_scalar (fun x hx => by cases hx) (fun x hx => by cases hx) v

/-- Only a null starts with its letter. -/
theorem readFound_null_or_not
    {kind : Found}
    (h : readFound s = .ok (kind, rest)) :
    (∃ t, skipSpace s = 'n' :: t ∧ readWord ['u', 'l', 'l'] t = .ok rest ∧ kind = .null) ∨
      (∀ t, skipSpace s ≠ 'n' :: t) ∧ kind ≠ .null := by
  by_cases hn : ∃ t, skipSpace s = 'n' :: t
  · obtain ⟨t, ht⟩ := hn
    simp only [readFound, ht, finishWord] at h
    split at h
    · cases h
    · next hword =>
        cases h
        exact .inl ⟨t, ht, hword, rfl⟩
  · refine .inr ⟨fun t ht => hn ⟨t, ht⟩, ?_⟩
    rintro rfl
    obtain ⟨v, hvalue, hfits⟩ | ⟨_, _, _, _, hopen⟩ := readFound_eq_ok h
    · cases hfits
      cases hvalue with
      | null hgap => exact hn ⟨_, skipSpace_gap _ hgap rfl⟩
    · simp at hopen

/-- Reading what may be null follows the value if reading the rest does. -/
theorem follows_optional
    {c : Codec α}
    {v : Json}
    (h : Follows c.read c.ofJson v) :
    Follows c.optional.read c.optional.ofJson v := by
  intro levels s rest hvalue x rest'
  obtain ⟨t, hfound, hrest⟩ := readFound_of_readValue hvalue
  obtain ⟨tail, hskip, hword, hkind⟩ | ⟨hstart, hkind⟩ := readFound_null_or_not hfound
  · cases v with
    | null =>
        have ht : t = rest := by simpa [found] using hrest
        simp only [optional, hskip, hword]
        simp [ht, eq_comm]
    | bool b => cases hkind
    | number n => cases hkind
    | string s => cases hkind
    | array items => cases hkind
    | object members => cases hkind
  · have hjson : c.optional.ofJson v = (c.ofJson v).map some := by
      simp only [optional]
      split
      · exact absurd rfl hkind
      · rfl
    -- The text does not start like a null, so the reader for the rest is asked.
    have hread : c.optional.read s =
        (c.read (skipSpace s)).map fun outcome => (some outcome.1, outcome.2) := by
      simp only [optional]
      cases c.read (skipSpace s) with
      | error e => rfl
      | ok outcome => rfl
    rw [hread, hjson]
    exact map_eq_ok_iff some (h levels (skipSpace s) rest (readValue_skipSpace.trans hvalue)) x rest'

/-- A text that is found starts with its quote. -/
theorem skipSpace_of_readFound_text
    {name : String}
    (h : readFound s = .ok (.text name, rest)) :
    ∃ t, skipSpace s = '"' :: t := by
  obtain ⟨v, hvalue, hfits⟩ | ⟨_, _, _, _, hopen⟩ := readFound_eq_ok h
  · cases hfits
    cases hvalue with
    | string hgap _ => exact ⟨_, skipSpace_gap _ hgap rfl⟩
  · simp at hopen

/-- Reading a choice by its name follows the value. -/
theorem follows_choice
    (choices : List (String × α))
    (name : String) :
    Follows (choice choices).read (choice choices).ofJson (.string name) := by
  intro levels s rest h x rest'
  obtain ⟨t, hfound, hrest⟩ := readFound_of_readValue h
  have ht : t = rest := by simpa [found] using hrest
  subst ht
  obtain ⟨tail, hskip⟩ := skipSpace_of_readFound_text hfound
  have hnamed : readFound ('"' :: tail) = .ok (.text name, t) := by
    rw [← hskip, readFound_skipSpace, hfound, found]
  simp only [choice, hskip, if_pos, readScalar, hnamed]
  cases choose choices name with
  | error m => simp
  | ok y => simp [eq_comm]

end Codec

/-- Reading a field follows the value if its codec does. -/
theorem Field.follows_of
    {β : Type}
    {name : String}
    {required : Bool}
    {codec : Codec β}
    {store : β → α → α}
    {v : Json}
    (h : Follows codec.read codec.ofJson v) :
    Follows (Field.of name required codec store).read (Field.of name required codec store).ofJson v := by
  intro levels s rest hvalue x rest'
  have hread : (Field.of name required codec store).read s =
      (codec.read s).map fun outcome => (store outcome.1, outcome.2) := by
    simp only [Field.of]
    cases codec.read s with
    | error e => rfl
    | ok outcome => rfl
  rw [hread]
  exact map_eq_ok_iff store (h levels s rest hvalue) x rest'

namespace Shape

variable {shape : Shape α}

/-- The members of an object of a closed shape are read as they are taken one by one, if that is so of the
values of the known ones. -/
theorem readFieldsFrom_eq_ok_iff
    {first : Bool}
    {members : List (String × Json)}
    (hclosed : shape.closed = true)
    (hmembers : MembersRead (readValue levels) first s members rest)
    (hfollows : ∀ m ∈ members, ∀ f, shape.field? m.1 = some f → Follows f.read f.ofJson m.2)
    {fuel : Nat}
    (hfuel : members.length < fuel)
    (given : List String)
    (a x : α)
    (rest' : List Char) :
    shape.readFieldsFrom fuel first given a s = .ok (x, rest') ↔
      shape.ofMembers given a members = .ok x ∧ rest' = rest := by
  induction hmembers generalizing fuel given a with
  | close hclose =>
      obtain ⟨fuel, rfl⟩ := Nat.exists_eq_add_one_of_ne_zero (Nat.ne_of_gt hfuel)
      simp only [readFieldsFrom, hclose, ofMembers]
      cases shape.missing? given with
      | some name => simp
      | none => simp [eq_comm]
  | @member first s t t' u u' rest name v members hentry hname hcolon hvalue hmembers ih =>
      rw [List.length_cons] at hfuel
      obtain ⟨fuel, rfl⟩ := Nat.exists_eq_add_one_of_ne_zero (show fuel ≠ 0 by omega)
      rw [List.forall_mem_cons] at hfollows
      simp only [readFieldsFrom, hentry, hname, ofMembers]
      cases hfield : shape.field? name with
      | none => simp [hclosed]
      | some f =>
          by_cases hgiven : name ∈ given
          · simp [hgiven]
          · have hread := hfollows.1 f hfield levels u u' hvalue
            simp only [List.contains_iff_mem, hgiven, if_false, hcolon]
            cases hmade : f.ofJson v with
            | error m =>
                cases hstraight : f.read u with
                | error e => simp
                | ok outcome =>
                    obtain ⟨hok, -⟩ := (hread outcome.1 outcome.2).1 hstraight
                    rw [hmade] at hok
                    cases hok
            | ok store =>
                rw [(hread store u').2 ⟨hmade, rfl⟩]
                exact ih hfollows.2 (by omega) (name :: given) (store a)

/-- Reading an object of a closed shape follows the value, if that is so of the values of the known members. -/
theorem follows_codec
    {members : List (String × Json)}
    (hclosed : shape.closed = true)
    (hfollows : ∀ m ∈ members, ∀ f, shape.field? m.1 = some f → Follows f.read f.ofJson m.2) :
    Follows shape.codec.read shape.codec.ofJson (.object members) := by
  intro levels s rest h x rest'
  obtain ⟨inner, hwith, hinner⟩ := exists_readValueWith_of_readValue h
  obtain ⟨-, hmap⟩ | ⟨items, t, hv, -⟩ | ⟨members', t, read, hv, hfound, hsome, hread⟩ :=
    readValueWith_eq_ok hwith
  · exact absurd rfl hmap
  · cases hv
  · cases hv
    obtain ⟨below, rfl⟩ := hinner read hsome
    obtain ⟨gap, tail, -, rfl, -⟩ := exists_gap_of_readFound_map hfound
    obtain ⟨all, hall, hlength, hmembers⟩ := membersRead_of_readMembersFrom hread
    rw [List.reverse_nil, List.nil_append] at hall
    subst hall
    simp only [codec, hfound]
    refine readFieldsFrom_eq_ok_iff hclosed hmembers hfollows ?_ [] shape.blank x rest'
    rw [List.tail_cons] at hlength
    rw [List.length_cons]
    omega

end Shape

/-- A document that can be read as a value is read straight away as what is made of the value. -/
theorem Codec.parse_eq_ok_iff
    {c : Codec α}
    {document : String}
    {v : Json}
    (hfollows : Follows c.read c.ofJson v)
    (hparse : Json.parse document = .ok v)
    (x : α) :
    c.parse document = .ok x ↔ c.ofJson v = .ok x := by
  obtain ⟨rest, hvalue, hend⟩ := readDocument_eq_ok_iff.1 hparse
  have hread := hfollows greatestDepth document.toList rest hvalue x
  rw [parse, readDocument_eq_ok_iff]
  constructor
  · rintro ⟨rest', hok, -⟩
    exact ((hread rest').1 hok).1
  · intro hok
    exact ⟨rest, (hread rest).2 ⟨hok, rfl⟩, hend⟩

end Json
end Keyring
