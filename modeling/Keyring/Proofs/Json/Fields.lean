import Mathlib.Data.List.Pairwise
import Keyring.Proofs.Json.Conformance

/-!
# What readers of a fixed shape accept

The fields of a shape are described by rules, of which each says what the values of its field mean for the
part of the result that the field stores.  If no field stores the part of another, an object that is read
has each field at most once, and each part of the result is what the field means or, if there is no such
member, what it is in the blank result.  Members that no rule names are values of the grammar and otherwise
free.  A list may stand in the place of an object, with the fields in their own order.

The loop over the members is described by what one round does (`Shape.readFieldsFrom_succ_eq_ok`), by what
a member keeps of what is known (`Progress.step`), and by induction for all members
(`Shape.readFieldsFrom_eq_ok`).
-/

namespace Keyring
namespace Json

variable {s rest : List Char} {α : Type}

/-- A field of a shape, and what its values mean for the part of the result that it stores. -/
structure Rule (α : Type) where
  {β : Type}
  name : String
  required : Bool
  codec : Codec β
  store : β → α → α
  part : α → β
  means : Tree → β → Prop
  conforms : codec.Conforms means
  part_store : ∀ x a, part (store x a) = x

namespace Rule

/-- The field that a rule is about. -/
def field (r : Rule α) : Field α :=
  .of r.name r.required r.codec r.store

/-- Whether two rules are about different fields, of which neither stores the part of the other. -/
structure Apart (r r' : Rule α) : Prop where
  name : r.name ≠ r'.name
  left : ∀ x a, r.part (r'.store x a) = r.part a
  right : ∀ x a, r'.part (r.store x a) = r'.part a

/-- Whether a result has read the field of a rule from the given members: there is at most one of that name,
and if there is none the part is that of the blank result. -/
structure Holds
    (r : Rule α)
    (blank : α)
    (members : List (String × Tree))
    (a : α) : Prop where
  once : (members.map Prod.fst).count r.name ≤ 1
  means : ∀ v, (r.name, v) ∈ members → r.means v (r.part a)
  absent : r.name ∉ members.map Prod.fst → r.part a = r.part blank

variable {r r' : Rule α} {blank a : α} {members : List (String × Tree)}

theorem holds_nil :
    r.Holds blank [] blank :=
  ⟨Nat.zero_le 1, fun _ hv => absurd hv List.not_mem_nil, fun _ => rfl⟩

/-- A member of another name that leaves the part as it is changes nothing. -/
theorem Holds.other
    {a' : α}
    {name : String}
    {v : Tree}
    (h : r.Holds blank members a)
    (hname : name ≠ r.name)
    (hpart : r.part a' = r.part a) :
    r.Holds blank (members ++ [(name, v)]) a' where
  once := by
    rw [List.map_append, List.count_append]
    simpa [hname] using h.once
  means := by
    intro w hw
    rw [hpart]
    rcases List.mem_append.1 hw with hold | hnew
    · exact h.means w hold
    · rw [List.mem_singleton, Prod.mk.injEq] at hnew
      exact absurd hnew.1.symm hname
  absent := by
    intro habsent
    rw [hpart]
    refine h.absent fun hmem => habsent ?_
    rw [List.map_append]
    exact List.mem_append_left _ hmem

/-- The first member of that name is read as what it means. -/
theorem holds_append_self
    {v : Tree}
    {x : r.β}
    (habsent : r.name ∉ members.map Prod.fst)
    (hv : r.means v x) :
    r.Holds blank (members ++ [(r.name, v)]) (r.store x a) where
  once := by
    rw [List.map_append, List.count_append, List.count_eq_zero_of_not_mem habsent]
    simp
  means := by
    intro w hw
    rw [r.part_store]
    rcases List.mem_append.1 hw with hold | hnew
    · exact absurd (List.mem_map_of_mem hold) habsent
    · rw [List.mem_singleton, Prod.mk.injEq] at hnew
      rw [hnew.2]
      exact hv
  absent := by
    intro hmem
    exact absurd (by simp) hmem

end Rule

section Objects

theorem nextKey_eq_close
    {first : Bool}
    (h : nextKey first s = .ok (.close rest)) :
    ∃ gap, Blank gap ∧ s = gap ++ '\x7d' :: rest := by
  obtain ⟨gap, hgap, hs⟩ := exists_blank_append_skipSpace s
  unfold nextKey at h
  split at h
  · cases h
  · next c tail hskip =>
      rw [hskip] at hs
      split at h
      · next hc =>
          cases h
          exact ⟨gap, hgap, by rw [hs, hc]⟩
      · split at h
        · split at h
          · cases h
          · cases h
        · split at h
          · split at h
            · cases h
            · split at h
              · cases h
              · split at h
                · cases h
                · cases h
          · cases h

theorem nextKey_eq_entry
    {first : Bool}
    (h : nextKey first s = .ok (.entry rest)) :
    ∃ gap gap', Blank gap ∧ Blank gap' ∧ s = gap ++ (comma first ++ (gap' ++ '"' :: rest)) := by
  obtain ⟨gap, hgap, hs⟩ := exists_blank_append_skipSpace s
  unfold nextKey at h
  split at h
  · cases h
  · next c tail hskip =>
      rw [hskip] at hs
      split at h
      · cases h
      · split at h
        · next hfirst =>
            split at h
            · next hc =>
                cases h
                rw [hfirst]
                exact ⟨gap, [], hgap, blank_nil, by rw [hs, hc]; rfl⟩
            · cases h
        · next hfirst =>
            rw [Bool.not_eq_true] at hfirst
            split at h
            · next hc =>
                obtain ⟨gap', hgap', htail⟩ := exists_blank_append_skipSpace tail
                split at h
                · cases h
                · next d tail' hskip' =>
                    rw [hskip'] at htail
                    split at h
                    · next hd =>
                        cases h
                        rw [hfirst]
                        exact ⟨gap, gap', hgap, hgap', by rw [hs, hc, htail, hd]; rfl⟩
                    · split at h
                      · cases h
                      · cases h
            · cases h

/-- A member that is read has a name that stands for a text, and the further members follow its value. -/
theorem exists_member
    {first : Bool}
    {tail tail' t rest' : List Char}
    {name : String}
    {v : Tree}
    {written : List (List Char × Tree)}
    (hentry : nextKey first s = .ok (.entry tail))
    (hname : readString tail = .ok (name, tail'))
    (hcolon : readColon tail' = .ok t)
    (hvalue : Value t v rest')
    (hmembers : Members false rest' written rest) :
    ∃ text, Unescapes text name.toList ∧ Members first s ((text, v) :: written) rest := by
  obtain ⟨gap, gap', hgap, hgap', rfl⟩ := nextKey_eq_entry hentry
  obtain ⟨text, rfl, htext⟩ := readString_eq_ok hname
  obtain ⟨gap'', hgap'', rfl⟩ := readColon_eq_ok hcolon
  exact ⟨text, htext, .member hgap hgap' htext.inside hgap'' hvalue hmembers⟩

theorem Rule.read_field_eq_ok
    {r : Rule α}
    {store : α → α}
    (h : r.field.read s = .ok (store, rest)) :
    ∃ v x, Value s v rest ∧ r.means v x ∧ store = r.store x := by
  simp only [field, Field.of] at h
  split at h
  · cases h
  · next x tail hread =>
      cases h
      obtain ⟨v, hvalue, hmeans⟩ := r.conforms _ _ _ hread
      exact ⟨v, x, hvalue, hmeans, rfl⟩

instance : Std.Symm (Rule.Apart (α := α)) where
  symm _ _ h := ⟨h.name.symm, h.right, h.left⟩

variable {shape : Shape α} {rules : List (Rule α)}

/-- A field that is found is one of the fields and has the name. -/
theorem mem_of_field?
    {name : String}
    {f : Field α}
    (h : shape.field? name = some f) :
    f ∈ shape.fields ∧ f.name = name := by
  have hname := List.find?_some h
  exact ⟨List.mem_of_find?_eq_some h, beq_iff_eq.1 hname⟩

theorem exists_rule_of_field?
    {name : String}
    {f : Field α}
    (hfields : shape.fields = rules.map Rule.field)
    (h : shape.field? name = some f) :
    ∃ r ∈ rules, r.field = f ∧ r.name = name := by
  obtain ⟨hmem, hname⟩ := mem_of_field? h
  rw [hfields] at hmem
  obtain ⟨r, hr, rfl⟩ := List.mem_map.1 hmem
  exact ⟨r, hr, rfl, hname⟩

theorem ne_of_field?_eq_none
    {name : String}
    {r : Rule α}
    (hfields : shape.fields = rules.map Rule.field)
    (h : shape.field? name = none)
    (hr : r ∈ rules) :
    name ≠ r.name := by
  rintro rfl
  have hmem : r.field ∈ shape.fields := by
    rw [hfields]
    exact List.mem_map_of_mem hr
  have hnone := List.find?_eq_none.1 h r.field hmem
  exact hnone (by simp [Rule.field, Field.of])

theorem mem_of_missing?_eq_none
    {given : List String}
    {r : Rule α}
    (hfields : shape.fields = rules.map Rule.field)
    (h : shape.missing? given = none)
    (hr : r ∈ rules)
    (hrequired : r.required = true) :
    r.name ∈ given := by
  have hmem : r.field ∈ shape.fields := by
    rw [hfields]
    exact List.mem_map_of_mem hr
  have hnone := List.find?_eq_none.1 (Option.map_eq_none_iff.1 h) r.field hmem
  by_contra habsent
  exact hnone (by simp [Rule.field, Field.of, hrequired, habsent])

/-- What one member does to the names given so far and to the result. -/
inductive Reads
    (rules : List (Rule α))
    (given : List String)
    (a : α)
    (name : String)
    (v : Tree) :
    List String → α → Prop
  | unknown
      (hname : ∀ r ∈ rules, name ≠ r.name) :
      Reads rules given a name v given a
  | known
      {r : Rule α}
      {x : r.β}
      (hr : r ∈ rules)
      (hname : r.name = name)
      (hnew : name ∉ given)
      (hmeans : r.means v x) :
      Reads rules given a name v (name :: given) (r.store x a)

/-- A round of the reader finds the closing brace, or reads one member and goes on behind it. -/
theorem Shape.readFieldsFrom_succ_eq_ok
    {fuel : Nat}
    {first : Bool}
    {given : List String}
    {a x : α}
    (hfields : shape.fields = rules.map Rule.field)
    (h : shape.readFieldsFrom (fuel + 1) first given a s = .ok (x, rest)) :
    (shape.missing? given = none ∧ x = a ∧ Members first s [] rest) ∨
      ∃ name v given' a' rest', Reads rules given a name v given' a' ∧
        shape.readFieldsFrom fuel false given' a' rest' = .ok (x, rest) ∧
        ∀ written, Members false rest' written rest →
          ∃ text, Unescapes text name.toList ∧ Members first s ((text, v) :: written) rest := by
  unfold readFieldsFrom at h
  split at h
  · cases h
  · next tail hclose =>
      split at h
      · cases h
      · next hmissing =>
          cases h
          obtain ⟨gap, hgap, rfl⟩ := nextKey_eq_close hclose
          exact .inl ⟨hmissing, rfl, .close hgap⟩
  · next tail hentry =>
      right
      split at h
      · cases h
      · next name tail' hname =>
          split at h
          · next hunknown =>
              split at h
              · cases h
              · split at h
                · cases h
                · next t hcolon =>
                    split at h
                    · cases h
                    · next rest' hskip =>
                        obtain ⟨v, hvalue⟩ := skipValue_eq_ok hskip
                        have hreads : Reads rules given a name v given a :=
                          .unknown fun r hr => ne_of_field?_eq_none hfields hunknown hr
                        exact ⟨name, v, given, a, rest', hreads, h,
                          fun written hmembers => exists_member hentry hname hcolon hvalue hmembers⟩
          · next f hknown =>
              split at h
              · cases h
              · next hnew =>
                  split at h
                  · cases h
                  · next t hcolon =>
                      split at h
                      · cases h
                      · next store rest' hread =>
                          obtain ⟨r, hr, rfl, hrname⟩ := exists_rule_of_field? hfields hknown
                          obtain ⟨v, y, hvalue, hmeans, rfl⟩ := Rule.read_field_eq_ok hread
                          have hreads : Reads rules given a name v (name :: given) (r.store y a) :=
                            .known hr hrname (by simpa using hnew) hmeans
                          exact ⟨name, v, _, _, rest', hreads, h,
                            fun written hmembers => exists_member hentry hname hcolon hvalue hmembers⟩

/-- What is known of the result after some members: the names given are those of the rules among them, and
each rule holds. -/
structure Progress
    (rules : List (Rule α))
    (blank : α)
    (given : List String)
    (members : List (String × Tree))
    (a : α) : Prop where
  given : ∀ r ∈ rules, r.name ∈ given ↔ r.name ∈ members.map Prod.fst
  holds : ∀ r ∈ rules, r.Holds blank members a

/-- One more member keeps what is known. -/
theorem Progress.step
    {given given' : List String}
    {members : List (String × Tree)}
    {name : String}
    {v : Tree}
    {blank a a' : α}
    (hapart : rules.Pairwise Rule.Apart)
    (hprogress : Progress rules blank given members a)
    (hreads : Reads rules given a name v given' a') :
    Progress rules blank given' (members ++ [(name, v)]) a' := by
  cases hreads with
  | unknown hname =>
      constructor
      · intro r hr
        have hne : r.name ≠ name := (hname r hr).symm
        simp only [hprogress.given r hr, List.map_append, List.map_cons, List.map_nil, List.mem_append,
          List.mem_singleton, hne, or_false]
      · intro r hr
        exact (hprogress.holds r hr).other (hname r hr) rfl
  | @known r x hr hname hnew hmeans =>
      subst hname
      have habsent : r.name ∉ members.map Prod.fst := fun hmem => hnew ((hprogress.given r hr).2 hmem)
      constructor
      · intro r' hr'
        rw [List.mem_cons, hprogress.given r' hr', List.map_append, List.mem_append, List.map_cons,
          List.map_nil, List.mem_singleton]
        exact Or.comm
      · intro r' hr'
        by_cases hsame : r' = r
        · subst hsame
          exact Rule.holds_append_self habsent hmeans
        · have hne := hapart.forall hr' hr hsame
          exact (hprogress.holds r' hr').other hne.name.symm (hne.left x a)

/-- The members that are read are those of the grammar, and in the end all of them are known. -/
theorem Shape.readFieldsFrom_eq_ok
    {fuel : Nat}
    {first : Bool}
    {given : List String}
    {before : List (String × Tree)}
    {a x : α}
    (hfields : shape.fields = rules.map Rule.field)
    (hapart : rules.Pairwise Rule.Apart)
    (hprogress : Progress rules shape.blank given before a)
    (h : shape.readFieldsFrom fuel first given a s = .ok (x, rest)) :
    ∃ written members, Members first s written rest ∧
      List.Forall₂ (fun w m => Unescapes w.1 m.1.toList ∧ w.2 = m.2) written members ∧
      (∀ r ∈ rules, r.Holds shape.blank (before ++ members) x) ∧
      ∀ r ∈ rules, r.required = true → r.name ∈ (before ++ members).map Prod.fst := by
  induction fuel generalizing first given before a s with
  | zero => cases h
  | succ fuel ih =>
      obtain ⟨hmissing, rfl, hclose⟩ | ⟨name, v, given', a', rest', hreads, hrun, hmember⟩ :=
        readFieldsFrom_succ_eq_ok hfields h
      · refine ⟨[], [], hclose, .nil, ?_, ?_⟩
        · rw [List.append_nil]
          exact hprogress.holds
        · rw [List.append_nil]
          intro r hr hrequired
          exact (hprogress.given r hr).1 (mem_of_missing?_eq_none hfields hmissing hr hrequired)
      · obtain ⟨written, members, hmembers, hsame, hholds, hrequired⟩ :=
          ih (hprogress.step hapart hreads) hrun
        obtain ⟨text, htext, hall⟩ := hmember written hmembers
        rw [List.append_assoc, List.singleton_append] at hholds hrequired
        refine ⟨(text, v) :: written, (name, v) :: members, hall, ?_, hholds, hrequired⟩
        exact .cons ⟨htext, rfl⟩ hsame

end Objects

section Slots

/-- Whether a result has read its fields from the items of a list, in the order of the rules.  Only fields
that are not required may have no item. -/
inductive Slots (blank x : α) : List (Rule α) → List Tree → Prop
  | done
      {rules : List (Rule α)}
      (hrules : ∀ r ∈ rules, r.required = false ∧ r.part x = r.part blank) :
      Slots blank x rules []
  | slot
      {r : Rule α}
      {rules : List (Rule α)}
      {v : Tree}
      {items : List Tree}
      (hv : r.means v (r.part x))
      (hrest : Slots blank x rules items) :
      Slots blank x (r :: rules) (v :: items)

/-- As long as a required field is to come, there is an item. -/
theorem Slots.exists_item
    {blank x : α}
    {r : Rule α}
    {rules : List (Rule α)}
    {items : List Tree}
    (h : Slots blank x (r :: rules) items)
    (hrequired : ∃ r' ∈ r :: rules, r'.required = true) :
    ∃ v items', items = v :: items' ∧ r.means v (r.part x) ∧ Slots blank x rules items' := by
  cases h with
  | done hrules =>
      obtain ⟨r', hr', hrequired⟩ := hrequired
      rw [(hrules r' hr').1] at hrequired
      cases hrequired
  | slot hv hrest => exact ⟨_, _, rfl, hv, hrest⟩

theorem leaveList_eq_ok
    {a x : α}
    (h : Shape.leaveList a s = .ok (x, rest)) :
    x = a ∧ ∃ gap, Blank gap ∧ s = gap ++ ']' :: rest := by
  obtain ⟨gap, hgap, hs⟩ := exists_blank_append_skipSpace s
  unfold Shape.leaveList at h
  split at h
  · cases h
  · next c tail hskip =>
      split at h
      · next hc =>
          cases h
          exact ⟨rfl, gap, hgap, by rw [hs, hskip, hc]⟩
      · split at h
        · split at h
          · cases h
          · cases h
        · cases h

/-- The items that are read are those of the grammar, and each field is read from its own item.  Parts that
no rule stores stay as they are. -/
theorem Shape.readSlotsFrom_eq_ok
    {shape : Shape α}
    {rules : List (Rule α)}
    {index : Nat}
    {blank a x : α}
    (hapart : rules.Pairwise Rule.Apart)
    (hblank : ∀ r ∈ rules, r.part a = r.part blank)
    (h : shape.readSlotsFrom (rules.map Rule.field) index a s = .ok (x, rest)) :
    ∃ items, Items (index == 0) s items rest ∧ Slots blank x rules items ∧
      ∀ r : Rule α, (∀ r' ∈ rules, r.Apart r') → r.part x = r.part a := by
  induction rules generalizing index a s with
  | nil =>
      obtain ⟨rfl, gap, hgap, rfl⟩ := leaveList_eq_ok h
      exact ⟨[], .close hgap, .done fun r hr => absurd hr List.not_mem_nil, fun r _ => rfl⟩
  | cons r rules ih =>
      rw [List.pairwise_cons] at hapart
      rw [List.forall_mem_cons] at hblank
      rw [List.map_cons] at h
      unfold readSlotsFrom at h
      split at h
      · cases h
      · next tail hclose =>
          obtain ⟨gap, hgap, rfl⟩ := nextItem_eq_close hclose
          split at h
          · cases h
          · next hoptional =>
              cases h
              rw [List.findIdx?_eq_none_iff] at hoptional
              refine ⟨[], .close hgap, .done fun r' hr' => ⟨?_, ?_⟩, fun _ _ => rfl⟩
              · rw [← List.map_cons] at hoptional
                exact hoptional r'.field (List.mem_map_of_mem hr')
              · rcases List.mem_cons.1 hr' with rfl | hr'
                · exact hblank.1
                · exact hblank.2 r' hr'
      · next tail hentry =>
          obtain ⟨gap, gap', hgap, hgap', rfl⟩ := nextItem_eq_entry hentry
          split at h
          · cases h
          · next store tail' hread =>
              obtain ⟨v, y, hvalue, hmeans, rfl⟩ := Rule.read_field_eq_ok hread
              have hblank' : ∀ r' ∈ rules, r'.part (r.store y a) = r'.part blank := by
                intro r' hr'
                rw [(hapart.1 r' hr').right y a, hblank.2 r' hr']
              obtain ⟨items, hitems, hslots, hkept⟩ := ih hapart.2 hblank' h
              change Items false _ _ _ at hitems
              refine ⟨v :: items, .item hgap (hvalue.behind hgap') hitems, .slot ?_ hslots, ?_⟩
              · rw [hkept r hapart.1, r.part_store]
                exact hmeans
              · intro r' hr'
                rw [hkept r' fun r'' hr'' => hr' r'' (List.mem_cons_of_mem r hr'')]
                exact (hr' r List.mem_cons_self).left y a

end Slots

/-- What a value of a shape means.  An object has the fields as members, a list as items. -/
inductive Means (rules : List (Rule α)) (blank : α) : Tree → α → Prop
  | object
      {v : Tree}
      {members : List (String × Tree)}
      {x : α}
      (hmembers : v.HasMembers members)
      (hholds : ∀ r ∈ rules, r.Holds blank members x)
      (hrequired : ∀ r ∈ rules, r.required = true → r.name ∈ members.map Prod.fst) :
      Means rules blank v x
  | list
      {items : List Tree}
      {x : α}
      (hslots : Slots blank x rules items) :
      Means rules blank (.array items) x

/-- The codec of a shape conforms to its rules. -/
theorem Shape.conforms_codec
    {shape : Shape α}
    {rules : List (Rule α)}
    (hfields : shape.fields = rules.map Rule.field)
    (hapart : rules.Pairwise Rule.Apart) :
    shape.codec.Conforms (Means rules shape.blank) := by
  intro s x rest h
  simp only [codec] at h
  split at h
  · cases h
  · next tail hfound =>
      obtain ⟨gap, tail, hgap, rfl, rfl⟩ := exists_gap_of_readFound_map hfound
      have hstart : Progress rules shape.blank [] [] shape.blank :=
        ⟨fun _ _ => Iff.rfl, fun _ _ => Rule.holds_nil⟩
      obtain ⟨written, members, hmembers, hsame, hholds, hrequired⟩ :=
        readFieldsFrom_eq_ok hfields hapart hstart h
      refine ⟨.object written, .object hgap hmembers, ?_⟩
      exact .object ⟨written, rfl, hsame⟩ hholds hrequired
  · next tail hfound =>
      obtain ⟨gap, tail, hgap, rfl, rfl⟩ := exists_gap_of_readFound_list hfound
      rw [hfields] at h
      obtain ⟨items, hitems, hslots, -⟩ := readSlotsFrom_eq_ok hapart (fun _ _ => rfl) h
      exact ⟨.array items, .array hgap hitems, .list hslots⟩
  · cases h

namespace Tree

/-- Whether a value is a text. -/
def IsText (v : Tree) : Prop :=
  ∃ s, v.Says s

/-- Whether a value is a text or null. -/
def IsTextOrNull (v : Tree) : Prop :=
  v = .null ∨ v.IsText

/-- Whether a value is a list of values of a kind. -/
def IsListOf
    (kind : Tree → Prop)
    (v : Tree) : Prop :=
  ∃ items, v = .array items ∧ ∀ item ∈ items, kind item

end Tree

/-- Whether members hold a field at most once, with a value of a kind, and hold it if it is required. -/
structure HasField
    (members : List (String × Tree))
    (name : String)
    (required : Bool)
    (kind : Tree → Prop) : Prop where
  once : (members.map Prod.fst).count name ≤ 1
  kind : ∀ v, (name, v) ∈ members → kind v
  given : required = true → name ∈ members.map Prod.fst

theorem Rule.Holds.hasField
    {α : Type}
    {r : Rule α}
    {blank x : α}
    {members : List (String × Tree)}
    {kind : Tree → Prop}
    (h : r.Holds blank members x)
    (hgiven : r.required = true → r.name ∈ members.map Prod.fst)
    (hkind : ∀ v, r.means v (r.part x) → kind v) :
    HasField members r.name r.required kind :=
  ⟨h.once, fun v hv => hkind v (h.means v hv), hgiven⟩

end Json
end Keyring
