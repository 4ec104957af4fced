import Keyring.Proofs.Json.Passing

/-!
# What readers accept

A codec conforms to a meaning if it only reads values of the grammar and what it makes of a value is what
the value means.  Scalars, options and lists conform as their parts do, and a document that is read by a
codec that conforms is a document of the grammar.
-/

namespace Keyring
namespace Json

variable {s rest : List Char}

section Found

/-- How the kind that is found fits a scalar. -/
inductive Fits : Found → Tree → Prop
  | null :
      Fits .null .null
  | bool
      (b : Bool) :
      Fits (.bool b) (.bool b)
  | number
      {n : Number}
      {text : List Char}
      (hcounts : ∀ k : Nat, n = .int k → (Tree.number text).Counts k) :
      Fits (.number n) (.number text)
  | text
      {t : String}
      {text : List Char}
      (htext : Unescapes text t.toList) :
      Fits (.text t) (.string text)

theorem finishWord_eq_ok
    {kind kind' : Found}
    {word : List Char}
    (h : finishWord kind word s = .ok (kind', rest)) :
    kind' = kind ∧ s = word ++ rest := by
  unfold finishWord at h
  split at h
  · cases h
  · next tail hword =>
      cases h
      exact ⟨rfl, readWord_eq_ok hword⟩

/-- What is found is a scalar of the grammar, or a bracket that is left unread. -/
theorem readFound_eq_ok
    {kind : Found}
    (h : readFound s = .ok (kind, rest)) :
    (∃ v, Value s v rest ∧ Fits kind v) ∨
      ∃ gap tail, Blank gap ∧ s = gap ++ rest ∧
        ((kind = .list ∧ rest = '[' :: tail) ∨ (kind = .map ∧ rest = '\x7b' :: tail)) := by
  obtain ⟨gap, hgap, hs⟩ := exists_blank_append_skipSpace s
  unfold readFound at h
  split at h
  · cases h
  · next c tail hskip =>
      rw [hskip] at hs
      subst hs
      split at h
      · obtain ⟨rfl, rfl⟩ := finishWord_eq_ok h
        exact .inl ⟨.null, .null hgap, .null⟩
      · obtain ⟨rfl, rfl⟩ := finishWord_eq_ok h
        exact .inl ⟨.bool true, .true hgap, .bool true⟩
      · obtain ⟨rfl, rfl⟩ := finishWord_eq_ok h
        exact .inl ⟨.bool false, .false hgap, .bool false⟩
      · split at h
        · cases h
        · next t tail' hstring =>
            cases h
            obtain ⟨text, rfl, htext⟩ := readString_eq_ok hstring
            exact .inl ⟨.string text, .string hgap htext.inside, .text htext⟩
      · cases h
        exact .inr ⟨gap, tail, hgap, rfl, .inl ⟨rfl, rfl⟩⟩
      · cases h
        exact .inr ⟨gap, tail, hgap, rfl, .inr ⟨rfl, rfl⟩⟩
      · split at h
        · cases h
        · next n tail' hnumber =>
            cases h
            obtain ⟨text, rfl, htext, hcounts⟩ := readNumber_eq_ok hnumber
            refine .inl ⟨.number ('-' :: text), .number hgap (.negative htext), .number ?_⟩
            intro k hk
            obtain ⟨hsign, -⟩ := hcounts k hk
            cases hsign
      · split at h
        · split at h
          · cases h
          · next n tail' hnumber =>
              cases h
              obtain ⟨text, hsplit, htext, hcounts⟩ := readNumber_eq_ok hnumber
              rw [hsplit]
              refine .inl ⟨.number text, .number hgap (.unsigned htext), .number ?_⟩
              intro k hk
              obtain ⟨-, hwhole, hvalue⟩ := hcounts k hk
              exact ⟨text, rfl, hwhole, hvalue⟩
        · cases h

theorem exists_gap_of_readFound_list
    (h : readFound s = .ok (.list, rest)) :
    ∃ gap tail, Blank gap ∧ rest = '[' :: tail ∧ s = gap ++ rest := by
  obtain ⟨v, -, hfits⟩ | ⟨gap, tail, hgap, hs, hopen⟩ := readFound_eq_ok h
  · cases hfits
  · obtain ⟨-, hrest⟩ | ⟨hkind, -⟩ := hopen
    · exact ⟨gap, tail, hgap, hrest, hs⟩
    · cases hkind

theorem exists_gap_of_readFound_map
    (h : readFound s = .ok (.map, rest)) :
    ∃ gap tail, Blank gap ∧ rest = '\x7b' :: tail ∧ s = gap ++ rest := by
  obtain ⟨v, -, hfits⟩ | ⟨gap, tail, hgap, hs, hopen⟩ := readFound_eq_ok h
  · cases hfits
  · obtain ⟨hkind, -⟩ | ⟨-, hrest⟩ := hopen
    · cases hkind
    · exact ⟨gap, tail, hgap, hrest, hs⟩

end Found

/-- Whether a codec only reads values of the grammar and makes of them what they mean. -/
def Codec.Conforms
    {α : Type}
    (c : Codec α)
    (means : Tree → α → Prop) : Prop :=
  ∀ s x rest, c.read s = .ok (x, rest) → ∃ v, Value s v rest ∧ means v x

/-- What a value means that may also be null. -/
inductive Optional
    {α : Type}
    (means : Tree → α → Prop) :
    Tree → Option α → Prop
  | null :
      Optional means .null none
  | some
      {v : Tree}
      {x : α}
      (h : means v x) :
      Optional means v (some x)

/-- What a list means, item by item. -/
def Lists
    {α : Type}
    (means : Tree → α → Prop)
    (v : Tree)
    (xs : List α) : Prop :=
  ∃ items, v = .array items ∧ List.Forall₂ means items xs

namespace Codec

variable {α : Type} {means : Tree → α → Prop}

/-- A codec of scalars conforms if it makes of each kind what the scalars of that kind mean. -/
theorem conforms_scalar
    {accept : Found → Except Mismatch α}
    (hlist : ∀ x, accept .list ≠ .ok x)
    (hmap : ∀ x, accept .map ≠ .ok x)
    (hfits : ∀ kind v x, Fits kind v → accept kind = .ok x → means v x) :
    (scalar accept).Conforms means := by
  intro s x rest h
  simp only [scalar, readScalar] at h
  split at h
  · cases h
  · next kind tail hfound =>
      split at h
      · cases h
      · next y haccept =>
          cases h
          obtain ⟨v, hvalue, hv⟩ | ⟨_, _, _, _, hopen⟩ := readFound_eq_ok hfound
          · exact ⟨v, hvalue, hfits kind v x hv haccept⟩
          · obtain ⟨rfl, -⟩ | ⟨rfl, -⟩ := hopen
            · exact absurd haccept (hlist x)
            · exact absurd haccept (hmap x)

theorem conforms_text (expected : String) :
    (text expected).Conforms Tree.Says := by
  refine conforms_scalar (fun x hx => by cases hx) (fun x hx => by cases hx) ?_
  intro kind v x hfits hx
  cases hfits with
  | text htext =>
      cases hx
      exact ⟨_, rfl, htext⟩
  | null => cases hx
  | bool b => cases hx
  | number hcounts => cases hx

theorem conforms_word32 :
    word32.Conforms Tree.Counts := by
  refine conforms_scalar (fun x hx => by cases hx) (fun x hx => by cases hx) ?_
  intro kind v x hfits hx
  cases hfits with
  | @number n text hcounts =>
      cases n with
      | decimal negative magnitude => cases hx
      | int n =>
          simp only at hx
          split at hx
          · next hrange =>
              cases hx
              simp only [Bool.and_eq_true, decide_eq_true_eq] at hrange
              refine hcounts n.toNat ?_
              rw [Int.toNat_of_nonneg hrange.1]
          · cases hx
  | text htext => cases hx
  | null => cases hx
  | bool b => cases hx

theorem conforms_optional
    {c : Codec α}
    (h : c.Conforms means) :
    c.optional.Conforms (Optional means) := by
  intro s o rest hread
  obtain ⟨gap, hgap, hs⟩ := exists_blank_append_skipSpace s
  simp only [optional] at hread
  split at hread
  · next tail hskip =>
      split at hread
      · cases hread
      · next tail' hword =>
          cases hread
          obtain rfl := readWord_eq_ok hword
          rw [hs, hskip]
          exact ⟨.null, .null hgap, .null⟩
  · split at hread
    · cases hread
    · next x tail' hvalue =>
        cases hread
        obtain ⟨v, hv, hmeans⟩ := h _ _ _ hvalue
        rw [hs]
        exact ⟨v, hv.behind hgap, .some hmeans⟩

end Codec

section Lists

theorem nextItem_eq_close
    {first : Bool}
    (h : nextItem first s = .ok (.close rest)) :
    ∃ gap, Blank gap ∧ s = gap ++ ']' :: rest := by
  obtain ⟨gap, hgap, hs⟩ := exists_blank_append_skipSpace s
  unfold nextItem at h
  split at h
  · cases h
  · next c tail hskip =>
      rw [hskip] at hs
      split at h
      · next hc =>
          cases h
          exact ⟨gap, hgap, by rw [hs, hc]⟩
      · split at h
        · cases h
        · split at h
          · split at h
            · cases h
            · split at h
              · cases h
              · cases h
          · cases h

theorem nextItem_eq_entry
    {first : Bool}
    (h : nextItem first s = .ok (.entry rest)) :
    ∃ gap gap', Blank gap ∧ Blank gap' ∧ s = gap ++ (comma first ++ (gap' ++ rest)) := by
  obtain ⟨gap, hgap, hs⟩ := exists_blank_append_skipSpace s
  unfold nextItem at h
  split at h
  · cases h
  · next c tail hskip =>
      rw [hskip] at hs
      split at h
      · cases h
      · split at h
        · next hfirst =>
            cases h
            rw [hfirst]
            exact ⟨gap, [], hgap, blank_nil, hs⟩
        · next hfirst =>
            rw [Bool.not_eq_true] at hfirst
            split at h
            · next hc =>
                obtain ⟨gap', hgap', htail⟩ := exists_blank_append_skipSpace tail
                split at h
                · cases h
                · next d tail' hskip' =>
                    rw [hskip'] at htail
                    split at h
                    · cases h
                    · cases h
                      rw [hfirst]
                      exact ⟨gap, gap', hgap, hgap', by rw [hs, hc, htail]; rfl⟩
            · cases h

variable {α : Type} {means : Tree → α → Prop}

theorem readItemsFrom_eq_ok
    {item : Reader α}
    {fuel : Nat}
    {first : Bool}
    {read xs : List α}
    (hitem : ∀ s x rest, item s = .ok (x, rest) → ∃ v, Value s v rest ∧ means v x)
    (h : readItemsFrom item fuel first read s = .ok (xs, rest)) :
    ∃ items ys, Items first s items rest ∧ List.Forall₂ means items ys ∧
      xs = read.reverse ++ ys := by
  induction fuel generalizing first read s with
  | zero => cases h
  | succ fuel ih =>
      unfold readItemsFrom at h
      split at h
      · cases h
      · next tail hclose =>
          cases h
          obtain ⟨gap, hgap, rfl⟩ := nextItem_eq_close hclose
          exact ⟨[], [], .close hgap, .nil, (List.append_nil _).symm⟩
      · next tail hentry =>
          obtain ⟨gap, gap', hgap, hgap', rfl⟩ := nextItem_eq_entry hentry
          split at h
          · cases h
          · next x tail' hread =>
              obtain ⟨v, hvalue, hmeans⟩ := hitem _ _ _ hread
              obtain ⟨items, ys, hitems, hys, rfl⟩ := ih h
              have hbehind := hvalue.behind hgap'
              refine ⟨v :: items, x :: ys, .item hgap hbehind hitems, .cons hmeans hys, ?_⟩
              rw [List.reverse_cons, List.append_assoc, List.singleton_append]

theorem Codec.conforms_list
    {c : Codec α}
    (h : c.Conforms means) :
    c.list.Conforms (Lists means) := by
  intro s xs rest hread
  simp only [list] at hread
  split at hread
  · cases hread
  · next tail hfound =>
      obtain ⟨gap, tail, hgap, rfl, rfl⟩ := exists_gap_of_readFound_list hfound
      obtain ⟨items, ys, hitems, hmeans, hxs⟩ := readItemsFrom_eq_ok h hread
      subst hxs
      exact ⟨.array items, .array hgap hitems, items, rfl, hmeans⟩
  · cases hread

end Lists

/-- A document that is read is one of the grammar. -/
theorem Codec.exists_document_of_parse
    {α : Type}
    {c : Codec α}
    {means : Tree → α → Prop}
    {text : String}
    {x : α}
    (hconforms : c.Conforms means)
    (h : c.parse text = .ok x) :
    ∃ v, Document text.toList v ∧ means v x := by
  obtain ⟨rest, hread, hskip⟩ := readDocument_eq_ok_iff.1 h
  obtain ⟨v, hvalue, hmeans⟩ := hconforms _ _ _ hread
  exact ⟨v, ⟨rest, hvalue, blank_of_skipSpace_eq_nil hskip⟩, hmeans⟩

end Json
end Keyring
