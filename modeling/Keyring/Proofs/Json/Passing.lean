import Keyring.Proofs.Json.Tokens

/-!
# What is passed over is a value

A reader passes over the value of a member that it does not know without building it, with a stack of the
containers that are open.  What a stack still demands of the text is `Closes`: further items or members and
a closing bracket for each container, from the innermost one on.  Every run that ends well has passed over
one value of the grammar, whatever is nested in it.
-/

namespace Keyring
namespace Json

/-- Whether a text closes open containers, the innermost one first, and what it goes on with. -/
inductive Closes : List Container → List Char → List Char → Prop
  | nil
      {rest : List Char} :
      Closes [] rest rest
  | list
      {below : List Container}
      {s s' rest : List Char}
      {items : List Tree}
      (hitems : Items false s items s')
      (hbelow : Closes below s' rest) :
      Closes (.list :: below) s rest
  | map
      {below : List Container}
      {s s' rest : List Char}
      {members : List (List Char × Tree)}
      (hmembers : Members false s members s')
      (hbelow : Closes below s' rest) :
      Closes (.map :: below) s rest

/-- Whether a text goes on with an entry of the innermost open container and closes all of them. -/
inductive Continues : List Container → List Char → List Char → Prop
  | nil
      {rest : List Char} :
      Continues [] rest rest
  | list
      {below : List Container}
      {s s' rest : List Char}
      {v : Tree}
      (hitem : Value s v s')
      (hrest : Closes (.list :: below) s' rest) :
      Continues (.list :: below) s rest
  | map
      {below : List Container}
      {gap name gap' s s' rest : List Char}
      {v : Tree}
      (hgap : Blank gap)
      (hname : Inside name)
      (hgap' : Blank gap')
      (hvalue : Value s v s')
      (hrest : Closes (.map :: below) s' rest) :
      Continues (.map :: below) (gap ++ '"' :: (name ++ '"' :: (gap' ++ ':' :: s))) rest

/-- What passing over the start of a value finds. -/
inductive Starts : Option Container → List Char → List Char → Prop
  | scalar
      {s rest : List Char}
      {v : Tree}
      (hvalue : Value s v rest)
      (hshorter : rest.length < s.length) :
      Starts none s rest
  | list
      {gap rest : List Char}
      (hgap : Blank gap) :
      Starts (some .list) (gap ++ '[' :: rest) rest
  | map
      {gap rest : List Char}
      (hgap : Blank gap) :
      Starts (some .map) (gap ++ '\x7b' :: rest) rest

variable {s rest : List Char}

theorem readColon_eq_ok
    (h : readColon s = .ok rest) :
    ∃ gap, Blank gap ∧ s = gap ++ ':' :: rest := by
  obtain ⟨gap, hgap, hs⟩ := exists_blank_append_skipSpace s
  unfold readColon at h
  split at h
  · cases h
  · next c tail hskip =>
      split at h
      · next hc =>
          cases h
          exact ⟨gap, hgap, by rw [hs, hskip, hc]⟩
      · cases h

theorem skipName_eq_ok
    (h : skipName s = .ok rest) :
    ∃ gap name gap', Blank gap ∧ Inside name ∧ Blank gap' ∧
      s = gap ++ '"' :: (name ++ '"' :: (gap' ++ ':' :: rest)) := by
  obtain ⟨gap, hgap, hs⟩ := exists_blank_append_skipSpace s
  unfold skipName at h
  split at h
  · cases h
  · next c tail hskip =>
      split at h
      · next hc =>
          split at h
          · cases h
          · next tail' hstring =>
              obtain ⟨name, rfl, hname⟩ := skipString_eq_ok hstring
              obtain ⟨gap', hgap', rfl⟩ := readColon_eq_ok h
              exact ⟨gap, name, gap', hgap, hname, hgap', by rw [hs, hskip, hc]⟩
      · cases h

theorem Starts.shorter
    {opened : Option Container}
    (h : Starts opened s rest) :
    rest.length < s.length := by
  cases h with
  | scalar _ hshorter => exact hshorter
  | list _ =>
      rw [List.length_append, List.length_cons]
      omega
  | map _ =>
      rw [List.length_append, List.length_cons]
      omega

theorem Unsigned.length_pos
    {text : List Char}
    (h : Unsigned text) :
    0 < text.length := by
  obtain ⟨hwhole, -, -⟩ := h
  cases hwhole with
  | zero => exact Nat.succ_pos _
  | positive _ _ _ => exact Nat.succ_pos _

theorem skipStart_eq_ok
    {opened : Option Container}
    (h : skipStart s = .ok (opened, rest)) :
    Starts opened s rest := by
  obtain ⟨gap, hgap, hs⟩ := exists_blank_append_skipSpace s
  unfold skipStart at h
  extract_lets scalar at h
  have hscalar : ∀ {r : Except Fault (List Char)}, scalar r = .ok (opened, rest) →
      r = .ok rest ∧ opened = none := by
    intro r hr
    cases r with
    | error f => cases hr
    | ok tail =>
        cases hr
        exact ⟨rfl, rfl⟩
  -- A scalar is not empty, so less is left behind it.
  have hstarts : ∀ {text v}, 0 < text.length → Value (gap ++ (text ++ rest)) v rest →
      Starts none (gap ++ (text ++ rest)) rest := by
    intro text v hpos hvalue
    refine .scalar hvalue ?_
    simp only [List.length_append]
    omega
  split at h
  · cases h
  · next c tail hskip =>
      rw [hskip] at hs
      subst hs
      split at h
      · obtain ⟨hword, rfl⟩ := hscalar h
        obtain rfl := readWord_eq_ok hword
        exact @hstarts ['n', 'u', 'l', 'l'] _ (Nat.succ_pos _) (.null hgap)
      · obtain ⟨hword, rfl⟩ := hscalar h
        obtain rfl := readWord_eq_ok hword
        exact @hstarts ['t', 'r', 'u', 'e'] _ (Nat.succ_pos _) (.true hgap)
      · obtain ⟨hword, rfl⟩ := hscalar h
        obtain rfl := readWord_eq_ok hword
        exact @hstarts ['f', 'a', 'l', 's', 'e'] _ (Nat.succ_pos _) (.false hgap)
      · obtain ⟨hstring, rfl⟩ := hscalar h
        obtain ⟨text, rfl, htext⟩ := skipString_eq_ok hstring
        have hquoted : '"' :: (text ++ '"' :: rest) = '"' :: (text ++ ['"']) ++ rest := by simp
        have hvalue : Value (gap ++ '"' :: (text ++ '"' :: rest)) (.string text) rest := .string hgap htext
        rw [hquoted] at hvalue ⊢
        exact hstarts (Nat.succ_pos _) hvalue
      · obtain ⟨hnumber, rfl⟩ := hscalar h
        obtain ⟨text, rfl, htext⟩ := skipNumber_eq_ok hnumber
        exact @hstarts ('-' :: text) _ (Nat.succ_pos _) (.number hgap (.negative htext))
      · cases h
        exact .list hgap
      · cases h
        exact .map hgap
      · split at h
        · obtain ⟨hnumber, rfl⟩ := hscalar h
          obtain ⟨text, htail, htext⟩ := skipNumber_eq_ok hnumber
          rw [htail]
          exact hstarts htext.length_pos (.number hgap (.unsigned htext))
        · cases h

/-- Closing containers leaves the text of an entry of the innermost container that stays open. -/
theorem skipCloses_eq_ok
    {stack stack' : List Container}
    {tail : List Char}
    (h : skipCloses false stack s = .ok (stack', tail))
    (hrest : Continues stack' tail rest) :
    Closes stack s rest := by
  induction stack generalizing s with
  | nil =>
      cases h
      cases hrest
      exact .nil
  | cons top below ih =>
      obtain ⟨gap, hgap, hs⟩ := exists_blank_append_skipSpace s
      unfold skipCloses at h
      split at h
      · cases h
      · next c tail' hskip =>
          rw [hskip] at hs
          subst hs
          split at h
          · next hcomma =>
              cases h
              obtain rfl : c = ',' := by simpa using hcomma
              cases hrest with
              | list hitem hrest =>
                  cases hrest with
                  | list hitems hbelow =>
                      exact .list (.item hgap hitem hitems) hbelow
              | map hgap' hname hgap'' hvalue hrest =>
                  cases hrest with
                  | map hmembers hbelow =>
                      exact .map (.member hgap hgap' hname hgap'' hvalue hmembers) hbelow
          · split at h
            · next hclose =>
                have hbelow := ih h
                simp only [Bool.or_eq_true, Bool.and_eq_true, decide_eq_true_eq] at hclose
                rcases hclose with ⟨rfl, rfl⟩ | ⟨rfl, rfl⟩
                · exact .list (.close hgap) hbelow
                · exact .map (.close hgap) hbelow
            · split at h
              · next hfresh => cases hfresh
              · cases h

theorem length_skipCloses_le
    {fresh : Bool}
    {stack stack' : List Container}
    (h : skipCloses fresh stack s = .ok (stack', rest)) :
    rest.length ≤ s.length := by
  induction stack generalizing fresh s with
  | nil =>
      cases h
      exact Nat.le_refl _
  | cons top below ih =>
      obtain ⟨gap, -, hs⟩ := exists_blank_append_skipSpace s
      have hlength := congrArg List.length hs
      unfold skipCloses at h
      split at h
      · cases h
      · next c tail hskip =>
          rw [hskip, List.length_append, List.length_cons] at hlength
          split at h
          · cases h
            omega
          · split at h
            · have hle := ih h
              omega
            · split at h
              · cases h
                rw [List.length_cons]
                omega
              · cases h

/-- A container that has just been opened either closes at once or goes on with its first entry. -/
theorem skipCloses_fresh_eq_ok
    {top : Container}
    {below stack' : List Container}
    {tail : List Char}
    (h : skipCloses true (top :: below) s = .ok (stack', tail)) :
    ∃ gap c tail', Blank gap ∧ s = gap ++ c :: tail' ∧
      ((((c = ']' ∧ top = .list) ∨ (c = '\x7d' ∧ top = .map)) ∧
          skipCloses false below tail' = .ok (stack', tail)) ∨
        (stack' = top :: below ∧ tail = c :: tail')) := by
  obtain ⟨gap, hgap, hs⟩ := exists_blank_append_skipSpace s
  unfold skipCloses at h
  split at h
  · cases h
  · next c tail' hskip =>
      rw [hskip] at hs
      refine ⟨gap, c, tail', hgap, hs, ?_⟩
      simp only [Bool.not_true, Bool.false_and, Bool.false_eq_true, if_false] at h
      split at h
      · next hclose =>
          simp only [Bool.or_eq_true, Bool.and_eq_true, decide_eq_true_eq] at hclose
          exact .inl ⟨hclose, h⟩
      · rw [if_pos trivial] at h
        cases h
        exact .inr ⟨rfl, rfl⟩

/-- A run that ends well has passed over a value and then over what its open containers demand. -/
theorem skipValues_eq_ok
    {fuel : Nat}
    {stack : List Container}
    (hfuel : s.length < fuel)
    (h : skipValues fuel stack s = .ok rest) :
    ∃ v s', Value s v s' ∧ Closes stack s' rest := by
  induction fuel generalizing stack s with
  | zero => exact absurd hfuel (Nat.not_lt_zero _)
  | succ fuel ih =>
      unfold skipValues at h
      split at h
      · cases h
      · next opened tail hstart =>
          have hstarts := skipStart_eq_ok hstart
          -- Each round leaves a shorter text, so there is fuel for the next one.
          have hround : ∀ {top below s' t}, s'.length ≤ t.length →
              skipCloses opened.isSome (opened.toList ++ stack) tail = .ok (top :: below, t) →
              skipValues fuel (top :: below) s' = .ok rest →
              ∃ v s'', Value s' v s'' ∧ Closes (top :: below) s'' rest := by
            intro top below s' t hle hcloses hvalues
            have htail := length_skipCloses_le hcloses
            have hshorter := hstarts.shorter
            exact ih (by omega) hvalues
          obtain ⟨stack', tail', hcloses, hcontinues⟩ : ∃ stack' tail',
              skipCloses opened.isSome (opened.toList ++ stack) tail = .ok (stack', tail') ∧
                Continues stack' tail' rest := by
            split at h
            · cases h
            · next tail' hcloses =>
                cases h
                exact ⟨[], rest, hcloses, .nil⟩
            · next below tail' hcloses =>
                obtain ⟨v, s', hitem, hrest⟩ := hround (Nat.le_refl _) hcloses h
                exact ⟨.list :: below, tail', hcloses, .list hitem hrest⟩
            · next below tail' hcloses =>
                split at h
                · cases h
                · next t hskip =>
                    obtain ⟨gap, name, gap', hgap, hname, hgap', rfl⟩ := skipName_eq_ok hskip
                    have hle : t.length ≤ (gap ++ '"' :: (name ++ '"' :: (gap' ++ ':' :: t))).length := by
                      simp only [List.length_append, List.length_cons]
                      omega
                    obtain ⟨v, s', hvalue, hrest⟩ := hround hle hcloses h
                    exact ⟨_, _, hcloses, .map hgap hname hgap' hvalue hrest⟩
          cases hstarts with
          | scalar hvalue _ => exact ⟨_, tail, hvalue, skipCloses_eq_ok hcloses hcontinues⟩
          | list hgap =>
              obtain ⟨gap', c, t, hgap', rfl, ⟨hclose, hbelow⟩ | ⟨rfl, rfl⟩⟩ :=
                skipCloses_fresh_eq_ok hcloses
              · obtain ⟨rfl, -⟩ | ⟨-, htop⟩ := hclose
                · exact ⟨_, t, .array hgap (.close hgap'), skipCloses_eq_ok hbelow hcontinues⟩
                · cases htop
              · cases hcontinues with
                | list hitem hrest =>
                    cases hrest with
                    | list hitems hbelow => exact ⟨_, _, .array hgap (.item hgap' hitem hitems), hbelow⟩
          | map hgap =>
              obtain ⟨gap', c, t, hgap', rfl, ⟨hclose, hbelow⟩ | ⟨rfl, htext⟩⟩ :=
                skipCloses_fresh_eq_ok hcloses
              · obtain ⟨-, htop⟩ | ⟨rfl, -⟩ := hclose
                · cases htop
                · exact ⟨_, t, .object hgap (.close hgap'), skipCloses_eq_ok hbelow hcontinues⟩
              · rw [← htext]
                cases hcontinues with
                | map hgap₁ hname hgap₂ hvalue hrest =>
                    cases hrest with
                    | map hmembers hbelow =>
                        exact ⟨_, _,
                          .object hgap (.member hgap' hgap₁ hname hgap₂ hvalue hmembers), hbelow⟩

/-- What is passed over is a value. -/
theorem skipValue_eq_ok
    (h : skipValue s = .ok rest) :
    ∃ v, Value s v rest := by
  obtain ⟨v, s', hvalue, hcloses⟩ := skipValues_eq_ok (Nat.lt_succ_self _) h
  cases hcloses
  exact ⟨v, hvalue⟩

end Json
end Keyring
