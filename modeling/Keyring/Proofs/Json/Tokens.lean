import Keyring.Proofs.Json.Grammar

/-!
# Tokens that are read are tokens of the grammar

What the readers of words, strings and numbers take off the front of a text is a token of the grammar, and
what they make of it is what the token stands for.  The two readers of strings and numbers differ in what
they refuse, not in what they take for a token, so the readers that pass over a token have the same lemmas.
-/

namespace Keyring
namespace Json

section Strings

variable {s rest : List Char}

theorem readWord_eq_ok
    {word : List Char}
    (h : readWord word s = .ok rest) :
    s = word ++ rest := by
  induction word generalizing s with
  | nil =>
      cases h
      rfl
  | cons w word ih =>
      cases s with
      | nil => cases h
      | cons c s =>
          unfold readWord at h
          split at h
          · next hc => rw [hc, ih h, List.cons_append]
          · cases h

theorem readHex_eq_ok
    {n : Nat}
    (h : readHex s = .ok (n, rest)) :
    ∃ quad, s = quad ++ rest ∧ Quad quad n := by
  unfold readHex at h
  split at h
  · next a b c d rest' =>
      split at h
      · next va vb vc vd ha hb hc hd =>
          cases h
          exact ⟨[a, b, c, d], rfl, .mk ha hb hc hd⟩
      · cases h
  · cases h

theorem readLowHalf_eq_ok
    {high : Nat}
    {c : Char}
    (h : readLowHalf high s = .ok (c, rest)) :
    ∃ second low, s = '\\' :: 'u' :: (second ++ rest) ∧ Quad second low ∧
      isLowSurrogate low = true ∧ c = Char.ofNat (0x10000 + (high - 0xd800) * 0x400 + (low - 0xdc00)) := by
  unfold readLowHalf at h
  split at h
  · cases h
  · cases h
  · next tail =>
      split at h
      · cases h
      · next low rest' hhex =>
          split at h
          · next hlow =>
              simp only [Except.ok.injEq, Prod.mk.injEq] at h
              obtain ⟨hc, rfl⟩ := h
              obtain ⟨second, rfl, hsecond⟩ := readHex_eq_ok hhex
              exact ⟨second, low, rfl, hsecond, hlow, hc.symm⟩
          · cases h
  · cases h
  · cases h

theorem readPoint_eq_ok
    {c : Char}
    (h : readPoint s = .ok (c, rest)) :
    ∃ text, '\\' :: 'u' :: s = text ++ rest ∧ Glyph text c := by
  unfold readPoint at h
  split at h
  · cases h
  · next n rest' hhex =>
      obtain ⟨quad, rfl, hquad⟩ := readHex_eq_ok hhex
      split at h
      · cases h
      · next hlow =>
          rw [Bool.not_eq_true] at hlow
          split at h
          · next hhigh =>
              obtain ⟨second, low, rfl, hsecond, hpaired, hc⟩ := readLowHalf_eq_ok h
              have hglyph := Glyph.pair hquad hhigh hsecond hpaired
              rw [← hc] at hglyph
              refine ⟨_, ?_, hglyph⟩
              simp only [List.cons_append, List.append_assoc]
          · next hhigh =>
              rw [Bool.not_eq_true] at hhigh
              cases h
              exact ⟨_, rfl, .point hquad hhigh hlow⟩

/-- An escape that is read is written as the character that it stands for. -/
theorem readEscape_eq_ok
    {c : Char}
    (h : readEscape s = .ok (c, rest)) :
    ∃ text, '\\' :: s = text ++ rest ∧ Glyph text c := by
  cases s with
  | nil => cases h
  | cons e s =>
      have hshort : ∀ d, (e, d) ∈ shortEscapes → Except.ok (ε := Fault) (d, s) = .ok (c, rest) →
          ∃ text, '\\' :: e :: s = text ++ rest ∧ Glyph text c := by
        intro d hd heq
        cases heq
        exact ⟨['\\', e], rfl, .short hd⟩
      unfold readEscape at h
      simp only at h
      split at h
      · exact hshort _ (by decide) h
      · exact hshort _ (by decide) h
      · exact hshort _ (by decide) h
      · exact hshort _ (by decide) h
      · exact hshort _ (by decide) h
      · exact hshort _ (by decide) h
      · exact hshort _ (by decide) h
      · exact hshort _ (by decide) h
      · exact readPoint_eq_ok h
      · cases h

theorem readCharsFrom_eq_ok
    {fuel : Nat}
    {read cs : List Char}
    (h : readCharsFrom fuel read s = .ok (cs, rest)) :
    ∃ text ds, s = text ++ '"' :: rest ∧ Unescapes text ds ∧ cs = read.reverse ++ ds := by
  induction fuel generalizing read s with
  | zero => cases h
  | succ fuel ih =>
      cases s with
      | nil => cases h
      | cons c s =>
          unfold readCharsFrom at h
          split at h
          · next hquote =>
              cases h
              exact ⟨[], [], by rw [hquote, List.nil_append], .nil, (List.append_nil _).symm⟩
          · next hquote =>
              split at h
              · next hbackslash =>
                  split at h
                  · cases h
                  · next d rest' hescape =>
                      obtain ⟨glyph, hglyph, hd⟩ := readEscape_eq_ok hescape
                      obtain ⟨text, ds, rfl, htext, rfl⟩ := ih h
                      refine ⟨glyph ++ text, d :: ds, ?_, .cons hd htext, ?_⟩
                      · rw [hbackslash, hglyph, List.append_assoc]
                      · rw [List.reverse_cons, List.append_assoc, List.singleton_append]
              · next hbackslash =>
                  split at h
                  · cases h
                  · next hcontrol =>
                      obtain ⟨text, ds, rfl, htext, rfl⟩ := ih h
                      have hc : Glyph [c] c := .plain ⟨hquote, hbackslash, hcontrol⟩
                      refine ⟨[c] ++ text, c :: ds, rfl, .cons hc htext, ?_⟩
                      rw [List.reverse_cons, List.append_assoc, List.singleton_append]

/-- A string that is read ends with its quote and stands for the text that it is read as. -/
theorem readString_eq_ok
    {t : String}
    (h : readString s = .ok (t, rest)) :
    ∃ text, s = text ++ '"' :: rest ∧ Unescapes text t.toList := by
  unfold readString at h
  split at h
  · cases h
  · next cs rest' hchars =>
      cases h
      obtain ⟨text, ds, rfl, htext, rfl⟩ := readCharsFrom_eq_ok hchars
      refine ⟨text, rfl, ?_⟩
      rw [String.toList_ofList]
      exact htext

theorem skipCharsFrom_eq_ok
    {fuel : Nat}
    (h : skipCharsFrom fuel s = .ok rest) :
    ∃ text, s = text ++ '"' :: rest ∧ Inside text := by
  induction fuel generalizing s with
  | zero => cases h
  | succ fuel ih =>
      cases s with
      | nil => cases h
      | cons c s =>
          unfold skipCharsFrom at h
          split at h
          · next hquote =>
              cases h
              exact ⟨[], by rw [hquote, List.nil_append], .nil⟩
          · next hquote =>
              split at h
              · next hbackslash =>
                  subst hbackslash
                  split at h
                  · cases h
                  · next e s =>
                      split at h
                      · next hpoint =>
                          subst hpoint
                          split at h
                          · cases h
                          · next n rest' hhex =>
                              obtain ⟨quad, rfl, hquad⟩ := readHex_eq_ok hhex
                              obtain ⟨text, rfl, htext⟩ := ih h
                              refine ⟨_, ?_, .point hquad htext⟩
                              simp only [List.cons_append, List.append_assoc]
                      · split at h
                        · next hshort =>
                            obtain ⟨text, rfl, htext⟩ := ih h
                            have he : e ∈ shortEscapes.map Prod.fst := hshort
                            obtain ⟨⟨_, d⟩, hd, rfl⟩ := List.mem_map.1 he
                            exact ⟨_, rfl, .short hd htext⟩
                        · cases h
              · next hbackslash =>
                  split at h
                  · cases h
                  · next hcontrol =>
                      obtain ⟨text, rfl, htext⟩ := ih h
                      exact ⟨c :: text, rfl, .plain ⟨hquote, hbackslash, hcontrol⟩ htext⟩

theorem skipString_eq_ok
    (h : skipString s = .ok rest) :
    ∃ text, s = text ++ '"' :: rest ∧ Inside text :=
  skipCharsFrom_eq_ok h

end Strings

section Numbers

variable {s rest : List Char} {negative : Bool} {digits : Nat} {n : Number}

theorem exists_digits_append_dropWhile (s : List Char) :
    ∃ ds, AllDigits ds ∧ s = ds ++ s.dropWhile Char.isDigit :=
  ⟨s.takeWhile Char.isDigit, fun _ hc => List.mem_takeWhile_imp hc,
    List.takeWhile_append_dropWhile.symm⟩

theorem exists_digits_of_startsWithDigit
    (h : startsWithDigit s = true) :
    ∃ ds, ds ≠ [] ∧ AllDigits ds ∧ s = ds ++ s.dropWhile Char.isDigit := by
  obtain ⟨ds, hds, hsplit⟩ := exists_digits_append_dropWhile s
  refine ⟨ds, ?_, hds, hsplit⟩
  rintro rfl
  cases s with
  | nil => cases h
  | cons c s =>
      have hc : c.isDigit = true := h
      rw [List.dropWhile_cons, if_pos hc, List.nil_append] at hsplit
      have hle := List.length_dropWhile_le Char.isDigit s
      rw [← hsplit, List.length_cons] at hle
      omega

theorem AllDigits.append
    {ds es : List Char}
    (hds : AllDigits ds)
    (hes : AllDigits es) :
    AllDigits (ds ++ es) := by
  intro c hc
  rcases List.mem_append.1 hc with h | h
  · exact hds c h
  · exact hes c h

theorem addDigits_eq
    (number added : Nat)
    (s : List Char) :
    ∃ ds, AllDigits ds ∧ s = ds ++ (addDigits number added s).2.2 ∧
      (addDigits number added s).1 = Nat.ofDigitChars 10 ds number ∧
      (addDigits number added s).2.1 = added + ds.length := by
  induction s generalizing number added with
  | nil => exact ⟨[], fun _ h => absurd h List.not_mem_nil, rfl, rfl, rfl⟩
  | cons c s ih =>
      have hnone : ∃ ds, AllDigits ds ∧ c :: s = ds ++ c :: s ∧
          number = Nat.ofDigitChars 10 ds number ∧ added = added + ds.length :=
        ⟨[], fun _ h => absurd h List.not_mem_nil, rfl, rfl, rfl⟩
      unfold addDigits
      split
      · next hc =>
          simp only
          split
          · obtain ⟨ds, hds, hsplit, hnumber, hadded⟩ :=
              ih (number * 10 + (c.toNat - 0x30)) (added + 1)
            refine ⟨c :: ds, List.forall_mem_cons.2 ⟨hc, hds⟩, ?_, ?_, ?_⟩
            · rw [List.cons_append, ← hsplit]
            · rw [hnumber, Nat.ofDigitChars_cons, Nat.mul_comm number]
              rfl
            · rw [hadded, List.length_cons]
              omega
          · exact hnone
      · exact hnone

theorem roundedNumber_eq_ok
    {exponent : Int}
    (h : roundedNumber negative digits exponent s = .ok (n, rest)) :
    rest = s ∧ ∀ k, n ≠ .int k := by
  unfold roundedNumber at h
  split at h
  · cases h
    exact ⟨rfl, fun _ hint => by cases hint⟩
  · cases h

theorem addExponentDigits_eq
    (number : Nat)
    (s : List Char) :
    ∃ ds, AllDigits ds ∧ s = ds ++ (addExponentDigits number s).2 := by
  induction s generalizing number with
  | nil => exact ⟨[], fun _ h => absurd h List.not_mem_nil, rfl⟩
  | cons c s ih =>
      unfold addExponentDigits
      split
      · next hc =>
          simp only
          split
          · obtain ⟨ds, hds, hsplit⟩ := ih (number * 10 + (c.toNat - 0x30))
            refine ⟨c :: ds, List.forall_mem_cons.2 ⟨hc, hds⟩, ?_⟩
            rw [List.cons_append, ← hsplit]
          · exact ⟨[c], by simpa [AllDigits] using hc, rfl⟩
      · exact ⟨[], fun _ h => absurd h List.not_mem_nil, rfl⟩

theorem readExponent_eq_ok
    {exponent : Int}
    (h : readExponent negative digits exponent s = .ok (n, rest)) :
    ∃ text, s = text ++ rest ∧ Scale text ∧ ∀ k, n ≠ .int k := by
  unfold readExponent at h
  split at h
  next down tail hsplit =>
    obtain ⟨sign, hsign, hs⟩ :
        ∃ sign, (sign = [] ∨ sign = ['+'] ∨ sign = ['-']) ∧ s = sign ++ tail := by
      split at hsplit
      · cases hsplit
        exact ⟨['+'], .inr (.inl rfl), rfl⟩
      · cases hsplit
        exact ⟨['-'], .inr (.inr rfl), rfl⟩
      · cases hsplit
        exact ⟨[], .inl rfl, rfl⟩
    have hscale : ∀ ds : List Char, ds ≠ [] → AllDigits ds → tail = ds ++ rest →
        ∃ text, s = text ++ rest ∧ Scale text := by
      intro ds hne hds htail
      exact ⟨sign ++ ds, by rw [hs, htail, List.append_assoc], .mk hsign hne hds⟩
    split at h
    · cases h
    · next c tail =>
        split at h
        · next hc =>
            obtain ⟨ds, hds, htail⟩ := addExponentDigits_eq (c.toNat - 0x30) tail
            have hall : AllDigits (c :: ds) := List.forall_mem_cons.2 ⟨hc, hds⟩
            split at h
            · next e rest' hadd =>
                rw [hadd] at htail
                obtain ⟨rfl, hdecimal⟩ := roundedNumber_eq_ok h
                obtain ⟨text, htext, hscale⟩ := hscale (c :: ds) (List.cons_ne_nil c ds) hall
                  (by rw [htail, List.cons_append])
                exact ⟨text, htext, hscale, hdecimal⟩
            · next rest' hadd =>
                rw [hadd] at htail
                split at h
                · cases h
                · cases h
                  obtain ⟨es, hes, hrest⟩ := exists_digits_append_dropWhile rest'
                  obtain ⟨text, htext, hscale⟩ := hscale (c :: (ds ++ es)) (List.cons_ne_nil c _)
                    (List.forall_mem_cons.2 ⟨hc, hds.append hes⟩)
                    (by rw [htail, List.cons_append, List.append_assoc, ← hrest])
                  exact ⟨text, htext, hscale, fun _ hint => by cases hint⟩
        · cases h

theorem endFraction_eq_ok
    {exponent : Int}
    (h : endFraction negative digits exponent s = .ok (n, rest)) :
    ∃ text, s = text ++ rest ∧ Exponent text ∧ ∀ k, n ≠ .int k := by
  unfold endFraction at h
  split at h
  · obtain ⟨text, rfl, hscale, hdecimal⟩ := readExponent_eq_ok h
    exact ⟨'e' :: text, rfl, .scale (.inl rfl) hscale, hdecimal⟩
  · obtain ⟨text, rfl, hscale, hdecimal⟩ := readExponent_eq_ok h
    exact ⟨'E' :: text, rfl, .scale (.inr rfl) hscale, hdecimal⟩
  · obtain ⟨rfl, hdecimal⟩ := roundedNumber_eq_ok h
    exact ⟨[], rfl, .none, hdecimal⟩

theorem readFraction_eq_ok
    {exponent : Int}
    (h : readFraction negative digits exponent s = .ok (n, rest)) :
    ∃ ds text, s = ds ++ (text ++ rest) ∧ ds ≠ [] ∧ AllDigits ds ∧ Exponent text ∧
      ∀ k, n ≠ .int k := by
  obtain ⟨ds, hds, hs, -, hadded⟩ := addDigits_eq digits 0 s
  unfold readFraction at h
  split at h
  next digits' added tail hadd =>
    rw [hadd] at hs hadded
    simp only at hs hadded h
    split at h
    · next hmore =>
        obtain ⟨es, hne, hes, htail⟩ := exists_digits_of_startsWithDigit hmore
        obtain ⟨text, htext, hexponent, hdecimal⟩ := endFraction_eq_ok h
        refine ⟨ds ++ es, text, ?_, ?_, hds.append hes, hexponent, hdecimal⟩
        · rw [List.append_assoc, ← htext, ← htail, ← hs]
        · exact List.append_ne_nil_of_right_ne_nil ds hne
    · split at h
      · cases h
      · next hsome =>
          obtain ⟨text, htext, hexponent, hdecimal⟩ := endFraction_eq_ok h
          refine ⟨ds, text, by rw [← htext, ← hs], ?_, hds, hexponent, hdecimal⟩
          rintro rfl
          exact hsome hadded

theorem integer_eq_ok
    (h : integer negative digits s = .ok (n, rest)) :
    rest = s ∧ ∀ k : Nat, n = .int k → negative = false ∧ digits = k := by
  unfold integer at h
  split at h
  · next hunsigned =>
      cases h
      refine ⟨rfl, fun k hk => ⟨by simpa using hunsigned, ?_⟩⟩
      cases hk
      rfl
  · split at h
    · obtain ⟨rfl, hdecimal⟩ := roundedNumber_eq_ok h
      exact ⟨rfl, fun k hk => absurd hk (hdecimal k)⟩
    · next hdigits =>
        cases h
        refine ⟨rfl, fun k hk => ?_⟩
        have hint := Number.int.inj hk
        simp only [Bool.or_eq_true, decide_eq_true_eq, not_or] at hdigits
        omega

/-- What follows the digits of a number.  It is only read as an integer if nothing does. -/
theorem readAfterDigits_eq_ok
    (h : readAfterDigits negative digits s = .ok (n, rest)) :
    ∃ fraction exponent, s = fraction ++ (exponent ++ rest) ∧
      Fraction fraction ∧ Exponent exponent ∧
      ∀ k : Nat, n = .int k → negative = false ∧ digits = k ∧ fraction = [] ∧ exponent = [] := by
  have hscale : ∀ {letter tail}, letter = 'e' ∨ letter = 'E' → s = letter :: tail →
      readExponent negative digits 0 tail = .ok (n, rest) →
      ∃ fraction exponent, s = fraction ++ (exponent ++ rest) ∧
        Fraction fraction ∧ Exponent exponent ∧
        ∀ k : Nat, n = .int k →
          negative = false ∧ digits = k ∧ fraction = [] ∧ exponent = [] := by
    intro letter tail hletter hs hread
    obtain ⟨text, rfl, hscale, hdecimal⟩ := readExponent_eq_ok hread
    refine ⟨[], letter :: text, hs, .none, .scale hletter hscale, ?_⟩
    exact fun k hk => absurd hk (hdecimal k)
  unfold readAfterDigits at h
  split at h
  · obtain ⟨ds, text, rfl, hne, hds, hexponent, hdecimal⟩ := readFraction_eq_ok h
    exact ⟨'.' :: ds, text, rfl, .digits hne hds, hexponent, fun k hk => absurd hk (hdecimal k)⟩
  · exact hscale (.inl rfl) rfl h
  · exact hscale (.inr rfl) rfl h
  · obtain ⟨rfl, hinteger⟩ := integer_eq_ok h
    refine ⟨[], [], rfl, .none, .none, fun k hk => ?_⟩
    obtain ⟨hunsigned, hdigits⟩ := hinteger k hk
    exact ⟨hunsigned, hdigits, rfl, rfl⟩

theorem readLongInteger_eq_ok
    (h : readLongInteger negative digits s = .ok (n, rest)) :
    ∃ ds fraction exponent, s = ds ++ (fraction ++ (exponent ++ rest)) ∧ AllDigits ds ∧
      Fraction fraction ∧ Exponent exponent ∧ ∀ k, n ≠ .int k := by
  obtain ⟨ds, hds, hs⟩ := exists_digits_append_dropWhile s
  unfold readLongInteger at h
  simp only at h
  split at h
  · next tail hpoint =>
      obtain ⟨es, text, rfl, hne, hes, hexponent, hdecimal⟩ := readFraction_eq_ok h
      rw [hpoint] at hs
      exact ⟨ds, '.' :: es, text, hs, hds, .digits hne hes, hexponent, hdecimal⟩
  · obtain ⟨text, htext, hexponent, hdecimal⟩ := endFraction_eq_ok h
    rw [htext] at hs
    exact ⟨ds, [], text, hs, hds, .none, hexponent, hdecimal⟩

/-- A number that is read is one of the grammar.  It is read as a natural number only if it has no sign,
no fraction and no exponent, and then as the one that its digits denote. -/
theorem readNumber_eq_ok
    (h : readNumber negative s = .ok (n, rest)) :
    ∃ text, s = text ++ rest ∧ Unsigned text ∧
      ∀ k : Nat, n = .int k → negative = false ∧ Whole text ∧ Nat.ofDigitChars 10 text 0 = k := by
  unfold readNumber at h
  split at h
  · cases h
  · next c s =>
      split at h
      · next hzero =>
          split at h
          · cases h
          · obtain ⟨fraction, exponent, rfl, hfraction, hexponent, hinteger⟩ := readAfterDigits_eq_ok h
            subst hzero
            refine ⟨['0'] ++ (fraction ++ exponent), ?_, .mk .zero hfraction hexponent, fun k hk => ?_⟩
            · simp only [List.append_assoc, List.cons_append, List.nil_append]
            · obtain ⟨hunsigned, rfl, rfl, rfl⟩ := hinteger k hk
              exact ⟨hunsigned, .zero, rfl⟩
      · next hzero =>
          split at h
          · next hc =>
              obtain ⟨ds, hds, hs, hdigits, -⟩ := addDigits_eq (c.toNat - 0x30) 0 s
              split at h
              next digits added tail hadd =>
                rw [hadd] at hs hdigits
                simp only at hs hdigits
                split at h
                · obtain ⟨es, fraction, exponent, rfl, hes, hfraction, hexponent, hdecimal⟩ :=
                    readLongInteger_eq_ok h
                  have hwhole : Whole (c :: (ds ++ es)) := .positive hc hzero (hds.append hes)
                  refine ⟨_, ?_, .mk hwhole hfraction hexponent, fun k hk => absurd hk (hdecimal k)⟩
                  rw [hs]
                  simp only [List.append_assoc, List.cons_append]
                · obtain ⟨fraction, exponent, rfl, hfraction, hexponent, hinteger⟩ :=
                    readAfterDigits_eq_ok h
                  have hwhole : Whole (c :: ds) := .positive hc hzero hds
                  refine ⟨_, ?_, .mk hwhole hfraction hexponent, fun k hk => ?_⟩
                  · rw [hs]
                    simp only [List.append_assoc, List.cons_append]
                  · obtain ⟨hunsigned, hk, rfl, rfl⟩ := hinteger k hk
                    rw [List.append_nil, List.append_nil]
                    refine ⟨hunsigned, hwhole, ?_⟩
                    rw [← hk, hdigits, Nat.ofDigitChars_cons, Nat.mul_zero, Nat.zero_add]
                    rfl
          · cases h

theorem skipExponent_eq_ok
    (h : skipExponent s = .ok rest) :
    ∃ text, s = text ++ rest ∧ Scale text := by
  unfold skipExponent at h
  extract_lets tail at h
  obtain ⟨sign, hsign, hs⟩ :
      ∃ sign, (sign = [] ∨ sign = ['+'] ∨ sign = ['-']) ∧ s = sign ++ tail := by
    unfold tail
    split
    · exact ⟨['+'], .inr (.inl rfl), rfl⟩
    · exact ⟨['-'], .inr (.inr rfl), rfl⟩
    · exact ⟨[], .inl rfl, rfl⟩
  split at h
  · next hdigit =>
      cases h
      obtain ⟨ds, hne, hds, hsplit⟩ := exists_digits_of_startsWithDigit hdigit
      exact ⟨sign ++ ds, by rw [List.append_assoc, ← hsplit, ← hs], .mk hsign hne hds⟩
  · cases h

theorem skipAfterDigits_eq_ok
    (h : skipAfterDigits s = .ok rest) :
    ∃ fraction exponent, s = fraction ++ (exponent ++ rest) ∧
      Fraction fraction ∧ Exponent exponent := by
  unfold skipAfterDigits at h
  split at h
  · next tail =>
      split at h
      · next hdigit =>
          obtain ⟨ds, hne, hds, hsplit⟩ := exists_digits_of_startsWithDigit hdigit
          have hfraction : Fraction ('.' :: ds) := .digits hne hds
          split at h
          · next hletter =>
              obtain ⟨text, rfl, hscale⟩ := skipExponent_eq_ok h
              rw [hletter] at hsplit
              exact ⟨'.' :: ds, 'e' :: text, by rw [hsplit]; rfl, hfraction, .scale (.inl rfl) hscale⟩
          · next hletter =>
              obtain ⟨text, rfl, hscale⟩ := skipExponent_eq_ok h
              rw [hletter] at hsplit
              exact ⟨'.' :: ds, 'E' :: text, by rw [hsplit]; rfl, hfraction, .scale (.inr rfl) hscale⟩
          · cases h
            refine ⟨'.' :: ds, [], ?_, hfraction, .none⟩
            rw [List.nil_append, List.cons_append, ← hsplit]
      · cases h
  · obtain ⟨text, rfl, hscale⟩ := skipExponent_eq_ok h
    exact ⟨[], 'e' :: text, rfl, .none, .scale (.inl rfl) hscale⟩
  · obtain ⟨text, rfl, hscale⟩ := skipExponent_eq_ok h
    exact ⟨[], 'E' :: text, rfl, .none, .scale (.inr rfl) hscale⟩
  · cases h
    exact ⟨[], [], rfl, .none, .none⟩

/-- A number that is passed over is one of the grammar. -/
theorem skipNumber_eq_ok
    (h : skipNumber s = .ok rest) :
    ∃ text, s = text ++ rest ∧ Unsigned text := by
  unfold skipNumber at h
  split at h
  · cases h
  · next c s =>
      split at h
      · next hzero =>
          split at h
          · cases h
          · obtain ⟨fraction, exponent, rfl, hfraction, hexponent⟩ := skipAfterDigits_eq_ok h
            subst hzero
            refine ⟨_, ?_, .mk .zero hfraction hexponent⟩
            simp only [List.append_assoc, List.cons_append, List.nil_append]
      · next hzero =>
          split at h
          · next hc =>
              obtain ⟨ds, hds, hs⟩ := exists_digits_append_dropWhile s
              obtain ⟨fraction, exponent, htail, hfraction, hexponent⟩ := skipAfterDigits_eq_ok h
              rw [htail] at hs
              refine ⟨_, ?_, .mk (.positive hc hzero hds) hfraction hexponent⟩
              rw [hs]
              simp only [List.append_assoc, List.cons_append]
          · cases h

end Numbers

end Json
end Keyring
