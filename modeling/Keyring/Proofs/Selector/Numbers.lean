import Mathlib.Data.List.Nodup
import Keyring.Proofs.Selector.Consulting
import Keyring.Proofs.Text.Trim

/-!
# The numbers of the menu

The menu shows keys by number and asks for a number.  What it shows, what it announces as the default and how
it reads the answer are written apart from each other; they agree.

Main facts:
* `Selector.Menu.readNumber?_eq_some_iff`: the answers that are read as numbers are decimal numerals whose
  values fit a machine word;
* `Selector.Menu.shows`: the entry with a number shows the key at that place, and the number that is announced
  is that of the only marked entry, or one if none is marked;
* `Selector.Menu.decision_iff`: the reply decides by the number that it stands for, and the key that is chosen
  is the one that is shown with it;
* `Selector.select_menu_iff_decision`: so does the menu, with one text shown and one question asked.
-/

namespace Keyring
namespace Selector
namespace Menu

section Numerals

/-- Whether a text is a decimal numeral for a number: one digit or more, perhaps after a plus sign. -/
inductive Numeral : List Char → Nat → Prop
  | bare
      {digits : List Char}
      (hsome : digits ≠ [])
      (hdigit : ∀ c ∈ digits, c.isDigit = true) :
      Numeral digits (Nat.ofDigitChars 10 digits 0)
  | signed
      {digits : List Char}
      (hsome : digits ≠ [])
      (hdigit : ∀ c ∈ digits, c.isDigit = true) :
      Numeral ('+' :: digits) (Nat.ofDigitChars 10 digits 0)

theorem unsigned_eq_self
    {s : List Char}
    (hs : s.head? ≠ some '+') :
    unsigned s = s := by
  unfold unsigned
  split
  · exact absurd rfl hs
  · rfl

/-- A numeral is read off what is left without its sign. -/
theorem numeral_iff
    {s : List Char}
    {n : Nat} :
    Numeral s n ↔
      unsigned s ≠ [] ∧ (∀ c ∈ unsigned s, c.isDigit = true) ∧
        n = Nat.ofDigitChars 10 (unsigned s) 0 := by
  constructor
  · intro h
    cases h with
    | bare hsome hdigit =>
        have hunsigned : unsigned s = s := by
          apply unsigned_eq_self
          intro hplus
          exact absurd (hdigit '+' (List.mem_of_head? hplus)) (by decide)
        rw [hunsigned]
        exact ⟨hsome, hdigit, rfl⟩
    | signed hsome hdigit => exact ⟨hsome, hdigit, rfl⟩
  · rintro ⟨hsome, hdigit, rfl⟩
    by_cases hplus : s.head? = some '+'
    · obtain ⟨digits, rfl⟩ := List.head?_eq_some_iff.1 hplus
      exact .signed hsome hdigit
    · rw [unsigned_eq_self hplus] at hsome hdigit ⊢
      exact .bare hsome hdigit

theorem Numeral.ne_nil
    {s : List Char}
    {n : Nat}
    (h : Numeral s n) :
    s ≠ [] := by
  cases h with
  | bare hsome hdigit => exact hsome
  | signed hsome hdigit => exact List.cons_ne_nil _ _

/-- What is read as a number is a numeral for it, and the number fits a machine word. -/
theorem readNumber?_eq_some_iff
    {s : List Char}
    {n : Nat} :
    readNumber? s = some n ↔ Numeral s n ∧ n ≤ greatestNumber := by
  have hrefused : ((unsigned s).isEmpty || !(unsigned s).all Char.isDigit) = true ↔
      ¬(unsigned s ≠ [] ∧ ∀ c ∈ unsigned s, c.isDigit = true) := by
    rw [← List.all_eq_true, Bool.or_eq_true, List.isEmpty_iff, Bool.not_eq_true', not_and_or, not_not,
      Bool.not_eq_true]
  rw [numeral_iff, readNumber?]
  simp only [hrefused]
  split
  · next hform => exact iff_of_false (fun h => by cases h) fun h => hform ⟨h.1.1, h.1.2.1⟩
  · next hform =>
      obtain ⟨hsome, hdigit⟩ := not_not.1 hform
      split
      · next hword =>
          constructor
          · intro h
            cases h
            exact ⟨⟨hsome, hdigit, rfl⟩, hword⟩
          · rintro ⟨⟨-, -, rfl⟩, -⟩
            rfl
      · next hword =>
          refine iff_of_false (fun h => by cases h) ?_
          rintro ⟨⟨-, -, rfl⟩, hfits⟩
          exact hword hfits

end Numerals

section Entries

variable {keys : Collection} {hint : Option KeyName}

theorem length_linesFrom
    (hint : Option KeyName)
    (number : Nat)
    (ps : List Profile) :
    (linesFrom hint number ps).length = ps.length := by
  induction ps generalizing number with
  | nil => rfl
  | cons key rest ih => simp only [linesFrom, List.length_cons, ih]

theorem getElem?_linesFrom
    (hint : Option KeyName)
    (number : Nat)
    (ps : List Profile)
    (i : Nat) :
    (linesFrom hint number ps)[i]? = ps[i]?.map fun key => line hint key (number + i) := by
  induction ps generalizing number i with
  | nil => rfl
  | cons key rest ih =>
      cases i with
      | zero => rfl
      | succ i => rw [linesFrom, List.getElem?_cons_succ, List.getElem?_cons_succ, ih, Nat.add_right_comm,
          Nat.add_assoc]

/-- A marked entry starts with the arrow. -/
theorem arrow_prefix_line_iff
    (hint : Option KeyName)
    (key : Profile)
    (number : Nat) :
    "> ".toList <+: (line hint key number).toList ↔ some key.name = hint := by
  by_cases hhint : some key.name = hint
  · simp [line, hhint]
  · simp [line, hhint]

/-- An entry that is not marked ends with the parenthesis behind the mask. -/
theorem lastUsed_suffix_line_iff
    (hint : Option KeyName)
    (key : Profile)
    (number : Nat) :
    " [last used]".toList <:+ (line hint key number).toList ↔ some key.name = hint := by
  by_cases hhint : some key.name = hint
  · simp only [line, hhint, decide_true, if_true, String.toList_append, iff_true]
    exact List.suffix_append _ _
  · have hline : line hint key number =
        "  " ++ toString number ++ ") " ++ key.name.value ++ " (" ++ key.masked ++ ")" := by
      simp only [line, hhint, decide_false, Bool.false_eq_true, if_false, String.append_empty]
    have hend : (line hint key number).toList.getLast? = some ')' := by
      rw [hline, String.toList_append]
      exact List.getLast?_concat
    refine iff_of_false ?_ hhint
    intro hsuffix
    have hbracket : [']'] <:+ " [last used]".toList := ⟨" [last used".toList, by decide⟩
    have hlast := List.singleton_suffix_iff_getLast?_eq_some.1 (hbracket.trans hsuffix)
    rw [hend] at hlast
    exact absurd hlast (by decide)

/-- Names are different, so the number of a name is that of its place. -/
theorem numberOf?_of_getElem?
    {i : Nat}
    {name : KeyName}
    (h : keys.names[i]? = some name) :
    numberOf? keys name = some (i + 1) := by
  have hnodup : keys.names.Nodup := keys.names_nodup
  obtain ⟨hi, hname⟩ := List.getElem?_eq_some_iff.1 h
  have hindex : keys.names.findIdx? (· == name) = some i := by
    rw [List.findIdx?_eq_some_iff_getElem]
    refine ⟨hi, by rw [hname, beq_self_eq_true], ?_⟩
    intro j hj hsame
    rw [beq_iff_eq, ← hname, hnodup.getElem_inj_iff] at hsame
    omega
  rw [numberOf?, hindex, Option.map_some]

theorem defaultNumber_of_getElem?
    {i : Nat}
    {name : KeyName}
    (hhint : hint = some name)
    (h : keys.names[i]? = some name) :
    defaultNumber keys hint = i + 1 := by
  rw [defaultNumber, hhint, Option.bind_some, numberOf?_of_getElem? h, Option.getD_some]

theorem defaultNumber_of_not_mem
    (h : ∀ name, hint = some name → name ∉ keys.names) :
    defaultNumber keys hint = 1 := by
  have hnone : hint.bind (numberOf? keys) = none := by
    rw [Option.bind_eq_none_iff]
    intro name hname
    rw [numberOf?, Option.map_eq_none_iff, List.findIdx?_eq_none_iff]
    intro other hother
    rw [beq_eq_false_iff_ne]
    rintro rfl
    exact h other hname hother
  rw [defaultNumber, hnone, Option.getD_none]

/-- Whether entries show keys under their numbers, the number announced is that of the hinted key, and the
entry of that key and no other is marked.  If no stored key is hinted at, the number announced is one. -/
structure Shows
    (keys : Collection)
    (hint : Option KeyName)
    (entries : List String)
    (number : Nat) :
    Prop where
  length : entries.length = keys.size
  entry : ∀ (i : Nat) key, keys.keys[i]? = some key → ∃ before behind,
    entries[i]? = some (before ++ toString (i + 1) ++ ") " ++ key.name.value ++ " (" ++ key.masked ++
      ")" ++ behind) ∧
    (hint = some key.name → before = "> " ∧ behind = " [last used]") ∧
    (hint ≠ some key.name → before = "  " ∧ behind = "")
  marked : ∀ (i : Nat) entry, entries[i]? = some entry →
    ("> ".toList <+: entry.toList ↔ keys.names[i]? = hint) ∧
    (" [last used]".toList <:+ entry.toList ↔ keys.names[i]? = hint)
  hinted : ∀ (i : Nat) name, hint = some name → keys.names[i]? = some name → number = i + 1
  unhinted : (∀ name, hint = some name → name ∉ keys.names) → number = 1

theorem shows
    (keys : Collection)
    (hint : Option KeyName) :
    Shows keys hint (linesFrom hint 1 keys.keys) (defaultNumber keys hint) where
  length := length_linesFrom hint 1 keys.keys
  entry := by
    intro i key hkey
    refine ⟨if some key.name = hint then "> " else "  ",
      if some key.name = hint then " [last used]" else "", ?_, ?_, ?_⟩
    · rw [getElem?_linesFrom, hkey, Option.map_some, Nat.add_comm 1]
      simp only [line, decide_eq_true_eq]
    · intro hhint
      rw [if_pos hhint.symm, if_pos hhint.symm]
      exact ⟨rfl, rfl⟩
    · intro hhint
      rw [if_neg (Ne.symm hhint), if_neg (Ne.symm hhint)]
      exact ⟨rfl, rfl⟩
  marked := by
    intro i entry hentry
    rw [getElem?_linesFrom, Option.map_eq_some_iff] at hentry
    obtain ⟨key, hkey, rfl⟩ := hentry
    have hname : keys.names[i]? = some key.name := by
      rw [Collection.names, List.getElem?_map, hkey, Option.map_some]
    rw [hname]
    exact ⟨arrow_prefix_line_iff hint key (1 + i), lastUsed_suffix_line_iff hint key (1 + i)⟩
  hinted := fun i name => defaultNumber_of_getElem?
  unhinted := defaultNumber_of_not_mem

/-- The number that is announced is shown with a key, if there is any. -/
theorem exists_defaultNumber
    (hint : Option KeyName)
    (hsome : keys.keys ≠ []) :
    ∃ (i : Nat) (key : Profile), defaultNumber keys hint = i + 1 ∧ keys.keys[i]? = some key := by
  by_cases hstored : ∃ name, hint = some name ∧ name ∈ keys.names
  · obtain ⟨name, hhint, hmem⟩ := hstored
    obtain ⟨i, hi⟩ := List.mem_iff_getElem?.1 hmem
    have hnumber := defaultNumber_of_getElem? hhint hi
    rw [Collection.names, List.getElem?_map, Option.map_eq_some_iff] at hi
    obtain ⟨key, hkey, -⟩ := hi
    exact ⟨i, key, hnumber, hkey⟩
  · obtain ⟨key, rest, hkeys⟩ := List.exists_cons_of_ne_nil hsome
    have hnumber : defaultNumber keys hint = 1 :=
      defaultNumber_of_not_mem fun name hhint hmem => hstored ⟨name, hhint, hmem⟩
    exact ⟨0, key, hnumber, by rw [hkeys, List.getElem?_cons_zero]⟩

end Entries

section Decisions

variable {keys : Collection} {hint : Option KeyName}

/-- The rules by which the reply to the question decides, where a number is announced as the default.  A number
is understood as far as a machine word goes, which is further than there can be keys in memory. -/
inductive Decision
    (keys : Collection)
    (number : Nat) :
    Reply → Except Failure Selection → Prop
  | blank
      {answer : String} {i : Nat} {key : Profile}
      (hblank : Text.isBlankText answer = true)
      (hnumber : number = i + 1)
      (hkey : keys.keys[i]? = some key) :
      Decision keys number (.ok answer) (.ok (.chosen key.name))
  | numeral
      {answer : String} {i : Nat} {key : Profile}
      (hnumeral : Numeral (Text.trim answer.toList) (i + 1))
      (hword : i + 1 ≤ greatestNumber)
      (hkey : keys.keys[i]? = some key) :
      Decision keys number (.ok answer) (.ok (.chosen key.name))
  | outside
      {answer : String} {n : Nat}
      (hnumeral : Numeral (Text.trim answer.toList) n)
      (hword : n ≤ greatestNumber)
      (hout : n = 0 ∨ keys.size < n) :
      Decision keys number (.ok answer)
        (.error (.invalidSelection ("invalid selection " ++ toString n ++ expected keys)))
  | unreadable
      {answer : String}
      (hvisible : Text.isBlankText answer = false)
      (hnone : ∀ n, Numeral (Text.trim answer.toList) n → greatestNumber < n) :
      Decision keys number (.ok answer)
        (.error (.invalidSelection
          ("invalid selection '" ++ Text.trimmed answer ++ "'" ++ expected keys)))
  | ended :
      Decision keys number (.error .endOfInput) (.error .selectionCancelled)
  | interrupted :
      Decision keys number (.error .interrupted) (.error .selectionCancelled)
  | broken (reason : String) :
      Decision keys number (.error (.broken reason))
        (.error (.internal ("failed to read selection: " ++ reason)))

/-- A number chooses the key that is shown with it. -/
theorem choose_of_numberOf
    {answer : String}
    {i : Nat}
    {key : Profile}
    (hnumber : numberOf keys hint (Text.trim answer.toList) = .ok (i + 1))
    (hkey : keys.keys[i]? = some key) :
    choose keys hint answer = .ok key.name := by
  have hname : keys.names[i]? = some key.name := by
    rw [Collection.names, List.getElem?_map, hkey, Option.map_some]
  simp only [choose, hnumber, Nat.add_sub_cancel, hname, Nat.add_one_ne_zero, if_false]

/-- A number with which no key is shown chooses none. -/
theorem choose_of_out
    {answer : String}
    {n : Nat}
    (hnumber : numberOf keys hint (Text.trim answer.toList) = .ok n)
    (hout : n = 0 ∨ keys.size < n) :
    choose keys hint answer =
      .error (.invalidSelection ("invalid selection " ++ toString n ++ expected keys)) := by
  have hnone : (if n = 0 then none else keys.names[n - 1]?) = none := by
    rcases hout with rfl | hlarge
    · rfl
    · rw [if_neg (by omega), List.getElem?_eq_none_iff, Collection.names, List.length_map]
      change keys.size ≤ n - 1
      omega
  simp only [choose, hnumber, hnone]

theorem numberOf_of_numeral
    {text : List Char}
    {n : Nat}
    (hnumeral : Numeral text n)
    (hword : n ≤ greatestNumber) :
    numberOf keys hint text = .ok n := by
  have hread : readNumber? text = some n := readNumber?_eq_some_iff.2 ⟨hnumeral, hword⟩
  have hsome : text.isEmpty = false := List.isEmpty_eq_false_iff.2 hnumeral.ne_nil
  simp [numberOf, hsome, hread]

/-- A text is blank if nothing of it is left after trimming. -/
theorem isEmpty_trim
    (s : String) :
    (Text.trim s.toList).isEmpty = Text.isBlankText s := by
  rw [Bool.eq_iff_iff, Text.isBlankText_iff, Text.trimmed, String.ofList_eq_empty_iff, List.isEmpty_iff]

theorem numberOf_of_blank
    {answer : String}
    (hblank : Text.isBlankText answer = true) :
    numberOf keys hint (Text.trim answer.toList) = .ok (defaultNumber keys hint) := by
  rw [numberOf, isEmpty_trim, hblank, if_pos rfl]

theorem numberOf_of_unreadable
    {answer : String}
    (hvisible : Text.isBlankText answer = false)
    (hnone : ∀ n, Numeral (Text.trim answer.toList) n → greatestNumber < n) :
    numberOf keys hint (Text.trim answer.toList) =
      .error (.invalidSelection ("invalid selection '" ++ Text.trimmed answer ++ "'" ++ expected keys)) := by
  have hread : readNumber? (Text.trim answer.toList) = none := by
    rw [Option.eq_none_iff_forall_ne_some]
    intro n hn
    obtain ⟨hnumeral, hword⟩ := readNumber?_eq_some_iff.1 hn
    exact Nat.not_le.2 (hnone n hnumeral) hword
  simp only [numberOf, isEmpty_trim, hvisible, Bool.false_eq_true, if_false, hread, Text.trimmed]

theorem Decision.eq_verdict
    {reply : Reply}
    {said : Except Failure Selection}
    (h : Decision keys (defaultNumber keys hint) reply said) :
    said = verdict keys hint reply := by
  cases h with
  | blank hblank hnumber hkey =>
      rw [verdict, choose_of_numberOf ((numberOf_of_blank hblank).trans (congrArg _ hnumber)) hkey]
      rfl
  | numeral hnumeral hword hkey =>
      rw [verdict, choose_of_numberOf (numberOf_of_numeral hnumeral hword) hkey]
      rfl
  | outside hnumeral hword hout =>
      rw [verdict, choose_of_out (numberOf_of_numeral hnumeral hword) hout]
      rfl
  | unreadable hvisible hnone =>
      rw [verdict, choose, numberOf_of_unreadable hvisible hnone]
      rfl
  | ended => rfl
  | interrupted => rfl
  | broken reason => rfl

/-- Every reply decides. -/
theorem exists_decision
    (hint : Option KeyName)
    (hsome : keys.keys ≠ [])
    (reply : Reply) :
    ∃ said, Decision keys (defaultNumber keys hint) reply said := by
  cases reply with
  | error fault =>
      cases fault with
      | endOfInput => exact ⟨_, .ended⟩
      | interrupted => exact ⟨_, .interrupted⟩
      | broken reason => exact ⟨_, .broken reason⟩
  | ok answer =>
      cases hblank : Text.isBlankText answer with
      | true =>
          obtain ⟨i, key, hnumber, hkey⟩ := exists_defaultNumber hint hsome
          exact ⟨_, .blank hblank hnumber hkey⟩
      | false =>
          by_cases hunreadable : ∀ n, Numeral (Text.trim answer.toList) n → greatestNumber < n
          · exact ⟨_, .unreadable hblank hunreadable⟩
          · obtain ⟨n, hnot⟩ := not_forall.1 hunreadable
            obtain ⟨hnumeral, hfits⟩ := Classical.not_imp.1 hnot
            have hword : n ≤ greatestNumber := Nat.not_lt.1 hfits
            by_cases hout : n = 0 ∨ keys.size < n
            · exact ⟨_, .outside hnumeral hword hout⟩
            · obtain ⟨i, rfl⟩ := Nat.exists_eq_add_one_of_ne_zero fun h => hout (.inl h)
              have hlarge : ¬keys.keys.length < i + 1 := fun h => hout (.inr h)
              have hi : i < keys.keys.length := by omega
              exact ⟨_, .numeral hnumeral hword (List.getElem?_eq_getElem hi)⟩

/-- The rules say what the reply comes to. -/
theorem decision_iff
    (hint : Option KeyName)
    (hsome : keys.keys ≠ [])
    {reply : Reply}
    {said : Except Failure Selection} :
    Decision keys (defaultNumber keys hint) reply said ↔ said = verdict keys hint reply := by
  constructor
  · exact Decision.eq_verdict
  · rintro rfl
    obtain ⟨said, hdecision⟩ := exists_decision hint hsome reply
    rw [← hdecision.eq_verdict]
    exact hdecision

/-- The key that is chosen is stored. -/
theorem Decision.mem_names
    {number : Nat}
    {reply : Reply}
    {name : KeyName}
    (h : Decision keys number reply (.ok (.chosen name))) :
    name ∈ keys.names := by
  cases h with
  | blank hblank hnumber hkey => exact List.mem_map_of_mem (List.mem_of_getElem? hkey)
  | numeral hnumeral hword hkey => exact List.mem_map_of_mem (List.mem_of_getElem? hkey)

end Decisions

section Asking

variable (keys : Collection) (hint : Option KeyName) (w : World)

theorem shown_asking :
    (asking keys hint w).2.terminal.shown = w.terminal.shown ++ [text keys hint] := by
  simp only [asking, World.ask, Terminal.ask]
  split
  · rfl
  · rfl

theorem asked_asking :
    (asking keys hint w).2.terminal.asked = w.terminal.asked ++ [question keys hint] := by
  simp only [asking, World.ask, Terminal.ask]
  split
  · rfl
  · rfl

end Asking

end Menu

/-- A menu among several keys shows each of them under its number and asks one question.  The reply decides by
the rules, so that a number stands for the key that is shown with it and a blank answer for the number that
the question announces, and only stored keys are chosen. -/
theorem select_menu_iff_decision
    {keys : Collection}
    (hint : Option KeyName)
    (w : World)
    (hmany : 2 ≤ keys.size) :
    ∃ entries number,
      Menu.Shows keys hint entries number ∧ 1 ≤ number ∧ number ≤ keys.size ∧
      let text := String.intercalate "\n" ("Select an API key:" :: "" :: entries)
      let question := "Enter number (1-" ++ toString keys.size ++ ", default: " ++ toString number ++ "): "
      (∀ said w', menu.select keys hint w = (said, w') ↔
        ∃ reply, (w.display text).ask question = (reply, w') ∧ Menu.Decision keys number reply said) ∧
      (menu.select keys hint w).2.terminal.shown = w.terminal.shown ++ [text] ∧
      (menu.select keys hint w).2.terminal.asked = w.terminal.asked ++ [question] ∧
      ∀ name, (menu.select keys hint w).1 = .ok (.chosen name) → name ∈ keys.names := by
  have hsome : keys.keys ≠ [] := by
    intro hnil
    simp [Collection.size, hnil] at hmany
  have hselect : menu.select keys hint w =
      (Menu.verdict keys hint (Menu.asking keys hint w).1, (Menu.asking keys hint w).2) := by
    rw [select_of_two_le hint w _ hmany, consult, Menu.run_eq]
  obtain ⟨i, key, hnumber, hkey⟩ := Menu.exists_defaultNumber hint hsome
  have hplace : i < keys.size := (List.getElem?_eq_some_iff.1 hkey).1
  refine ⟨Menu.linesFrom hint 1 keys.keys, Menu.defaultNumber keys hint, Menu.shows keys hint,
    by omega, by omega, ?_, ?_, ?_, ?_⟩
  · intro said w'
    rw [hselect]
    constructor
    · intro h
      obtain ⟨hsaid, hworld⟩ := Prod.mk.inj h
      exact ⟨(Menu.asking keys hint w).1, Prod.ext rfl hworld, (Menu.decision_iff hint hsome).2 hsaid.symm⟩
    · rintro ⟨reply, hask, hdecision⟩
      have hasking : Menu.asking keys hint w = (reply, w') := hask
      rw [hasking, (Menu.decision_iff hint hsome).1 hdecision]
  · rw [hselect]
    exact Menu.shown_asking keys hint w
  · rw [hselect]
    exact Menu.asked_asking keys hint w
  · intro name hname
    rw [hselect] at hname
    exact ((Menu.decision_iff hint hsome).2 hname.symm).mem_names

section Example

/-- Three keys. -/
def trio : Collection :=
  ((Collection.empty.add (.make ⟨"first", by decide, by decide⟩ "k" none none ⟨0⟩)).add
    (.make ⟨"second", by decide, by decide⟩ "k" none none ⟨0⟩)).add
    (.make ⟨"third", by decide, by decide⟩ "[last used]" none none ⟨0⟩)

/-- A world in which a question will be answered. -/
def worldWithAnswer (answer : String) : World :=
  .fresh none .bare [.ok answer]

theorem select_menu_iff_decision_signed :
    2 ≤ trio.size ∧
      (menu.select trio (some ⟨"third", by decide, by decide⟩) (worldWithAnswer "\t+02\n")).1 =
        .ok (.chosen ⟨"second", by decide, by decide⟩) ∧
      (menu.select trio (some ⟨"third", by decide, by decide⟩)
        (worldWithAnswer "\t+02\n")).2.terminal.asked = ["Enter number (1-3, default: 3): "] := by
  have hmany : 2 ≤ trio.size := by decide
  obtain ⟨entries, number, hshows, -, -, hdecision, -, hasked, -⟩ :=
    select_menu_iff_decision (some ⟨"third", by decide, by decide⟩) (worldWithAnswer "\t+02\n") hmany
  have hnumber : number = 3 := hshows.hinted 2 _ rfl (by decide)
  have hnumeral : Menu.Numeral (Text.trim "\t+02\n".toList) 2 := by
    have htrim : Text.trim "\t+02\n".toList = ['+', '0', '2'] := by decide +kernel
    rw [htrim]
    exact @Menu.Numeral.signed ['0', '2'] (by decide) (List.all_eq_true.1 rfl)
  have hrule : Menu.Decision trio number (.ok "\t+02\n")
      (.ok (.chosen ⟨"second", by decide, by decide⟩)) :=
    @Menu.Decision.numeral trio number _ 1 (.make ⟨"second", by decide, by decide⟩ "k" none none ⟨0⟩)
      hnumeral (by decide) (by decide +kernel)
  refine ⟨hmany, ?_, ?_⟩
  · rw [(hdecision _ _).2 ⟨_, rfl, hrule⟩]
  · rw [hasked, hnumber]
    decide +kernel

end Example

end Selector
end Keyring
