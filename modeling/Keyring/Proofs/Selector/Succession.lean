import Keyring.Config
import Keyring.Proofs.Selector.Dialogue
import Keyring.Proofs.Selector.Framing

/-!
# The first selector that answers

A chain of selectors comes to the answer of the first selector that does not say that it cannot be used.
Selectors that cannot be used leave everything as it was but for the record of who has been asked, so what
each selector of the chain says is settled before the first of them is asked, and those that cannot be used
may as well be left out.

Main facts:
* `Selector.select_congr`: what a selector says and does goes by the world without that record;
* `Selector.selectFirst_eq`: the result is the first answer, and the selectors are asked in turn up to the
  one that gives it;
* `Selector.Thinned.selectFirst`: a chain without some selectors that cannot be used comes to the same end;
* `Selector.chooseWith_firstAnswer`: the same of a whole choice, with its record and the cases in which nobody
  is asked.
-/

namespace Keyring

namespace World

variable {w w' : World}

theorem start_unrecorded
    (w : World)
    (i : Host.Invocation) :
    w.unrecorded.start i = ((w.start i).1, (w.start i).2.unrecorded) := by
  have hmachine : w.unrecorded.machine = w.machine := rfl
  simp only [start, hmachine]
  split
  · rfl
  · rfl

/-- How a program ends does not depend on the record. -/
theorem start_congr
    (i : Host.Invocation)
    (h : w'.unrecorded = w.unrecorded) :
    (w'.start i).1 = (w.start i).1 ∧ (w'.start i).2.unrecorded = (w.start i).2.unrecorded := by
  have hstart := w'.start_unrecorded i
  rw [h, w.start_unrecorded i] at hstart
  obtain ⟨hresult, hworld⟩ := Prod.mk.inj hstart
  exact ⟨hresult.symm, hworld.symm⟩

end World

namespace Selector

variable {keys : Collection} {hint : Option KeyName} {w w' : World}

section Congruence

theorem Menu.run_congr
    (h : w'.unrecorded = w.unrecorded) :
    (Menu.run keys hint w').1 = (Menu.run keys hint w).1 ∧
      (Menu.run keys hint w').2.unrecorded = (Menu.run keys hint w).2.unrecorded := by
  have hasking : ∀ v : World, Menu.asking keys hint v.unrecorded =
      ((Menu.asking keys hint v).1, (Menu.asking keys hint v).2.unrecorded) := fun _ => rfl
  have hsame := hasking w'
  rw [h, hasking w] at hsame
  obtain ⟨hreply, hworld⟩ := Prod.mk.inj hsame
  rw [Menu.run_eq, Menu.run_eq, hreply]
  exact ⟨rfl, hworld.symm⟩

theorem Picker.run_congr
    {o : PickerOptions}
    (h : w'.unrecorded = w.unrecorded) :
    (Picker.run o keys hint w').1 = (Picker.run o keys hint w).1 ∧
      (Picker.run o keys hint w').2.unrecorded = (Picker.run o keys hint w).2.unrecorded := by
  have hmachine : w'.machine = w.machine := by
    have hmachine := congrArg World.machine h
    exact hmachine
  by_cases havailable : w.machine.hasPicker o.program = true
  · have havailable' : w'.machine.hasPicker o.program = true := by rw [hmachine, havailable]
    let i := Picker.invocation o keys hint
    have hcalling : (w'.calling i).unrecorded = (w.calling i).unrecorded := h
    obtain ⟨houtcome, hworld⟩ := World.start_congr i hcalling
    rw [Picker.run_of_available keys hint w havailable,
      Picker.run_of_available keys hint w' havailable']
    exact ⟨congrArg (Picker.verdict o) houtcome, hworld⟩
  · have hmissing : w'.machine.hasPicker o.program ≠ true := by rwa [hmachine]
    rw [Picker.run_of_missing keys hint w havailable, Picker.run_of_missing keys hint w' hmissing]
    exact ⟨rfl, h⟩

theorem consult_congr
    (s : Selector)
    (h : w'.unrecorded = w.unrecorded) :
    (s.consult keys hint w').1 = (s.consult keys hint w).1 ∧
      (s.consult keys hint w').2.unrecorded = (s.consult keys hint w).2.unrecorded := by
  cases s with
  | menu => exact Menu.run_congr h
  | picker o => exact Picker.run_congr h
  | fixed number outcome => exact ⟨rfl, h⟩

/-- What a selector says and does goes by the world without the record of who has been asked. -/
theorem select_congr
    (s : Selector)
    (h : w'.unrecorded = w.unrecorded) :
    (s.select keys hint w').1 = (s.select keys hint w).1 ∧
      (s.select keys hint w').2.unrecorded = (s.select keys hint w).2.unrecorded := by
  unfold select
  split
  · exact consult_congr _ h
  · split
    · exact ⟨rfl, h⟩
    · exact ⟨rfl, h⟩
    · exact consult_congr _ h

end Congruence

section Answers

/-- What a selector answers when it is asked, unless it says that it cannot be used. -/
def answer?
    (keys : Collection)
    (hint : Option KeyName)
    (w : World)
    (s : Selector) :
    Option (Except Failure KeyName) :=
  match (s.select keys hint w).1 with
  | .error f => some (.error f)
  | .ok (.chosen name) => some (.ok name)
  | .ok (.unavailable _) => none

/-- The selectors of a chain up to and with the first that answers, or all of them if none does. -/
def untilAnswer
    (keys : Collection)
    (hint : Option KeyName)
    (w : World)
    (chain : List Selector) :
    List Selector :=
  chain.take (chain.findIdx (fun s => (answer? keys hint w s).isSome) + 1)

/-- The world after selectors have been asked in turn, each of them once. -/
def askedInTurn
    (keys : Collection)
    (hint : Option KeyName)
    (asked : List Selector)
    (w : World) :
    World :=
  asked.foldl (fun w s => (s.select keys hint w).2) w

/-- The result of a chain in which no selector can be used. -/
def nobody : Except Failure KeyName :=
  .error (.internal "no key selector is available")

theorem answer?_eq_none_iff
    {s : Selector} :
    answer? keys hint w s = none ↔
      ∃ reason w₁, s.select keys hint w = (.ok (.unavailable reason), w₁) := by
  unfold answer?
  cases s.select keys hint w with
  | mk said w₁ =>
      cases said with
      | error f => simp
      | ok selection =>
          cases selection with
          | chosen name => simp
          | unavailable reason => simp

theorem unrecorded_of_answer?_eq_none
    {s : Selector}
    (h : answer? keys hint w s = none) :
    (s.select keys hint w).2.unrecorded = w.unrecorded := by
  obtain ⟨reason, w₁, hselect⟩ := answer?_eq_none_iff.1 h
  rw [hselect]
  exact unrecorded_of_select hselect

/-- What selectors answer is settled by the world without the record. -/
theorem answer?_congr
    (h : w'.unrecorded = w.unrecorded) :
    answer? keys hint w' = answer? keys hint w := by
  funext s
  rw [answer?, (select_congr s h).1, answer?]

theorem untilAnswer_congr
    (h : w'.unrecorded = w.unrecorded) :
    untilAnswer keys hint w' = untilAnswer keys hint w := by
  funext chain
  rw [untilAnswer, answer?_congr h, untilAnswer]

theorem untilAnswer_cons_of_answer
    {s : Selector}
    {rest : List Selector}
    {answer : Except Failure KeyName}
    (h : answer? keys hint w s = some answer) :
    untilAnswer keys hint w (s :: rest) = [s] := by
  simp [untilAnswer, List.findIdx_cons, h]

theorem untilAnswer_cons_of_none
    {s : Selector}
    {rest : List Selector}
    (h : answer? keys hint w s = none) :
    untilAnswer keys hint w (s :: rest) = s :: untilAnswer keys hint w rest := by
  simp [untilAnswer, List.findIdx_cons, h]

/-- A chain stops at a selector that answers. -/
theorem selectFirst_cons_of_answer
    {s : Selector}
    {rest : List Selector}
    {answer : Except Failure KeyName}
    (h : answer? keys hint w s = some answer) :
    selectFirst keys hint (s :: rest) w = (answer, (s.select keys hint w).2) := by
  unfold answer? at h
  unfold selectFirst
  cases hselect : s.select keys hint w with
  | mk said w₁ =>
      rw [hselect] at h
      cases said with
      | error f =>
          cases h
          rfl
      | ok selection =>
          cases selection with
          | chosen name =>
              cases h
              rfl
          | unavailable reason => cases h

/-- A chain goes on after a selector that cannot be used. -/
theorem selectFirst_cons_of_none
    {s : Selector}
    {rest : List Selector}
    (h : answer? keys hint w s = none) :
    selectFirst keys hint (s :: rest) w = selectFirst keys hint rest (s.select keys hint w).2 := by
  obtain ⟨reason, w₁, hselect⟩ := answer?_eq_none_iff.1 h
  rw [selectFirst, hselect]

/-- A chain comes to the first answer, having asked in turn up to the selector that gives it. -/
theorem selectFirst_eq
    (chain : List Selector)
    (w : World) :
    selectFirst keys hint chain w =
      ((chain.findSome? (answer? keys hint w)).getD nobody,
        askedInTurn keys hint (untilAnswer keys hint w chain) w) := by
  induction chain generalizing w with
  | nil => rfl
  | cons s rest ih =>
      cases hanswer : answer? keys hint w s with
      | some answer =>
          rw [selectFirst_cons_of_answer hanswer, untilAnswer_cons_of_answer hanswer,
            List.findSome?_cons, hanswer]
          rfl
      | none =>
          -- What the rest says after this selector it would have said before.
          have hworld := unrecorded_of_answer?_eq_none hanswer
          rw [selectFirst_cons_of_none hanswer, untilAnswer_cons_of_none hanswer, ih,
            answer?_congr hworld, untilAnswer_congr hworld, List.findSome?_cons, hanswer]
          rfl

end Answers

section Record

/-- What asking a selector adds to the record of consultations. -/
def consultationsOf
    (keys : Collection)
    (hint : Option KeyName) :
    Selector → List Consultation
  | .fixed number _ => [⟨number, keys, hint⟩]
  | .menu => []
  | .picker _ => []

/-- What asking a selector adds to the record of called pickers. -/
def callsOf
    (keys : Collection)
    (hint : Option KeyName)
    (m : Host.Machine) :
    Selector → List Host.Invocation
  | .picker o => if m.hasPicker o.program then [Picker.invocation o keys hint] else []
  | .menu => []
  | .fixed _ _ => []

theorem consultations_consult
    (s : Selector) :
    (s.consult keys hint w).2.consultations = w.consultations ++ consultationsOf keys hint s := by
  cases s with
  | menu =>
      rw [consult, Menu.run_eq, consultationsOf, List.append_nil]
      rfl
  | picker o =>
      rw [consult, consultationsOf, List.append_nil]
      by_cases havailable : w.machine.hasPicker o.program = true
      · rw [Picker.run_of_available keys hint w havailable, World.consultations_start]
        rfl
      · rw [Picker.run_of_missing keys hint w havailable]
  | fixed number outcome => rfl

theorem consultations_select
    (hint : Option KeyName)
    (s : Selector)
    (w : World)
    (hmany : 2 ≤ keys.size) :
    (s.select keys hint w).2.consultations = w.consultations ++ consultationsOf keys hint s := by
  rw [select_of_two_le hint w s hmany, consultations_consult]

theorem pickers_select
    (hint : Option KeyName)
    (s : Selector)
    (w : World)
    (hmany : 2 ≤ keys.size) :
    (s.select keys hint w).2.pickers = w.pickers ++ callsOf keys hint w.machine s := by
  cases s with
  | menu =>
      rw [select_of_two_le hint w _ hmany, consult, Menu.run_eq, callsOf, List.append_nil]
      rfl
  | picker o =>
      rw [callsOf]
      by_cases havailable : w.machine.hasPicker o.program = true
      · rw [if_pos havailable, pickers_select_picker hint hmany havailable]
      · rw [if_neg havailable, select_of_two_le hint w _ hmany, consult,
          Picker.run_of_missing keys hint w havailable, List.append_nil]
  | fixed number outcome => exact (List.append_nil _).symm

/-- Everybody who is asked is given the same keys and the same hint. -/
theorem consultations_askedInTurn
    (asked : List Selector)
    (w : World)
    (hmany : 2 ≤ keys.size) :
    (askedInTurn keys hint asked w).consultations =
      w.consultations ++ asked.flatMap (consultationsOf keys hint) := by
  induction asked generalizing w with
  | nil => exact (List.append_nil _).symm
  | cons s rest ih =>
      have hrest := ih (s.select keys hint w).2
      rw [consultations_select hint s w hmany, List.append_assoc] at hrest
      exact hrest

/-- A picker of the chain is there or not as it was when the first selector was asked. -/
theorem pickers_askedInTurn_untilAnswer
    (chain : List Selector)
    (w : World)
    (hmany : 2 ≤ keys.size) :
    (askedInTurn keys hint (untilAnswer keys hint w chain) w).pickers =
      w.pickers ++ (untilAnswer keys hint w chain).flatMap (callsOf keys hint w.machine) := by
  induction chain generalizing w with
  | nil => exact (List.append_nil _).symm
  | cons s rest ih =>
      have hpickers := pickers_select hint s w hmany
      cases hanswer : answer? keys hint w s with
      | some answer =>
          rw [untilAnswer_cons_of_answer hanswer, List.flatMap_singleton]
          exact hpickers
      | none =>
          have hworld := unrecorded_of_answer?_eq_none hanswer
          have hmachine : (s.select keys hint w).2.machine = w.machine := by
            have hmachine := congrArg World.machine hworld
            exact hmachine
          have hrest := ih (s.select keys hint w).2
          rw [untilAnswer_congr hworld, hmachine, hpickers, List.append_assoc] at hrest
          rw [untilAnswer_cons_of_none hanswer]
          exact hrest

end Record

section Thinning

/-- Whether a chain is another one without some selectors that cannot be used. -/
inductive Thinned
    (keys : Collection)
    (hint : Option KeyName)
    (w : World) :
    List Selector → List Selector → Prop
  | nil : Thinned keys hint w [] []
  | keep
      {chain rest : List Selector}
      (s : Selector)
      (h : Thinned keys hint w chain rest) :
      Thinned keys hint w (s :: chain) (s :: rest)
  | drop
      {chain rest : List Selector} {s : Selector} {reason : String}
      (hs : (s.select keys hint w).1 = .ok (.unavailable reason))
      (h : Thinned keys hint w chain rest) :
      Thinned keys hint w (s :: chain) rest

variable {chain rest : List Selector}

theorem answer?_eq_none
    {s : Selector}
    {reason : String}
    (h : (s.select keys hint w).1 = .ok (.unavailable reason)) :
    answer? keys hint w s = none :=
  answer?_eq_none_iff.2 ⟨reason, _, Prod.ext h rfl⟩

/-- Those who are asked in a thinned chain are those who were asked before, less selectors that cannot be
used. -/
theorem Thinned.untilAnswer
    (h : Thinned keys hint w chain rest) :
    Thinned keys hint w (untilAnswer keys hint w chain) (untilAnswer keys hint w rest) := by
  induction h with
  | nil => exact .nil
  | keep s h ih =>
      cases hanswer : answer? keys hint w s with
      | some answer =>
          rw [untilAnswer_cons_of_answer hanswer, untilAnswer_cons_of_answer hanswer]
          exact .keep s .nil
      | none =>
          rw [untilAnswer_cons_of_none hanswer, untilAnswer_cons_of_none hanswer]
          exact .keep s ih
  | drop hs h ih =>
      rw [untilAnswer_cons_of_none (answer?_eq_none hs)]
      exact .drop hs ih

/-- A thinned chain comes to the same end, and leaves the same world but for the record.  The two chains are
asked in worlds of their own, since a selector that is left out does not even leave its record. -/
theorem Thinned.selectFirst
    (h : Thinned keys hint w chain rest)
    {v v' : World}
    (hv : v.unrecorded = w.unrecorded)
    (hv' : v'.unrecorded = w.unrecorded) :
    (selectFirst keys hint rest v').1 = (selectFirst keys hint chain v).1 ∧
      (selectFirst keys hint rest v').2.unrecorded = (selectFirst keys hint chain v).2.unrecorded := by
  induction h generalizing v v' with
  | nil => exact ⟨rfl, hv'.trans hv.symm⟩
  | keep s h ih =>
      cases hanswer : answer? keys hint w s with
      | some answer =>
          have hchain : answer? keys hint v s = some answer := by rw [answer?_congr hv, hanswer]
          have hrest : answer? keys hint v' s = some answer := by rw [answer?_congr hv', hanswer]
          rw [selectFirst_cons_of_answer hchain, selectFirst_cons_of_answer hrest]
          exact ⟨rfl, (select_congr s (hv'.trans hv.symm)).2⟩
      | none =>
          have hafter := unrecorded_of_answer?_eq_none hanswer
          have hchain : answer? keys hint v s = none := by rw [answer?_congr hv, hanswer]
          have hrest : answer? keys hint v' s = none := by rw [answer?_congr hv', hanswer]
          rw [selectFirst_cons_of_none hchain, selectFirst_cons_of_none hrest]
          exact ih ((select_congr s hv).2.trans hafter) ((select_congr s hv').2.trans hafter)
  | @drop chain rest s reason hs h ih =>
      have hanswer := answer?_eq_none hs
      have hchain : answer? keys hint v s = none := by rw [answer?_congr hv, hanswer]
      rw [selectFirst_cons_of_none hchain]
      exact ih ((select_congr s hv).2.trans (unrecorded_of_answer?_eq_none hanswer)) hv'

end Thinning

/-- Nothing can be chosen from no keys, and nobody is asked. -/
theorem chooseWith_of_nil
    (chain : List Selector)
    (hint : Option KeyName)
    (w : World)
    (hkeys : keys.keys = []) :
    chooseWith chain keys hint w = (.error .noKeys, w) := by
  simp only [chooseWith, trivial?, Collection.names, hkeys, List.map_nil]

/-- One key is chosen, and nobody is asked. -/
theorem chooseWith_of_singleton
    {key : Profile}
    (chain : List Selector)
    (hint : Option KeyName)
    (w : World)
    (hkeys : keys.keys = [key]) :
    chooseWith chain keys hint w = (.ok key.name, w) := by
  simp only [chooseWith, trivial?, Collection.names, hkeys, List.map_cons, List.map_nil]

theorem chooseWith_of_two_le
    (chain : List Selector)
    (hint : Option KeyName)
    (w : World)
    (hmany : 2 ≤ keys.size) :
    chooseWith chain keys hint w = selectFirst keys hint chain w := by
  simp only [chooseWith, trivial?_of_two_le hmany]

/-- Whether a chain has come to its first answer: nobody has been asked after the selector that gave it, and
everybody before it once, with the same keys and the same hint. -/
structure FirstAnswer
    (chain : List Selector)
    (keys : Collection)
    (hint : Option KeyName)
    (w : World)
    (result : Except Failure KeyName)
    (w' : World) :
    Prop where
  result_eq : result = (chain.findSome? (answer? keys hint w)).getD nobody
  asked : w' = askedInTurn keys hint (untilAnswer keys hint w chain) w
  consultations : w'.consultations =
    w.consultations ++ (untilAnswer keys hint w chain).flatMap (consultationsOf keys hint)
  pickers : w'.pickers =
    w.pickers ++ (untilAnswer keys hint w chain).flatMap (callsOf keys hint w.machine)

theorem firstAnswer_chooseWith
    (chain : List Selector)
    (hint : Option KeyName)
    (w : World)
    (hmany : 2 ≤ keys.size) :
    FirstAnswer chain keys hint w (chooseWith chain keys hint w).1 (chooseWith chain keys hint w).2 := by
  rw [chooseWith_of_two_le chain hint w hmany, selectFirst_eq]
  exact ⟨rfl, rfl, consultations_askedInTurn _ w hmany, pickers_askedInTurn_untilAnswer chain w hmany⟩

theorem Thinned.chooseWith
    {chain rest : List Selector}
    (h : Thinned keys hint w chain rest) :
    (chooseWith rest keys hint w).1 = (chooseWith chain keys hint w).1 ∧
      (chooseWith rest keys hint w).2.unrecorded = (chooseWith chain keys hint w).2.unrecorded := by
  unfold Selector.chooseWith
  split
  · exact ⟨rfl, rfl⟩
  · exact ⟨rfl, rfl⟩
  · exact h.selectFirst rfl rfl

/-- A picker only says that it cannot be used where there is a choice to be made. -/
theorem two_le_of_picker_unavailable
    {o : PickerOptions}
    {reason : String}
    (h : ((picker o).select keys hint w).1 = .ok (.unavailable reason)) :
    2 ≤ keys.size := by
  match hkeys : keys.keys with
  | [] => simp [select, trivial?, Collection.names, hkeys] at h
  | [key] => simp [select, trivial?, Collection.names, hkeys] at h
  | _ :: _ :: _ => simp [Collection.size, hkeys]

/-- A menu that is asked alone decides by its own answer. -/
theorem chooseWith_menu
    (hint : Option KeyName)
    (w : World)
    (hmany : 2 ≤ keys.size) :
    answer? keys hint w .menu = some (chooseWith [.menu] keys hint w).1 ∧
      (chooseWith [.menu] keys hint w).2 = (menu.select keys hint w).2 := by
  cases hanswer : answer? keys hint w .menu with
  | some answer =>
      rw [chooseWith_of_two_le _ hint w hmany, selectFirst_cons_of_answer hanswer]
      exact ⟨rfl, rfl⟩
  | none =>
      obtain ⟨reason, w₁, hselect⟩ := answer?_eq_none_iff.1 hanswer
      rw [select_of_two_le hint w _ hmany, consult, Menu.run_eq] at hselect
      exact absurd (Prod.mk.inj hselect).1 (Menu.verdict_ne_unavailable _)

/-- A choice comes to the first answer of the chain, unless there are fewer than two keys, when nobody is
asked.  Selectors that cannot be used may be left out: the result is the same, those who are asked are the
same less the selectors left out, and everything but the record of these is left as it would have been.  So a
picker that cannot be used and the menu behind it are as good as the menu alone. -/
theorem chooseWith_firstAnswer
    (chain : List Selector)
    (keys : Collection)
    (hint : Option KeyName)
    (w : World) :
    (keys.keys = [] → chooseWith chain keys hint w = (.error .noKeys, w)) ∧
    (∀ key, keys.keys = [key] → chooseWith chain keys hint w = (.ok key.name, w)) ∧
    (2 ≤ keys.size →
      FirstAnswer chain keys hint w (chooseWith chain keys hint w).1
        (chooseWith chain keys hint w).2) ∧
    (∀ rest, Thinned keys hint w chain rest →
      (chooseWith rest keys hint w).1 = (chooseWith chain keys hint w).1 ∧
      (chooseWith rest keys hint w).2.unrecorded = (chooseWith chain keys hint w).2.unrecorded ∧
      Thinned keys hint w (untilAnswer keys hint w chain) (untilAnswer keys hint w rest)) ∧
    (∀ (config : SelectorConfig) (reason : String), config.kind = .fzf →
      ((picker config.picker).select keys hint w).1 = .ok (.unavailable reason) →
      answer? keys hint w .menu = some (chooseWith config.chain keys hint w).1 ∧
      (chooseWith config.chain keys hint w).2.unrecorded = (menu.select keys hint w).2.unrecorded) := by
  refine ⟨chooseWith_of_nil chain hint w, fun key => chooseWith_of_singleton chain hint w,
    firstAnswer_chooseWith chain hint w, ?_, ?_⟩
  · intro rest h
    obtain ⟨hresult, hworld⟩ := h.chooseWith
    exact ⟨hresult, hworld, h.untilAnswer⟩
  · intro config reason hkind hpicker
    have hchain : config.chain = [.picker config.picker, .menu] := by
      rw [SelectorConfig.chain, hkind]
    have hthinned : Thinned keys hint w config.chain [.menu] := by
      rw [hchain]
      exact .drop hpicker (.keep .menu .nil)
    obtain ⟨hresult, hworld⟩ := hthinned.chooseWith
    obtain ⟨hanswer, halone⟩ := chooseWith_menu hint w (two_le_of_picker_unavailable hpicker)
    rw [← hresult, ← hworld, halone]
    exact ⟨hanswer, rfl⟩

section Example

/-- A chain of two selectors that cannot be used, one that chooses a key, and one that would call it off. -/
def fallbacks : List Selector :=
  [.picker .standard, .fixed 1 (.ok (.unavailable "not here")),
    .fixed 2 (.ok (.chosen ⟨"found", by decide, by decide⟩)), .fixed 3 (.error .selectionCancelled)]

/-- A world without programs, in which the first question will be answered. -/
def bareWorld : World :=
  .fresh none .bare [.ok " +2 "]

theorem standard_unavailable :
    ((picker .standard).select starred none bareWorld).1 = .ok (.unavailable "fzf is not available") :=
  rfl

theorem fixed_unavailable :
    ((fixed 1 (.ok (.unavailable "not here"))).select starred none bareWorld).1 =
      .ok (.unavailable "not here") :=
  rfl

theorem thinned_fallbacks :
    Thinned starred none bareWorld fallbacks (fallbacks.drop 2) :=
  .drop standard_unavailable (.drop fixed_unavailable (.keep _ (.keep _ .nil)))

theorem chooseWith_firstAnswer_fallbacks :
    FirstAnswer fallbacks starred none bareWorld (.ok ⟨"found", by decide, by decide⟩)
        (chooseWith fallbacks starred none bareWorld).2 ∧
      (chooseWith fallbacks starred none bareWorld).2.consultations.map (·.selector) = [1, 2] ∧
      (chooseWith (fallbacks.drop 2) starred none bareWorld).1 =
        .ok ⟨"found", by decide, by decide⟩ ∧
      (chooseWith Config.standard.selector.chain starred none bareWorld).2.unrecorded =
        (menu.select starred none bareWorld).2.unrecorded := by
  obtain ⟨-, -, hfirst, hthinned, hmenu⟩ :=
    chooseWith_firstAnswer fallbacks starred none bareWorld
  have hresult : (chooseWith fallbacks starred none bareWorld).1 =
      .ok ⟨"found", by decide, by decide⟩ := rfl
  have hanswer := hfirst (by decide)
  rw [hresult] at hanswer
  refine ⟨hanswer, ?_, (hthinned _ thinned_fallbacks).1.trans hresult, ?_⟩
  · rw [hanswer.consultations]
    decide +kernel
  · exact (hmenu Config.standard.selector _ rfl standard_unavailable).2

end Example

end Selector
end Keyring
