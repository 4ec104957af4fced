import Keyring.Proofs.Key.Reading
import Keyring.Selector.Lines
import Mathlib.Data.List.Basic
import Mathlib.Data.List.TakeWhile

/-!
# What a picker hands back

The text that a picker hands back names a key by its first field.  Blanks come first, then perhaps the star
of the entry that is hinted at, then the name, then blanks, and then the field, the line or the text ends.
Which texts these are is stated as a grammar, without a word about trimming and cutting.

Main facts:
* `Selector.nameField_eq`: the cuts and trims that find the name amount to one cut and one trim at each end;
* `Selector.chosen_iff_choiceText`: a text chooses the name that the grammar finds in it, and every other text
  is an invalid selection;
* `Selector.chosen_entries`: the entries that a picker is given are read as the names of their keys, whatever
  follows them, and only the entry of the hinted key starts with the star.
-/

namespace Keyring

namespace Text

/-- Blanks at the end of a text do not matter to a part at its start that is trimmed. -/
theorem trimEnd_takeWhile_append_blanks
    (p : Char → Bool)
    (s : List Char)
    {blanks : List Char}
    (hblanks : ∀ c ∈ blanks, isBlank c = true) :
    trimEnd ((s ++ blanks).takeWhile p) = trimEnd (s.takeWhile p) := by
  rw [List.takeWhile_append]
  split
  · next hwhole =>
      have hs : s.takeWhile p = s := (List.takeWhile_prefix p).eq_of_length hwhole
      rw [hs]
      apply trimEnd_append_blanks
      intro c hc
      exact hblanks c ((List.takeWhile_prefix p).subset hc)
  · rfl

/-- The carriage return that may be left out at the end of a line is a blank. -/
theorem trimEnd_takeWhile_firstLine
    (p : Char → Bool)
    (s : List Char) :
    trimEnd ((firstLine s).takeWhile p) = trimEnd ((before '\n' s).takeWhile p) := by
  have hreturn : ∀ c ∈ ['\r'], isBlank c = true := List.all_eq_true.1 rfl
  unfold firstLine
  simp only
  split
  · next hcut =>
      rw [Bool.and_eq_true, beq_iff_eq] at hcut
      have hline : (before '\n' s).dropLast ++ ['\r'] = before '\n' s :=
        List.dropLast_append_getLast? '\r' hcut.2
      rw [← trimEnd_takeWhile_append_blanks p _ hreturn, hline]
  · rfl

/-- The first line is a start of the text. -/
theorem firstLine_prefix
    (s : List Char) :
    firstLine s <+: s := by
  have hbefore : before '\n' s <+: s := List.takeWhile_prefix _
  unfold firstLine
  simp only
  split
  · exact (List.dropLast_prefix _).trans hbefore
  · exact hbefore

end Text

namespace Selector

/-- Whether a character ends neither a field nor a line. -/
def staysInField (c : Char) : Bool :=
  c != '\t' && c != '\n'

/-- The first field of a text, less the blanks around it. -/
def firstField (output : List Char) : List Char :=
  Text.trimEnd ((Text.trimStart output).takeWhile staysInField)

section FirstField

variable (output : List Char)

theorem firstField_isStart :
    firstField output <+: Text.trimStart output :=
  (Text.trimEnd_prefix _).trans (List.takeWhile_prefix staysInField)

/-- The name is looked for in the first field: what the cuts and trims leave of the text is that field less
its marker. -/
theorem nameField_eq :
    nameField output = withoutMarker (firstField output) := by
  let text := Text.trimStart output
  let field := Text.before '\t' (Text.firstLine (Text.trimEnd text))
  -- The field is a start of the text, so there is nothing to be trimmed in front of it.
  have hfront : field <+: text :=
    ((List.takeWhile_prefix _).trans (Text.firstLine_prefix _)).trans (Text.trimEnd_prefix text)
  have hstart : Text.trimStart field = field := by
    apply Text.trimStart_eq_self
    intro c hc
    exact Text.isBlank_of_mem_head?_of_prefix hfront hc
  obtain ⟨blanks, hblanks, htext⟩ := Text.exists_trimEnd_append_blanks text
  have hend : Text.trimEnd field = firstField output :=
    calc Text.trimEnd field
        = Text.trimEnd (Text.before '\t' (Text.before '\n' (Text.trimEnd text))) :=
          Text.trimEnd_takeWhile_firstLine _ _
      _ = Text.trimEnd ((Text.trimEnd text).takeWhile staysInField) := by
          rw [Text.before, Text.before, List.takeWhile_takeWhile]
          simp only [Bool.decide_and, Bool.decide_eq_true]
          rfl
      _ = Text.trimEnd (text.takeWhile staysInField) := by
          rw [← Text.trimEnd_takeWhile_append_blanks _ (Text.trimEnd text) hblanks, ← htext]
  rw [nameField, Text.trim, Text.trim, hstart, hend]

end FirstField

section Marker

/-- Behind the star, blanks are dropped. -/
@[simp] theorem withoutMarker_star
    (rest : List Char) :
    withoutMarker ('*' :: rest) = Text.trimStart rest := rfl

theorem withoutMarker_eq_self
    {field : List Char}
    (hfield : field.head? ≠ some '*') :
    withoutMarker field = field := by
  unfold withoutMarker
  split
  · exact absurd rfl hfield
  · rfl

/-- A field that has no blanks around it has none around its part behind the star. -/
theorem trim_withoutMarker
    {field : List Char}
    (hhead : ∀ c ∈ field.head?, Text.isBlank c = false)
    (hlast : ∀ c ∈ field.getLast?, Text.isBlank c = false) :
    Text.trim (withoutMarker field) = withoutMarker field := by
  by_cases hstar : field.head? = some '*'
  · obtain ⟨rest, rfl⟩ := List.head?_eq_some_iff.1 hstar
    apply Text.trim_trimStart
    intro c hc
    apply hlast
    rw [List.getLast?_cons, Option.mem_def.1 hc]
    rfl
  · rw [withoutMarker_eq_self hstar, Text.trim_eq_self hhead hlast]

end Marker

/-- A name is read exactly if it is what stands in the first field behind the marker. -/
theorem readChoice_eq_ok_iff
    {output : String}
    {name : KeyName} :
    readChoice output = .ok name ↔ withoutMarker (firstField output.toList) = name.value.toList := by
  have htrim : Text.trim (withoutMarker (firstField output.toList)) =
      withoutMarker (firstField output.toList) := by
    apply trim_withoutMarker
    · intro c hc
      exact Text.isBlank_of_mem_head?_of_prefix (firstField_isStart _) hc
    · intro c hc
      exact Text.isBlank_of_mem_getLast?_trimEnd hc
  rw [readChoice, nameField_eq]
  split
  · next hempty =>
      rw [List.isEmpty_iff] at hempty
      rw [hempty]
      exact iff_of_false (fun h => by cases h) name.nonempty.symm
  · rw [mapError_eq_ok_iff, KeyName.ofText_eq_ok_iff, Text.trimmed, String.toList_ofList, htrim,
      ← String.toList_inj, String.toList_ofList]

section Grammar

/-- Whether a text consists of blanks that end neither a field nor a line. -/
def IsGap (gap : List Char) : Prop :=
  ∀ c ∈ gap, Text.isBlank c = true ∧ c ≠ '\t' ∧ c ≠ '\n'

/-- What may stand before the name: nothing, or one star and a gap. -/
inductive MarkerText : List Char → Prop
  | none : MarkerText []
  | star {gap : List Char} (hgap : IsGap gap) : MarkerText ('*' :: gap)

/-- Where a field ends: at the end of the text, or before a tab or a newline, whatever comes after that. -/
inductive FieldEnd : List Char → Prop
  | atEnd : FieldEnd []
  | tab (rest : List Char) : FieldEnd ('\t' :: rest)
  | newline (rest : List Char) : FieldEnd ('\n' :: rest)

/-- Whether a text names a key in its first field. -/
inductive ChoiceText (name : KeyName) : List Char → Prop
  | intro
      {lead marker gap rest : List Char}
      (hlead : ∀ c ∈ lead, Text.isBlank c = true)
      (hmarker : MarkerText marker)
      (hgap : IsGap gap)
      (hrest : FieldEnd rest) :
      ChoiceText name (lead ++ (marker ++ (name.value.toList ++ (gap ++ rest))))

theorem staysInField_eq_true_iff
    {c : Char} :
    staysInField c = true ↔ c ≠ '\t' ∧ c ≠ '\n' := by
  simp [staysInField]

/-- A text from which characters that stay in a field have been dropped is at the end of that field. -/
theorem fieldEnd_dropWhile
    (text : List Char) :
    FieldEnd (text.dropWhile staysInField) := by
  cases hrest : text.dropWhile staysInField with
  | nil => exact .atEnd
  | cons c rest =>
      have hstop : staysInField c = false := by
        have hhead := List.head?_dropWhile_not staysInField text
        rw [hrest] at hhead
        exact hhead
      by_cases htab : c = '\t'
      · rw [htab]
        exact .tab rest
      · by_cases hnewline : c = '\n'
        · rw [hnewline]
          exact .newline rest
        · rw [staysInField_eq_true_iff.2 ⟨htab, hnewline⟩] at hstop
          cases hstop

theorem takeWhile_staysInField_of_fieldEnd
    {rest : List Char}
    (h : FieldEnd rest) :
    rest.takeWhile staysInField = [] := by
  cases h with
  | atEnd => rfl
  | tab rest => rfl
  | newline rest => rfl

/-- Every text is its first field with blanks before it, a gap and the end of the field behind it. -/
theorem exists_eq_append_firstField
    (output : List Char) :
    ∃ lead gap rest, output = lead ++ (firstField output ++ (gap ++ rest)) ∧
      (∀ c ∈ lead, Text.isBlank c = true) ∧ IsGap gap ∧ FieldEnd rest := by
  let text := Text.trimStart output
  obtain ⟨lead, hlead, houtput⟩ := Text.exists_blanks_append_trimStart output
  obtain ⟨gap, hblanks, hfield⟩ := Text.exists_trimEnd_append_blanks (text.takeWhile staysInField)
  have htext : text = firstField output ++ (gap ++ text.dropWhile staysInField) := by
    rw [← List.append_assoc, firstField, ← hfield, List.takeWhile_append_dropWhile]
  have hgap : IsGap gap := by
    intro c hc
    have hmem : c ∈ text.takeWhile staysInField := by
      rw [hfield]
      exact List.mem_append_right _ hc
    exact ⟨hblanks c hc, staysInField_eq_true_iff.1 (List.mem_takeWhile_imp hmem)⟩
  refine ⟨lead, gap, text.dropWhile staysInField, ?_, hlead, hgap, fieldEnd_dropWhile text⟩
  rw [← htext]
  exact houtput

/-- A part without blanks at its ends that stays in one field is the first field of a text in which blanks
stand before it, and a gap and the end of the field behind it. -/
theorem firstField_append
    {lead body gap rest : List Char}
    (hlead : ∀ c ∈ lead, Text.isBlank c = true)
    (hbody : body ≠ [])
    (hhead : ∀ c ∈ body.head?, Text.isBlank c = false)
    (hlast : ∀ c ∈ body.getLast?, Text.isBlank c = false)
    (hstays : ∀ c ∈ body, staysInField c = true)
    (hgap : IsGap gap)
    (hrest : FieldEnd rest) :
    firstField (lead ++ (body ++ (gap ++ rest))) = body := by
  have hstart : Text.trimStart (lead ++ (body ++ (gap ++ rest))) = body ++ (gap ++ rest) := by
    rw [Text.trimStart, List.dropWhile_append_of_pos hlead]
    apply Text.trimStart_eq_self
    intro c hc
    obtain ⟨d, body, rfl⟩ := List.exists_cons_of_ne_nil hbody
    exact hhead c hc
  have hgapStays : ∀ c ∈ gap, staysInField c = true := fun c hc =>
    staysInField_eq_true_iff.2 (hgap c hc).2
  rw [firstField, hstart, List.takeWhile_append_of_pos hstays, List.takeWhile_append_of_pos hgapStays,
    takeWhile_staysInField_of_fieldEnd hrest, List.append_nil,
    Text.trimEnd_append_blanks body fun c hc => (hgap c hc).1, Text.trimEnd_eq_self hlast]

theorem staysInField_of_mem_firstField
    {output : List Char}
    {c : Char}
    (h : c ∈ firstField output) :
    staysInField c = true :=
  List.mem_takeWhile_imp ((Text.trimEnd_prefix _).subset h)

end Grammar

section Names

variable {name : KeyName} {output : List Char}

/-- No character of a name is blank, ends a field or is the star. -/
theorem of_mem_name
    {c : Char}
    (h : c ∈ name.value.toList) :
    Text.isBlank c = false ∧ staysInField c = true ∧ c ≠ '*' := by
  have hchar : isNameChar c = true := name.isNameChar_of_mem h
  have hother : ∀ d, isNameChar d = false → c ≠ d := by
    rintro d hd rfl
    rw [hd] at hchar
    cases hchar
  exact ⟨isBlank_of_isNameChar hchar,
    staysInField_eq_true_iff.2 ⟨hother '\t' (by decide), hother '\n' (by decide)⟩,
    hother '*' (by decide)⟩

theorem head?_name_ne_star : name.value.toList.head? ≠ some '*' := fun h =>
  (of_mem_name (List.mem_of_head? h)).2.2 rfl

theorem isBlank_of_mem_head?_name
    {c : Char}
    (h : c ∈ name.value.toList.head?) :
    Text.isBlank c = false :=
  (of_mem_name (List.mem_of_head? h)).1

/-- A marker is dropped from before a name. -/
theorem withoutMarker_append_name
    {marker : List Char}
    (hmarker : MarkerText marker) :
    withoutMarker (marker ++ name.value.toList) = name.value.toList := by
  cases hmarker with
  | none => exact withoutMarker_eq_self head?_name_ne_star
  | star hgap =>
      rw [List.cons_append, withoutMarker_star, Text.trimStart,
        List.dropWhile_append_of_pos fun c hc => (hgap c hc).1]
      exact Text.trimStart_eq_self fun c hc => isBlank_of_mem_head?_name hc

/-- A field in which a name is found is a marker and that name. -/
theorem exists_marker_of_withoutMarker_eq
    {field : List Char}
    (hstays : ∀ c ∈ field, staysInField c = true)
    (h : withoutMarker field = name.value.toList) :
    ∃ marker, MarkerText marker ∧ field = marker ++ name.value.toList := by
  by_cases hstar : field.head? = some '*'
  · obtain ⟨rest, rfl⟩ := List.head?_eq_some_iff.1 hstar
    rw [withoutMarker_star] at h
    obtain ⟨gap, hblanks, hrest⟩ := Text.exists_blanks_append_trimStart rest
    rw [h] at hrest
    refine ⟨'*' :: gap, .star fun c hc => ⟨hblanks c hc, ?_⟩, by rw [hrest, List.cons_append]⟩
    apply staysInField_eq_true_iff.1
    apply hstays
    rw [hrest]
    exact List.mem_cons_of_mem _ (List.mem_append_left _ hc)
  · rw [withoutMarker_eq_self hstar] at h
    exact ⟨[], .none, h⟩

/-- A name stands behind the marker of the first field exactly if the text names it by the grammar. -/
theorem choiceText_iff :
    ChoiceText name output ↔ withoutMarker (firstField output) = name.value.toList := by
  constructor
  · rintro ⟨hlead, hmarker, hgap, hrest⟩
    next lead marker gap rest =>
      let body := marker ++ name.value.toList
      have hbody : body ≠ [] := List.append_ne_nil_of_right_ne_nil _ name.nonempty
      have hhead : ∀ c ∈ body.head?, Text.isBlank c = false := by
        intro c hc
        cases hmarker with
        | none => exact isBlank_of_mem_head?_name hc
        | star hgap =>
            cases hc
            rfl
      have hlast : ∀ c ∈ body.getLast?, Text.isBlank c = false := by
        intro c hc
        rw [List.getLast?_append_of_ne_nil marker name.nonempty] at hc
        exact (of_mem_name (List.mem_of_getLast? hc)).1
      have hstays : ∀ c ∈ body, staysInField c = true := by
        intro c hc
        rcases List.mem_append.1 hc with hc | hc
        · cases hmarker with
          | none => cases hc
          | star hgap =>
              rcases List.mem_cons.1 hc with rfl | hc
              · rfl
              · exact staysInField_eq_true_iff.2 (hgap c hc).2
        · exact (of_mem_name hc).2.1
      have hfield := firstField_append hlead hbody hhead hlast hstays hgap hrest
      rw [← List.append_assoc marker, hfield, withoutMarker_append_name hmarker]
  · intro h
    obtain ⟨lead, gap, rest, houtput, hlead, hgap, hrest⟩ := exists_eq_append_firstField output
    obtain ⟨marker, hmarker, hfield⟩ :=
      exists_marker_of_withoutMarker_eq (fun _ => staysInField_of_mem_firstField) h
    rw [houtput, hfield, List.append_assoc]
    exact .intro hlead hmarker hgap hrest

end Names

/-- A text is read as the name that the grammar finds in it, and every other text is an invalid selection. -/
theorem readChoice_iff_choiceText
    (output : String) :
    (∀ name, (readChoice output).mapError ChoiceFault.failure = .ok name ↔
        ChoiceText name output.toList) ∧
      ((∃ name, ChoiceText name output.toList) ∨
        ∃ message, (readChoice output).mapError ChoiceFault.failure =
          .error (.invalidSelection message)) := by
  have hread : ∀ name, readChoice output = .ok name ↔ ChoiceText name output.toList := by
    intro name
    rw [readChoice_eq_ok_iff, choiceText_iff]
  refine ⟨fun name => mapError_eq_ok_iff.trans (hread name), ?_⟩
  cases h : readChoice output with
  | ok name => exact .inl ⟨name, (hread name).1 h⟩
  | error fault =>
      right
      cases fault with
      | nothing => exact ⟨_, rfl⟩
      | notName fault => exact ⟨_, rfl⟩

/-- A star without a name, two stars, and a name on the line after the star choose nothing. -/
example : readChoice " * " = .error .nothing ∧
    readChoice "**a" = .error (.notName (.foreign "*a")) ∧ readChoice "*\na" = .error .nothing := by
  decide +kernel

/-- An entry is read as the name of its key, whatever comes after it. -/
theorem readChoice_entry
    (hint : Option KeyName)
    (key : Profile)
    (following : String) :
    readChoice (entry hint key ++ following) = .ok key.name := by
  let rest := '\t' :: (key.masked.toList ++ '\t' :: ((key.note.getD "").toList ++ following.toList))
  have hgap : IsGap [] := fun c hc => absurd hc List.not_mem_nil
  rw [readChoice_eq_ok_iff, ← choiceText_iff]
  by_cases hhint : some key.name = hint
  · -- The name stands behind the star and a space.
    have htext : (entry hint key ++ following).toList =
        [] ++ (['*', ' '] ++ (key.name.value.toList ++ ([] ++ rest))) := by
      simp [entry, hhint, hintMarker, rest]
    have hspace : IsGap [' '] := by
      intro c hc
      rw [List.mem_singleton.1 hc]
      decide
    rw [htext]
    exact .intro (fun c hc => absurd hc List.not_mem_nil) (.star hspace) hgap (.tab _)
  · have htext : (entry hint key ++ following).toList =
        [' ', ' '] ++ ([] ++ (key.name.value.toList ++ ([] ++ rest))) := by
      simp [entry, hhint, plainMarker, rest]
    rw [htext]
    exact .intro (List.all_eq_true.1 rfl) .none hgap (.tab _)

/-- Whether an entry starts with the marker of the hinted key. -/
def isStarred (entry : String) : Bool :=
  hintMarker.toList.isPrefixOf entry.toList

theorem isStarred_entry
    (hint : Option KeyName)
    (key : Profile) :
    isStarred (entry hint key) = decide (some key.name = hint) := by
  by_cases hhint : some key.name = hint
  · simp [isStarred, entry, hhint, hintMarker]
  · simp [isStarred, entry, hhint, hintMarker, plainMarker, List.isPrefixOf]

/-- Reading the entries of a picker undoes writing them: whatever follows an entry, blanks or anything else, it
is read as the name of its key.  The star stands before the entry of the hinted key and before no other. -/
theorem readChoice_entries
    (keys : Collection)
    (hint : Option KeyName) :
    (∀ following : String,
      (entries keys hint).map (fun entry => readChoice (entry ++ following)) = keys.names.map .ok) ∧
    (entries keys hint).map isStarred = keys.names.map (fun name => decide (some name = hint)) ∧
    (entries keys hint).countP isStarred =
      if ∃ name ∈ keys.names, hint = some name then 1 else 0 := by
  have hstarred : (entries keys hint).map isStarred =
      keys.names.map fun name => decide (some name = hint) := by
    simp only [entries, Collection.names, List.map_map, Function.comp_def, isStarred_entry]
  refine ⟨?_, hstarred, ?_⟩
  · intro following
    simp only [entries, Collection.names, List.map_map, Function.comp_def, readChoice_entry]
  · have hcount : (entries keys hint).countP isStarred =
        keys.names.countP fun name => decide (some name = hint) := by
      have h := congrArg (List.countP id) hstarred
      rwa [List.countP_map, List.countP_map] at h
    rw [hcount]
    cases hint with
    | none => simp
    | some hinted =>
        have hname : keys.names.countP (fun name => decide (some name = some hinted)) =
            keys.names.count hinted := by
          simp only [List.count, Option.some.injEq, beq_eq_decide]
        have hnodup : keys.names.Nodup := keys.names_nodup
        rw [hname, hnodup.count]
        simp

end Selector
end Keyring
