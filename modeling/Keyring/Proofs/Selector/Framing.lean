import Keyring.Proofs.Selector.Choice
import Keyring.Proofs.Selector.Consulting
import Mathlib.Data.List.Basic

/-!
# The lines that a picker is given

A picker shows the lines of the text on its input and hands one of them back.  Each key ought to be one
line of that text.  That is so exactly if neither the note nor the mask of the secret of any key holds
a newline, and then the line of a key, with any blanks after it, is read as the name of that key:
`Selector.framed_iff_onOneLine`.

A note may hold a newline, because notes are only trimmed.  Its further lines are then shown as keys of
their own.
-/

namespace Keyring

/-- Whether all that a picker shows of a key stands on one line. -/
def Profile.OnOneLine (p : Profile) : Prop :=
  '\n' ∉ p.masked.toList ∧ '\n' ∉ (p.note.getD "").toList

instance (p : Profile) : Decidable p.OnOneLine :=
  inferInstanceAs (Decidable ('\n' ∉ p.masked.toList ∧ '\n' ∉ (p.note.getD "").toList))

namespace Selector

/-- The lines of a text: what its newlines separate. -/
def linesOf (text : String) : List String :=
  (text.toList.splitOn '\n').map String.ofList

/-- An entry is one line exactly if all that is shown of its key stands on one line. -/
theorem newline_not_mem_entry_iff
    (hint : Option KeyName)
    (key : Profile) :
    '\n' ∉ (entry hint key).toList ↔ key.OnOneLine := by
  have hname : '\n' ∉ key.name.value.toList := fun hmem =>
    absurd (key.name.isNameChar_of_mem hmem) (by decide)
  have hmarker : '\n' ∉ (if some key.name = hint then hintMarker else plainMarker).toList := by
    split
    · decide
    · decide
  have hseparator : '\n' ∉ "\t".toList := by decide
  simp only [entry, String.toList_append, List.mem_append, hmarker, hname, hseparator, false_or,
    or_false, not_or, Profile.OnOneLine]

/-- A piece between separators holds no separator. -/
theorem not_mem_of_mem_splitOn
    {separator : Char}
    {text piece : List Char}
    (h : piece ∈ text.splitOn separator) :
    separator ∉ piece := by
  induction text generalizing piece with
  | nil =>
      obtain rfl : piece = [] := by simpa using h
      exact List.not_mem_nil
  | cons c text ih =>
      rw [List.splitOn_cons_eq_if_modifyHead] at h
      split at h
      · rcases List.mem_cons.1 h with rfl | hrest
        · exact List.not_mem_nil
        · exact ih hrest
      · next hc =>
          obtain ⟨first, pieces, hsplit⟩ :=
            List.exists_cons_of_ne_nil (List.splitOn_ne_nil separator text)
          rw [hsplit, List.modifyHead_cons] at h
          rcases List.mem_cons.1 h with rfl | hrest
          · rw [List.mem_cons, not_or]
            refine ⟨fun e => hc (by simp [e]), ih ?_⟩
            rw [hsplit]
            exact List.mem_cons_self
          · apply ih
            rw [hsplit]
            exact List.mem_cons_of_mem first hrest

/-- The text for a picker has one line for every key exactly if all that is shown of each key stands
on one line. -/
theorem linesOf_pickerText_iff
    {keys : Collection}
    (hint : Option KeyName)
    (hkeys : keys.keys ≠ []) :
    linesOf (pickerText keys hint) = entries keys hint ↔ ∀ key ∈ keys.keys, key.OnOneLine := by
  have htext : (pickerText keys hint).toList =
      ['\n'].intercalate (keys.keys.map fun key => (entry hint key).toList) := by
    rw [pickerText, String.toList_intercalate, entries, List.map_map]
    rfl
  have hentries : entries keys hint =
      (keys.keys.map fun key => (entry hint key).toList).map String.ofList := by
    simp [entries, Function.comp_def]
  constructor
  · intro hlines key hkey
    have hmem : entry hint key ∈ linesOf (pickerText keys hint) := by
      rw [hlines]
      exact List.mem_map_of_mem hkey
    obtain ⟨piece, hpiece, heq⟩ := List.mem_map.1 hmem
    rw [← newline_not_mem_entry_iff hint key, ← heq, String.toList_ofList]
    exact not_mem_of_mem_splitOn hpiece
  · intro hone
    rw [linesOf, htext, List.splitOn_intercalate, hentries]
    · simp only [List.mem_map, forall_exists_index, and_imp, forall_apply_eq_imp_iff₂]
      intro key hkey
      exact (newline_not_mem_entry_iff hint key).2 (hone key hkey)
    · simpa using hkeys

/-- A picker that can be used is started with the text of the entries on its input. -/
theorem pickers_select_picker
    {o : PickerOptions}
    {keys : Collection}
    {w : World}
    (hint : Option KeyName)
    (hmany : 2 ≤ keys.size)
    (havailable : w.machine.hasPicker o.program = true) :
    ((picker o).select keys hint w).2.pickers = w.pickers ++ [Picker.invocation o keys hint] := by
  rw [select_of_two_le hint w _ hmany, consult, Picker.run_of_available keys hint w havailable,
    World.pickers_start]
  rfl

/-- What a picker is given when it is asked to choose among several keys.

The text on its input has one line for each key, in order, exactly if all that is shown of each key
stands on one line.  Then the line of a key is a marker, the name, a tab and what else is shown of the
key, and it is read as that name, whatever comes after it. -/
theorem framed_iff_onOneLine
    {o : PickerOptions}
    {keys : Collection}
    {hint : Option KeyName}
    {w : World}
    (hmany : 2 ≤ keys.size)
    (havailable : w.machine.hasPicker o.program = true) :
    ∃ text : String,
      ((picker o).select keys hint w).2.pickers =
          w.pickers ++ [⟨o.program, Picker.arguments o hint, [], text.toUTF8⟩] ∧
      (linesOf text = entries keys hint ↔ ∀ key ∈ keys.keys, key.OnOneLine) ∧
      ((∀ key ∈ keys.keys, key.OnOneLine) →
        (linesOf text).length = keys.size ∧
        ∀ (i : Nat) line, (linesOf text)[i]? = some line →
          ∃ key, keys.keys[i]? = some key ∧
            (∃ shown, line = (if some key.name = hint then hintMarker else plainMarker) ++
              key.name.value ++ "\t" ++ shown) ∧
            ∀ following, readChoice (line ++ following) = .ok key.name) := by
  have hkeys : keys.keys ≠ [] := by
    intro hnil
    simp [Collection.size, hnil] at hmany
  refine ⟨pickerText keys hint, pickers_select_picker hint hmany havailable,
    linesOf_pickerText_iff hint hkeys, ?_⟩
  intro hone
  have hlines := (linesOf_pickerText_iff hint hkeys).2 hone
  refine ⟨by rw [hlines, entries, List.length_map, Collection.size], ?_⟩
  intro i line hline
  rw [hlines, entries, List.getElem?_map, Option.map_eq_some_iff] at hline
  obtain ⟨key, hkey, rfl⟩ := hline
  refine ⟨key, hkey, ⟨key.masked ++ "\t" ++ key.note.getD "", ?_⟩, readChoice_entry hint key⟩
  simp only [entry, String.append_assoc]

/-- Two keys whose notes and secrets hold tabs, stars and carriage returns. -/
def starred : Collection :=
  (Collection.empty.add (.make ⟨"one", by decide, by decide⟩ "* two\tk" none (some "* b\r\t") ⟨0⟩)).add
    (.make ⟨"two", by decide, by decide⟩ "sk-0123456789\n0123456789" none none ⟨0⟩)

/-- A world in which there is a picker. -/
def worldWithPicker : World :=
  .fresh none
    { Host.Machine.bare with
      disk := ⟨[(["bin"], .directory 0o755), (["bin", "pick"], .file .empty 0o755)]⟩ }
    []

theorem framed_iff_onOneLine_starred :
    ∃ text : String,
      ((picker ⟨"/bin/pick", "40%", true, true⟩).select starred none worldWithPicker).2.pickers =
          [⟨"/bin/pick", Picker.arguments ⟨"/bin/pick", "40%", true, true⟩ none, [], text.toUTF8⟩] ∧
        linesOf text = entries starred none := by
  have hone : ∀ key ∈ starred.keys, key.OnOneLine := by decide +kernel
  obtain ⟨text, hpickers, hiff, -⟩ :=
    @framed_iff_onOneLine ⟨"/bin/pick", "40%", true, true⟩ starred none worldWithPicker
      (by decide) (by decide +kernel)
  exact ⟨text, hpickers, hiff.2 hone⟩

/-- Two keys, the first of which has a note of two lines. -/
def broken : Collection :=
  (Collection.empty.add (.make ⟨"one", by decide, by decide⟩ "k" none (some "x\ny") ⟨0⟩)).add
    (.make ⟨"two", by decide, by decide⟩ "k" none none ⟨0⟩)

/-- A note of two lines is stored as it is, and its second line is shown as a key of its own. -/
theorem linesOf_pickerText_broken :
    Text.normalized? "x\ny" = some "x\ny" ∧
      linesOf (pickerText broken none) = ["  one\tk\tx", "y", "  two\tk\t"] ∧
      readChoice "y\n" = .ok ⟨"y", by decide, by decide⟩ ∧
      (⟨"y", by decide, by decide⟩ : KeyName) ∉ broken.names := by
  decide +kernel

end Selector
end Keyring
