import Mathlib.Data.List.TakeWhile
import Keyring.Text.Blank

/-!
# What trimming changes

A text is its own trimmed form as soon as its first and its last character are not blank.  Names,
base URLs and stored timestamps are of that kind, so each of them survives the trimming with which
its reader starts.

What is trimmed away can be put back: a text is what is left of it with blanks before and behind.
-/

namespace Keyring
namespace Text

/-- The visible characters of ASCII are not blank. -/
theorem isBlank_of_visible
    {c : Char}
    (hlow : 0x21 ≤ c.toNat)
    (hhigh : c.toNat ≤ 0x7e) :
    isBlank c = false := by
  simp only [isBlank, Bool.or_eq_false_iff, Bool.and_eq_false_iff, decide_eq_false_iff_not,
    beq_eq_false_iff_ne]
  omega

/-- A text that starts with no blank keeps all of its start. -/
theorem trimStart_eq_self
    {s : List Char}
    (hhead : ∀ c ∈ s.head?, isBlank c = false) :
    trimStart s = s := by
  cases s with
  | nil => rfl
  | cons c rest =>
      have hc : isBlank c = false := hhead c rfl
      simp [trimStart, hc]

/-- A text that ends with no blank keeps all of its end. -/
theorem trimEnd_eq_self
    {s : List Char}
    (hlast : ∀ c ∈ s.getLast?, isBlank c = false) :
    trimEnd s = s := by
  have hrev : s.reverse.dropWhile isBlank = s.reverse := by
    apply trimStart_eq_self
    intro c hc
    rw [List.head?_reverse] at hc
    exact hlast c hc
  rw [trimEnd, hrev, List.reverse_reverse]

/-- Trimming keeps a text that has no blank at either end. -/
theorem trim_eq_self
    {s : List Char}
    (hhead : ∀ c ∈ s.head?, isBlank c = false)
    (hlast : ∀ c ∈ s.getLast?, isBlank c = false) :
    trim s = s := by
  rw [trim, trimStart_eq_self hhead, trimEnd_eq_self hlast]

/-- Trimming keeps a text without any blank. -/
theorem trim_eq_self_of_forall
    {s : List Char}
    (h : ∀ c ∈ s, isBlank c = false) :
    trim s = s := by
  apply trim_eq_self
  · intro c hc
    exact h c (List.mem_of_head? hc)
  · intro c hc
    exact h c (List.mem_of_getLast? hc)

/-- What is left when the blanks at the end have been dropped is a start of the text. -/
theorem trimEnd_prefix (s : List Char) :
    trimEnd s <+: s := by
  have hsuffix : s.reverse.dropWhile isBlank <:+ s.reverse := List.dropWhile_suffix isBlank
  rw [← List.reverse_prefix, List.reverse_reverse] at hsuffix
  exact hsuffix

/-- What is left when the blanks at the start have been dropped starts with none. -/
theorem isBlank_of_mem_head?_trimStart
    {s : List Char}
    {c : Char}
    (h : c ∈ (trimStart s).head?) :
    isBlank c = false := by
  obtain ⟨rest, hrest⟩ := List.head?_eq_some_iff.1 h
  exact isBlank_of_dropWhile_eq_cons hrest

/-- What is left when the blanks at the end have been dropped ends with none. -/
theorem isBlank_of_mem_getLast?_trimEnd
    {s : List Char}
    {c : Char}
    (h : c ∈ (trimEnd s).getLast?) :
    isBlank c = false := by
  rw [trimEnd, List.getLast?_reverse] at h
  exact isBlank_of_mem_head?_trimStart h

/-- The blanks at the start can be put back. -/
theorem exists_blanks_append_trimStart
    (s : List Char) :
    ∃ blanks, (∀ c ∈ blanks, isBlank c = true) ∧ s = blanks ++ trimStart s :=
  ⟨s.takeWhile isBlank, List.all_eq_true.1 List.all_takeWhile, List.takeWhile_append_dropWhile.symm⟩

/-- The blanks at the end can be put back. -/
theorem exists_trimEnd_append_blanks
    (s : List Char) :
    ∃ blanks, (∀ c ∈ blanks, isBlank c = true) ∧ s = trimEnd s ++ blanks := by
  obtain ⟨blanks, hblanks, hs⟩ := exists_blanks_append_trimStart s.reverse
  refine ⟨blanks.reverse, fun c hc => hblanks c (List.mem_reverse.1 hc), ?_⟩
  rw [trimEnd, ← List.reverse_append]
  exact List.reverse_eq_iff.1 hs

/-- A character that is not blank is not trimmed away. -/
theorem mem_trim
    {s : List Char}
    {c : Char}
    (hmem : c ∈ s)
    (hvisible : isBlank c = false) :
    c ∈ trim s := by
  have hkept : ∀ blanks : List Char, (∀ d ∈ blanks, isBlank d = true) → c ∉ blanks := by
    intro blanks hblanks hc
    rw [hblanks c hc] at hvisible
    cases hvisible
  obtain ⟨start, hstart, hs⟩ := exists_blanks_append_trimStart s
  obtain ⟨tail, htail, hrest⟩ := exists_trimEnd_append_blanks (trimStart s)
  rw [hs, hrest] at hmem
  rcases List.mem_append.1 hmem with hc | hc
  · exact absurd hc (hkept start hstart)
  · exact (List.mem_append.1 hc).resolve_right (hkept tail htail)

/-- Blanks that are added at the end are dropped there. -/
theorem trimEnd_append_blanks
    (s : List Char)
    {blanks : List Char}
    (hblanks : ∀ c ∈ blanks, isBlank c = true) :
    trimEnd (s ++ blanks) = trimEnd s := by
  have hreverse : ∀ c ∈ blanks.reverse, isBlank c = true := fun c hc =>
    hblanks c (List.mem_reverse.1 hc)
  rw [trimEnd, List.reverse_append, List.dropWhile_append_of_pos hreverse, trimEnd]

/-- A start of what is left when the blanks at the start have been dropped starts with none either. -/
theorem isBlank_of_mem_head?_of_prefix
    {start s : List Char}
    {c : Char}
    (hstart : start <+: trimStart s)
    (h : c ∈ start.head?) :
    isBlank c = false := by
  have hfirst : [c] <+: trimStart s := (List.singleton_prefix_iff_head?_eq_some.2 h).trans hstart
  exact isBlank_of_mem_head?_trimStart (List.singleton_prefix_iff_head?_eq_some.1 hfirst)

/-- Dropping the blanks at the start leaves the end alone. -/
theorem trim_trimStart
    {s : List Char}
    (hlast : ∀ c ∈ s.getLast?, isBlank c = false) :
    trim (trimStart s) = trimStart s := by
  apply trim_eq_self
  · intro c hc
    exact isBlank_of_mem_head?_trimStart hc
  · intro c hc
    obtain ⟨blanks, -, hs⟩ := exists_blanks_append_trimStart s
    apply hlast
    rw [hs, List.getLast?_append, Option.mem_def.1 hc]
    rfl

/-- A text holds nothing but blanks if nothing is left of it after trimming. -/
theorem isBlankText_iff
    {s : String} :
    isBlankText s = true ↔ trimmed s = "" := by
  have hchars : s.toList.all isBlank = true ↔ trim s.toList = [] := by
    unfold trim trimStart
    cases hdrop : s.toList.dropWhile isBlank with
    | nil =>
        have hall := List.dropWhile_eq_nil_iff.1 hdrop
        simpa [trimEnd] using hall
    | cons c rest =>
        have hc := isBlank_of_dropWhile_eq_cons hdrop
        have hmem : c ∈ s.toList :=
          (List.dropWhile_suffix isBlank).subset (hdrop ▸ List.mem_cons_self)
        rw [trimEnd_cons hc]
        simp only [List.all_eq_true, reduceCtorEq, iff_false]
        intro hall
        rw [hall c hmem] at hc
        cases hc
  rw [isBlankText, hchars, trimmed, String.ofList_eq_empty_iff]

end Text
end Keyring
