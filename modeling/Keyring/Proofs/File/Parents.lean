import Keyring.Proofs.File.Sight

/-!
# The directories above a file

Before a file is written the directories above it are made as far as they are missing.  Where something can
be seen under a path none of them is missing: the path of the directory that holds a file leads through the
same places as the path of the file itself (`Path.exists_components_of_parent`), so writing the file
again makes no directory (`Disk.Changed.of_sight`).
-/

namespace Keyring

namespace Path

/-- The components of a path in characters. -/
def parts (path : List Char) : List (List Char) :=
  (path.splitOn '/').filter (!·.isEmpty)

section Texts

variable {path parent : String} {s : List Char}

theorem parts_append (s t : List Char) :
    parts (s ++ '/' :: t) = parts s ++ parts t := by
  rw [parts, List.splitOn_append_cons_self, List.filter_append, parts, parts]

theorem parts_of_not_mem
    (hslash : '/' ∉ s)
    (hne : s ≠ []) :
    parts s = [s] := by
  have hwhole : (['/'].intercalate [s]).splitOn '/' = [s] :=
    List.splitOn_intercalate '/' (by simpa using hslash) (by simp)
  rw [List.intercalate_singleton] at hwhole
  simp [parts, hwhole, hne]

theorem trimReversed_suffix (s : List Char) :
    trimReversed s <:+ s := by
  fun_induction trimReversed s with
  | case1 => exact List.suffix_refl _
  | case2 rest _ ih => exact ih.trans (List.suffix_cons _ _)
  | case3 rest ih => exact ih.trans (List.suffix_cons _ _)
  | case4 s => exact List.suffix_refl s

/-- What does not count at the end of a path holds no other component than dots. -/
theorem exists_parts_trimReversed (s : List Char) :
    ∃ n, parts s.reverse = parts (trimReversed s).reverse ++ List.replicate n ['.'] := by
  fun_induction trimReversed s with
  | case1 => exact ⟨0, by simp⟩
  | case2 rest _ ih =>
      obtain ⟨n, hn⟩ := ih
      refine ⟨n, ?_⟩
      rw [List.reverse_cons, parts_append, ← hn]
      exact List.append_nil _
  | case3 rest ih =>
      obtain ⟨n, hn⟩ := ih
      refine ⟨n + 1, ?_⟩
      have hslash : parts ('/' :: rest).reverse = parts rest.reverse := by
        rw [List.reverse_cons, parts_append]
        exact List.append_nil _
      have hdot : ('.' :: '/' :: rest).reverse = rest.reverse ++ '/' :: ['.'] := by simp
      rw [hdot, parts_append, ← hslash, hn, List.replicate_succ', ← List.append_assoc]
      rfl
  | case4 s => exact ⟨0, by simp⟩

theorem isPrefix_body (s : List Char) :
    body s <+: s := by
  simpa [body] using List.reverse_prefix.2 (trimReversed_suffix s.reverse)

theorem exists_parts_body (s : List Char) :
    ∃ n, parts s = parts (body s) ++ List.replicate n ['.'] := by
  simpa [body] using exists_parts_trimReversed s.reverse

theorem beforeLast_append_lastComponent (s : List Char) :
    beforeLast s ++ lastComponent s = body s := by
  have hsuffix : lastComponent s <:+ body s := by
    rw [lastComponent, ← List.reverse_prefix, List.reverse_reverse]
    exact List.takeWhile_prefix _
  exact List.suffix_iff_eq_append.1 hsuffix

theorem beforeLast_eq (s : List Char) :
    beforeLast s = ((body s).reverse.dropWhile (· != '/')).reverse := by
  have hbody : ((body s).reverse.dropWhile (· != '/')).reverse ++ lastComponent s = body s := by
    rw [lastComponent, ← List.reverse_append, List.takeWhile_append_dropWhile, List.reverse_reverse]
  exact List.append_cancel_right ((beforeLast_append_lastComponent s).trans hbody.symm)

/-- What stands before the last component is empty or ends in a slash. -/
theorem beforeLast_eq_nil_or_concat (s : List Char) :
    beforeLast s = [] ∨ ∃ front, beforeLast s = front ++ ['/'] := by
  rw [beforeLast_eq]
  cases hfront : (body s).reverse.dropWhile (· != '/') with
  | nil => exact .inl rfl
  | cons c front =>
      have hslash : c = '/' := by
        have hhead := List.head?_dropWhile_not (· != '/') (body s).reverse
        simpa [hfront] using hhead
      rw [hslash]
      exact .inr ⟨front.reverse, List.reverse_cons⟩

theorem not_mem_lastComponent (s : List Char) :
    '/' ∉ lastComponent s := by
  intro hmem
  rw [lastComponent, List.mem_reverse] at hmem
  simpa using List.all_eq_true.1 List.all_takeWhile '/' hmem

theorem isPrefix_beforeLast (s : List Char) :
    beforeLast s <+: body s :=
  List.take_prefix _ _

/-- A name comes after the components that stand before it. -/
theorem parts_beforeLast_append
    {name : List Char}
    (hslash : '/' ∉ name)
    (hne : name ≠ []) :
    parts (beforeLast s ++ name) = parts (beforeLast s) ++ [name] := by
  have hname := parts_of_not_mem hslash hne
  rcases beforeLast_eq_nil_or_concat s with hbefore | ⟨front, hbefore⟩
  · rw [hbefore, List.nil_append, hname]
    rfl
  · have hfront : parts (front ++ ['/']) = parts front := by
      rw [parts_append]
      exact List.append_nil _
    rw [hbefore, hfront, List.append_assoc, List.singleton_append, parts_append, hname]

theorem parts_body
    (h : lastComponent s ≠ []) :
    parts (body s) = parts (beforeLast s) ++ [lastComponent s] := by
  rw [← beforeLast_append_lastComponent, parts_beforeLast_append (not_mem_lastComponent s) h]

theorem components_eq (path : String) :
    components path = (parts path.toList).map String.ofList :=
  rfl

/-- The components of a path are those of the directory that holds it, and at least one more. -/
theorem exists_components_of_parent
    (h : parent? path = some parent) :
    ∃ rest, rest ≠ [] ∧ components path = components parent ++ rest := by
  unfold parent? at h
  simp only [Option.ite_none_left_eq_some, Option.some.injEq, List.isEmpty_iff] at h
  obtain ⟨hlast, rfl⟩ := h
  obtain ⟨m, hbetween⟩ := exists_parts_body (beforeLast path.toList)
  obtain ⟨n, hbeyond⟩ := exists_parts_body path.toList
  refine ⟨(List.replicate m ['.'] ++ [lastComponent path.toList] ++ List.replicate n ['.']).map
    String.ofList, by simp, ?_⟩
  rw [components_eq, components_eq, String.toList_ofList, hbeyond, parts_body hlast, hbetween]
  simp

/-- The directory that holds a path starts where the path does. -/
theorem isAbsolute_of_parent
    (h : parent? path = some parent)
    (hne : ¬ parent.isEmpty) :
    isAbsolute parent = isAbsolute path := by
  unfold parent? at h
  simp only [Option.ite_none_left_eq_some, Option.some.injEq] at h
  obtain ⟨-, rfl⟩ := h
  have hprefix : body (beforeLast path.toList) <+: path.toList :=
    (isPrefix_body _).trans ((isPrefix_beforeLast _).trans (isPrefix_body _))
  rw [isAbsolute, isAbsolute, String.toList_ofList]
  generalize body (beforeLast path.toList) = front at hne hprefix
  obtain ⟨rest, hrest⟩ := hprefix
  cases front with
  | nil => simp at hne
  | cons c cs => rw [← hrest, List.cons_append, List.head?_cons, List.head?_cons]

end Texts

end Path

namespace Disk

variable {d d' : Disk} {path other : String} {place base above : Place} {names rest : List String}
variable {files : List Place}

/-- The places that a path leads through before its last components hold directories. -/
theorem isDirectory_of_mem_made
    (hrest : rest ≠ [])
    (hwalk : d.walk base (names ++ rest) = .ok place)
    (hmade : above ∈ Place.made base names) :
    d.IsDirectory above := by
  induction names generalizing base with
  | nil => cases hmade
  | cons name names ih =>
      rw [List.cons_append] at hwalk
      obtain ⟨-, -, hnext⟩ := walk_cons_eq_ok_iff.1 hwalk
      rw [Place.made] at hmade
      split at hmade
      · exact ih hnext hmade
      · rcases List.mem_cons.1 hmade with rfl | hmade
        · obtain ⟨next, further, hfurther⟩ : ∃ next further, names ++ rest = next :: further :=
            List.exists_cons_of_ne_nil (by simp [hrest])
          rw [hfurther] at hnext
          exact (walk_cons_eq_ok_iff.1 hnext).1
        · exact ih hnext hmade

/-- None of the directories above something that exists is missing. -/
theorem isDirectory_of_mem_madeFor
    (hlocate : d.locate path = .ok place)
    (hmade : above ∈ madeFor path) :
    d.IsDirectory above := by
  unfold madeFor at hmade
  cases hparent : Path.parent? path with
  | none => simp [hparent] at hmade
  | some parent =>
      simp only [hparent] at hmade
      by_cases hempty : parent.isEmpty = true
      · rw [String.isEmpty_iff.1 hempty] at hmade
        cases hmade
      · obtain ⟨rest, hrest, hcomponents⟩ := Path.exists_components_of_parent hparent
        have hwalk := (locate_eq_ok_iff.1 hlocate).2
        rw [hcomponents] at hwalk
        refine isDirectory_of_mem_made hrest hwalk ?_
        rwa [origin, ← Path.isAbsolute_of_parent hparent hempty]

/-- No directory is made above something that exists. -/
theorem Changed.of_sight
    {seen : Option ByteArray}
    (h : Changed files (madeFor other) d d')
    (hsight : d.sight other = some seen) :
    Changed files [] d d' := by
  obtain ⟨node, hlook, -, -⟩ := look_of_sight hsight
  have hthere : ∀ above ∈ madeFor other, d.IsDirectory above := fun above =>
    isDirectory_of_mem_madeFor (look_eq_ok_iff.1 hlook).1
  refine ⟨fun place hplace => ?_, h.keeps, fun place hplace => ?_⟩
  · rcases h.elsewhere place hplace with hsame | ⟨hmade, hnone, -⟩
    · exact .inl hsame
    · have hdirectory := isDirectory_iff_view.1 (hthere place hmade)
      rw [hnone] at hdirectory
      cases hdirectory
  · exact .inl ((h.within place hplace).elim id (hthere place))

/-- Where only files have been changed, the same can be seen under the path of any other. -/
theorem sight_of_changed_files
    (h : Changed files [] d d')
    (hfile : placeOf path ∉ files) :
    d'.sight path = d.sight path := by
  have hview : d'.view (placeOf path) = d.view (placeOf path) := by
    rcases h.elsewhere _ hfile with hsame | ⟨hmade, -⟩
    · exact hsame
    · cases hmade
  cases hsight : d.sight path with
  | some seen =>
      obtain ⟨node, hlook, -, -⟩ := look_of_sight hsight
      exact sight_of_locate (locate_of_keepsDirectories h.keeps (look_eq_ok_iff.1 hlook).1) hview hsight
  | none =>
      cases hsight' : d'.sight path with
      | none => rfl
      | some seen =>
          obtain ⟨node, hlook, -, -⟩ := look_of_sight hsight'
          have hlocate : d.locate path = .ok (placeOf path) :=
            locate_of_passed (look_eq_ok_iff.1 hlook).1 fun above _ hdirectory =>
              (h.within above hdirectory).resolve_right (by simp)
          rw [sight_of_locate hlocate hview.symm hsight'] at hsight
          cases hsight

end Disk

end Keyring
