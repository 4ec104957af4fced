import Keyring.Proofs.File.Parents

/-!
# The temporary file beside a file

The temporary file has the name of the file with the extension `tmp` in the place of its own.  A file that
has this extension already is its own temporary file, and no other file with a name is:
`Disk.ownTemporary_iff`.
-/

namespace Keyring

namespace Path

/-- The extension of temporary files. -/
def temporaryExtension : List Char := ['.', 't', 'm', 'p']

section Names

variable {path : String} {s name : List Char}

theorem trimReversed_ne_dot_slash (s t : List Char) :
    trimReversed s ≠ '.' :: '/' :: t := by
  fun_induction trimReversed s with
  | case1 => simp
  | case2 rest _ ih => exact ih
  | case3 rest ih => exact ih
  | case4 s _ _ hdot =>
      rintro rfl
      exact hdot t rfl

/-- A single dot is the last component of no path that has others. -/
theorem beforeLast_eq_nil_of_dot (h : lastComponent s = ['.']) :
    beforeLast s = [] := by
  rcases beforeLast_eq_nil_or_concat s with hbefore | ⟨front, hbefore⟩
  · exact hbefore
  · have hbody := beforeLast_append_lastComponent s
    rw [h, hbefore, body] at hbody
    have htrimmed : trimReversed s.reverse = '.' :: '/' :: front.reverse := by
      rw [← List.reverse_inj, ← hbody]
      simp
    exact absurd htrimmed (trimReversed_ne_dot_slash _ _)

theorem stem_append_extension (h : s ≠ []) :
    stem (s ++ temporaryExtension) = s := by
  have hextension :
      ((s ++ temporaryExtension).reverse.takeWhile (· != '.')).reverse = ['t', 'm', 'p'] := by
    simp [temporaryExtension]
  have hrest : (s ++ temporaryExtension).take
      ((s ++ temporaryExtension).length - ['t', 'm', 'p'].length - 1) = s := by
    simp [temporaryExtension]
  unfold stem
  simp only [hextension, hrest]
  simp [temporaryExtension, h]

theorem stem_ne_nil (h : name ≠ []) :
    stem name ≠ [] := by
  unfold stem
  simp only [Bool.or_eq_true, List.isEmpty_iff]
  split
  · exact h
  · next hrest => exact fun hnil => hrest (.inr hnil)

theorem isPrefix_stem (name : List Char) :
    stem name <+: name := by
  unfold stem
  simp only
  split
  · exact List.prefix_refl name
  · exact List.take_prefix _ _

/-- A name is the one of its temporary file when it has the extension and something before it. -/
theorem stem_append_eq_self_iff (hname : name ≠ []) :
    stem name ++ temporaryExtension = name ↔ ∃ s, s ≠ [] ∧ name = s ++ temporaryExtension := by
  constructor
  · intro h
    exact ⟨stem name, stem_ne_nil hname, h.symm⟩
  · rintro ⟨s, hs, rfl⟩
    rw [stem_append_extension hs]

theorem fileName?_eq_some_iff :
    fileName? path = some name ↔
      lastComponent path.toList = name ∧ name ≠ [] ∧ name ≠ ['.', '.'] ∧ name ≠ ['.'] := by
  unfold fileName?
  simp only [Option.ite_none_left_eq_some, Option.some.injEq, Bool.or_eq_true, List.isEmpty_iff,
    beq_iff_eq, not_or]
  constructor
  · rintro ⟨⟨⟨h₁, h₂⟩, h₃⟩, rfl⟩
    exact ⟨rfl, h₁, h₂, h₃⟩
  · rintro ⟨rfl, h₁, h₂, h₃⟩
    exact ⟨⟨⟨h₁, h₂⟩, h₃⟩, rfl⟩

theorem temporary_of_fileName? (h : fileName? path = some name) :
    temporary path = String.ofList (beforeLast path.toList ++ (stem name ++ temporaryExtension)) := by
  simp only [temporary, h, temporaryExtension, List.append_assoc]

/-- A path leads where its directory and its file name lead. -/
theorem exists_components_of_fileName?
    (h : fileName? path = some name) :
    ∃ n, components path =
      (parts (beforeLast path.toList)).map String.ofList ++
        String.ofList name :: List.replicate n "." := by
  obtain ⟨rfl, hname, -, -⟩ := fileName?_eq_some_iff.1 h
  obtain ⟨n, hn⟩ := exists_parts_body path.toList
  refine ⟨n, ?_⟩
  rw [components_eq, hn, parts_body hname]
  simp

theorem not_mem_stem_append
    (h : fileName? path = some name) :
    '/' ∉ stem name ++ temporaryExtension := by
  obtain ⟨rfl, -⟩ := fileName?_eq_some_iff.1 h
  intro hmem
  rcases List.mem_append.1 hmem with hstem | hextension
  · exact not_mem_lastComponent _ ((isPrefix_stem _).subset hstem)
  · simp [temporaryExtension] at hextension

/-- The temporary file lies in the same directory under its own name. -/
theorem components_temporary
    (h : fileName? path = some name) :
    components (temporary path) =
      (parts (beforeLast path.toList)).map String.ofList ++
        [String.ofList (stem name ++ temporaryExtension)] := by
  rw [temporary_of_fileName? h, components_eq, String.toList_ofList,
    parts_beforeLast_append (not_mem_stem_append h) (by simp [temporaryExtension])]
  simp

theorem isAbsolute_temporary
    (h : fileName? path = some name) :
    isAbsolute (temporary path) = isAbsolute path := by
  obtain ⟨hlast, hname, -, -⟩ := fileName?_eq_some_iff.1 h
  obtain ⟨rest, hrest⟩ := isPrefix_body path.toList
  rw [← beforeLast_append_lastComponent, hlast] at hrest
  rw [temporary_of_fileName? h, isAbsolute, isAbsolute, String.toList_ofList]
  cases hfront : beforeLast path.toList with
  | cons c cs =>
      rw [hfront] at hrest
      rw [← hrest]
      rfl
  | nil =>
      -- Neither name starts with a slash.
      rw [hfront] at hrest
      rw [← hrest]
      obtain ⟨c, cs, rfl⟩ := List.exists_cons_of_ne_nil hname
      obtain ⟨c', cs', hstem⟩ := List.exists_cons_of_ne_nil (stem_ne_nil hname)
      have hc : c ≠ '/' := by
        rintro rfl
        exact not_mem_lastComponent path.toList (by simp [hlast])
      have hc' : c' ≠ '/' := by
        rintro rfl
        exact not_mem_stem_append h (by simp [hstem])
      simp [hstem, hc, hc']

end Names

end Path

namespace Place

variable {base : Place} {names : List String}

theorem follow_append
    (base : Place)
    (names rest : List String) :
    follow base (names ++ rest) = follow (follow base names) rest :=
  List.foldl_append

/-- Dots lead nowhere. -/
theorem follow_replicate_dot
    (base : Place)
    (n : Nat) :
    follow base (List.replicate n ".") = base := by
  induction n with
  | zero => rfl
  | succ n ih => exact ih

theorem follow_name
    {name : String}
    {rest : List String}
    (hdot : name ≠ ".")
    (hdots : name ≠ "..") :
    follow base (name :: rest) = follow (base ++ [name]) rest := by
  simp [follow, next, hdot, hdots]

end Place

namespace Disk

open Keyring.Path

/-- Whether a path leads to the very file that is used as the temporary one in writing it. -/
def OwnTemporary (path : String) : Prop :=
  placeOf (Path.temporary path) = placeOf path

instance (path : String) : Decidable (OwnTemporary path) :=
  inferInstanceAs (Decidable (_ = _))

section Names

variable {path : String} {name : List Char}

theorem placeOf_of_fileName?
    (h : fileName? path = some name) :
    placeOf path =
      Place.follow (origin path) ((parts (beforeLast path.toList)).map String.ofList) ++
        [String.ofList name] := by
  obtain ⟨-, -, hdots, hdot⟩ := fileName?_eq_some_iff.1 h
  obtain ⟨n, hn⟩ := exists_components_of_fileName? h
  rw [placeOf, hn, Place.follow_append, Place.follow_name, Place.follow_replicate_dot]
  · intro hname
    exact hdot (by simpa using congrArg String.toList hname)
  · intro hname
    exact hdots (by simpa using congrArg String.toList hname)

/-- The name of a temporary file is too long to be dots. -/
theorem ofList_stem_append_ne
    {dots : String}
    (hdots : dots.toList.length < 4) :
    String.ofList (stem name ++ temporaryExtension) ≠ dots := by
  rintro rfl
  simp only [String.toList_ofList, temporaryExtension, List.length_append, List.length_cons,
    List.length_nil] at hdots
  omega

theorem placeOf_temporary
    (h : fileName? path = some name) :
    placeOf (Path.temporary path) =
      Place.follow (origin path) ((parts (beforeLast path.toList)).map String.ofList) ++
        [String.ofList (stem name ++ temporaryExtension)] := by
  rw [placeOf, origin, isAbsolute_temporary h, ← origin, components_temporary h, Place.follow_append,
    Place.follow_name (ofList_stem_append_ne (by decide)) (ofList_stem_append_ne (by decide))]
  rfl

/-- A file is its own temporary file exactly if it has the extension of temporary files, unless its path
ends in no file name at all. -/
theorem ownTemporary_iff :
    OwnTemporary path ↔
      fileName? path = none ∨ ∃ s, s ≠ [] ∧ fileName? path = some (s ++ temporaryExtension) := by
  cases hname : fileName? path with
  | none => simp [OwnTemporary, Path.temporary, hname]
  | some name =>
      obtain ⟨-, hne, -, -⟩ := fileName?_eq_some_iff.1 hname
      simp only [OwnTemporary, placeOf_of_fileName? hname, placeOf_temporary hname,
        List.append_cancel_left_eq, List.cons.injEq, and_true, String.ofList_inj, reduceCtorEq,
        false_or, Option.some.injEq]
      exact stem_append_eq_self_iff hne

example : OwnTemporary "d/keys.tmp" ∧ ¬ OwnTemporary "d/.tmp" ∧ ¬ OwnTemporary "keys.tmp.json" := by
  decide +kernel

end Names

section Directories

variable {path parent : String} {place base : Place} {names : List String} {name : List Char}

/-- Without double dots a directory that is made lies no deeper than where its path leads. -/
theorem length_le_of_mem_made
    (hdots : ".." ∉ names)
    (hmade : place ∈ Place.made base names) :
    place.length ≤ (Place.follow base names).length := by
  induction names generalizing base with
  | nil => cases hmade
  | cons name names ih =>
      rw [List.mem_cons, not_or] at hdots
      rw [Place.made] at hmade
      split at hmade
      · exact ih hdots.2 hmade
      · rcases List.mem_cons.1 hmade with rfl | hmade
        · exact (prefix_follow _ hdots.2).length_le
        · exact ih hdots.2 hmade

/-- A file lies directly below where the path of its directory leads. -/
theorem placeOf_of_parent
    (hparent : parent? path = some parent)
    (hname : fileName? path = some name) :
    placeOf path = Place.follow (origin path) (components parent) ++ [String.ofList name] := by
  unfold parent? at hparent
  simp only [Option.ite_none_left_eq_some, Option.some.injEq] at hparent
  obtain ⟨-, rfl⟩ := hparent
  obtain ⟨n, hn⟩ := exists_parts_body (beforeLast path.toList)
  rw [placeOf_of_fileName? hname, hn, components_eq, String.toList_ofList, List.map_append,
    List.map_replicate, Place.follow_append]
  exact congrArg (· ++ _) (Place.follow_replicate_dot _ n)

/-- A path below a directory that has a name leads to a file name, unless it ends in double dots. -/
theorem exists_fileName?_of_parent
    (hparent : parent? path = some parent)
    (hne : ¬ parent.isEmpty)
    (hdots : ".." ∉ components path) :
    ∃ name, fileName? path = some name := by
  unfold parent? at hparent
  simp only [Option.ite_none_left_eq_some, Option.some.injEq, List.isEmpty_iff] at hparent
  obtain ⟨hlast, rfl⟩ := hparent
  refine ⟨_, fileName?_eq_some_iff.2 ⟨rfl, hlast, fun hname => ?_, fun hname => ?_⟩⟩
  · obtain ⟨n, hn⟩ := exists_parts_body path.toList
    refine hdots ?_
    rw [components_eq, hn, parts_body hlast, hname]
    simp
  · rw [beforeLast_eq_nil_of_dot hname] at hne
    exact hne rfl

/-- A directory is made at the place of a file itself only for a path that leaves it again. -/
theorem mem_components_of_mem_madeFor
    (h : placeOf path ∈ madeFor path) :
    ".." ∈ components path := by
  by_contra hdots
  unfold madeFor at h
  cases hparent : parent? path with
  | none => simp [hparent] at h
  | some parent =>
      simp only [hparent] at h
      have hnonempty : ¬ parent.isEmpty := by
        intro hempty
        rw [String.isEmpty_iff.1 hempty] at h
        cases h
      obtain ⟨name, hname⟩ := exists_fileName?_of_parent hparent hnonempty hdots
      obtain ⟨rest, -, hrest⟩ := exists_components_of_parent hparent
      have hlength := length_le_of_mem_made (fun hmem => hdots (by simp [hrest, hmem])) h
      rw [placeOf_of_parent hparent hname, origin, origin,
        isAbsolute_of_parent hparent hnonempty, List.length_append, List.length_singleton] at hlength
      exact Nat.not_succ_le_self _ hlength

end Directories

end Disk
end Keyring
