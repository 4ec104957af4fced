import Keyring.File.Disk

/-!
# Where a path leads

Where a path leads can be read off its text, as long as it leads anywhere: directories decide whether it
does, but not where.  A path leads to the same place in every tree that has directories at the places that
it leads through.
-/

namespace Keyring

namespace Place

/-- The place that a component leads to. -/
def next (base : Place) (name : String) : Place :=
  if name = "." then base else if name = ".." then base.dropLast else base ++ [name]

/-- The place that components lead to. -/
def follow (base : Place) (names : List String) : Place :=
  names.foldl next base

/-- The places whose directories are asked for components. -/
def passed (base : Place) : List String → List Place
  | [] => []
  | name :: rest => base :: passed (next base name) rest

end Place

namespace Disk

/-- Whether a place holds a directory. -/
def IsDirectory (d : Disk) (place : Place) : Prop :=
  ∃ mode, d.at? place = some (.directory mode)

/-- The place that the components of a path are taken from. -/
def origin (path : String) : Place :=
  if Path.isAbsolute path then [] else workingPlace

/-- The place that a path leads to, if it leads anywhere. -/
def placeOf (path : String) : Place :=
  Place.follow (origin path) (Path.components path)

/-- The places that a path leads through. -/
def passedBy (path : String) : List Place :=
  Place.passed (origin path) (Path.components path)

section Routes

variable {d d' : Disk} {path : String} {place base above : Place} {names : List String}

/-- A component leads on from a directory, unless it is too long for a name. -/
theorem walk_cons_eq_ok_iff {name : String} :
    d.walk base (name :: names) = .ok place ↔
      d.IsDirectory base ∧ (name = "." ∨ name = ".." ∨ name.utf8ByteSize ≤ nameLimit) ∧
        d.walk (Place.next base name) names = .ok place := by
  rw [walk, Place.next, IsDirectory]
  cases d.at? base with
  | none => simp
  | some node =>
      cases node with
      | file content mode => simp
      | directory mode =>
          by_cases hdot : name = "."
          · simp [hdot]
          · by_cases hdots : name = ".."
            · simp [hdots]
            · by_cases hlong : name.utf8ByteSize > nameLimit
              · simp [hdot, hdots, hlong, Nat.not_le_of_gt hlong]
              · simp [hdot, hdots, hlong, Nat.le_of_not_gt hlong]

theorem eq_follow_of_walk (h : d.walk base names = .ok place) :
    place = Place.follow base names := by
  induction names generalizing base with
  | nil =>
      cases h
      rfl
  | cons name names ih => exact ih (walk_cons_eq_ok_iff.1 h).2.2

/-- A path leads where its components lead, unless it is no path. -/
theorem locate_eq_ok_iff :
    d.locate path = .ok place ↔
      (¬ path.isEmpty ∧ ¬ path.toList.contains '\x00' ∧ path.utf8ByteSize ≤ pathLimit) ∧
        d.walk (origin path) (Path.components path) = .ok place := by
  rw [locate, origin]
  by_cases hempty : path.isEmpty = true
  · rw [if_pos hempty]
    simp [hempty]
  · rw [if_neg hempty]
    by_cases hnul : path.toList.contains '\x00' = true
    · rw [if_pos hnul]
      simp only [hnul, not_true, false_and, and_false, reduceCtorEq]
    · rw [if_neg hnul]
      by_cases hlong : path.utf8ByteSize > pathLimit
      · rw [if_pos hlong]
        simp only [Nat.not_le_of_gt hlong, and_false, false_and, reduceCtorEq]
      · rw [if_neg hlong]
        exact ⟨fun h => ⟨⟨hempty, hnul, Nat.le_of_not_gt hlong⟩, h⟩, fun h => h.2⟩

/-- A path leads to the place that can be read off it. -/
theorem eq_placeOf_of_locate (h : d.locate path = .ok place) :
    place = placeOf path :=
  eq_follow_of_walk (locate_eq_ok_iff.1 h).2

theorem walk_of_passed
    (hwalk : d'.walk base names = .ok place)
    (hpassed : ∀ above ∈ Place.passed base names, d'.IsDirectory above → d.IsDirectory above) :
    d.walk base names = .ok place := by
  induction names generalizing base with
  | nil => exact hwalk
  | cons name names ih =>
      obtain ⟨hbase, hname, hrest⟩ := walk_cons_eq_ok_iff.1 hwalk
      have hbase' := hpassed base List.mem_cons_self hbase
      have hrest' := ih hrest fun above habove => hpassed above (List.mem_cons_of_mem _ habove)
      exact walk_cons_eq_ok_iff.2 ⟨hbase', hname, hrest'⟩

/-- A path leads to a place as soon as the places that it leads through hold directories. -/
theorem locate_of_passed
    (hlocate : d'.locate path = .ok place)
    (hpassed : ∀ above ∈ passedBy path, d'.IsDirectory above → d.IsDirectory above) :
    d.locate path = .ok place := by
  obtain ⟨hpath, hwalk⟩ := locate_eq_ok_iff.1 hlocate
  exact locate_eq_ok_iff.2 ⟨hpath, walk_of_passed hwalk hpassed⟩

theorem prefix_follow
    {names : List String}
    (base : Place)
    (hdots : ".." ∉ names) :
    base <+: Place.follow base names := by
  induction names generalizing base with
  | nil => exact List.prefix_refl base
  | cons name names ih =>
      rw [List.mem_cons, not_or] at hdots
      obtain ⟨hname, hnames⟩ := hdots
      refine List.IsPrefix.trans ?_ (ih (Place.next base name) hnames)
      rw [Place.next, if_neg (Ne.symm hname)]
      split
      · exact List.prefix_refl base
      · exact List.prefix_append base [name]

theorem prefix_follow_of_mem_passed
    {base above : Place}
    {names : List String}
    (hdots : ".." ∉ names)
    (habove : above ∈ Place.passed base names) :
    above <+: Place.follow base names := by
  induction names generalizing base with
  | nil => cases habove
  | cons name names ih =>
      rcases List.mem_cons.1 habove with rfl | hrest
      · exact prefix_follow above hdots
      · exact ih (fun h => hdots (List.mem_cons_of_mem _ h)) hrest

end Routes

end Disk
end Keyring
