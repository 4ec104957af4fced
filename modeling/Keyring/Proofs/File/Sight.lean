import Mathlib.Data.List.Induction
import Keyring.Proofs.File.Frame

/-!
# What can be seen under a path

A change in a file tree is seen under a path that leads to what has been changed.  A path that leads
elsewhere can still be opened by a new directory on its way, but only if it leaves that directory again
through double dots; otherwise nothing can be at its end: `Disk.sight_of_changed`.
-/

namespace Keyring

namespace Disk

/-- What can be seen under a path. -/
def sight (d : Disk) (path : String) : Option (Option ByteArray) :=
  (d.look path).toOption.map fun found => found.2.content?

/-- Whether everything that exists lies in a directory. -/
def IsTree (d : Disk) : Prop :=
  ∀ (place : Place) (name : String), d.view (place ++ [name]) ≠ none → d.IsDirectory place

section Trees

variable {d : Disk} {place : Place}

/-- Above everything that exists there are directories. -/
theorem IsTree.isDirectory_of_prefix
    {above : Place}
    (htree : d.IsTree)
    (habove : above <+: place)
    (hne : above ≠ place)
    (hview : d.view place ≠ none) :
    d.IsDirectory above := by
  obtain ⟨below, rfl⟩ := habove
  induction below using List.reverseRecOn with
  | nil => exact absurd (List.append_nil above).symm hne
  | append_singleton below name ih =>
      rw [← List.append_assoc] at hview
      have hparent := htree (above ++ below) name hview
      by_cases hbelow : below = []
      · rwa [hbelow, List.append_nil] at hparent
      · refine ih ?_ ?_
        · simpa using hbelow
        · rw [isDirectory_iff_view.1 hparent]
          exact Option.some_ne_none none

theorem isTree_of_nodes
    (h : ∀ entry ∈ d.nodes, d.view entry.1.dropLast = some none) :
    d.IsTree := by
  intro place name hview
  obtain ⟨node, hnode⟩ : ∃ node, d.nodes.lookup (place ++ [name]) = some node := by
    rw [← Option.ne_none_iff_exists']
    intro hnone
    exact hview (by simp only [view, at?, hnone]; simp)
  obtain ⟨before, after, hnodes, -⟩ := List.lookup_eq_some_iff.1 hnode
  have hdirectory := h (place ++ [name], node) (by rw [hnodes]; simp)
  rw [List.dropLast_concat] at hdirectory
  exact isDirectory_iff_view.2 hdirectory

end Trees

section Sight

variable {d d' : Disk} {path : String} {place : Place} {files dirs : List Place}

theorem sight_of_look
    {node : Node}
    (h : d.look path = .ok (place, node)) :
    d.sight path = some node.content? := by
  rw [sight, h]
  rfl

theorem look_of_sight
    {seen : Option ByteArray}
    (h : d.sight path = some seen) :
    ∃ node, d.look path = .ok (placeOf path, node) ∧ node.content? = seen ∧
      d.view (placeOf path) = some seen := by
  cases hlook : d.look path with
  | error e =>
      rw [sight, hlook] at h
      cases h
  | ok found =>
      obtain ⟨place, node⟩ := found
      rw [sight_of_look hlook, Option.some.injEq] at h
      obtain rfl := eq_placeOf_of_look hlook
      refine ⟨node, rfl, h, ?_⟩
      rw [view, (look_eq_ok_iff.1 hlook).2.1, Option.map_some, h]

theorem sight_of_locate
    {seen : Option ByteArray}
    (hlocate : d'.locate path = .ok (placeOf path))
    (hview : d'.view (placeOf path) = d.view (placeOf path))
    (hsight : d.sight path = some seen) :
    d'.sight path = some seen := by
  obtain ⟨node, hlook, hcontent, hseen⟩ := look_of_sight hsight
  rw [← hview, view, Option.map_eq_some_iff] at hseen
  obtain ⟨node', hnode', hcontent'⟩ := hseen
  have hasks := (look_eq_ok_iff.1 hlook).2.2
  rw [← hcontent']
  refine sight_of_look (look_eq_ok_iff.2 ⟨hlocate, hnode', ?_⟩)
  rw [hcontent', ← hcontent, hasks]

/-- The places that a path leads through to something hold directories already before a change, as
long as no directory is made that the path leads into and out of again. -/
theorem isDirectory_of_passed
    {above : Place}
    (htree : d.IsTree)
    (h : Changed files dirs d d')
    (hpassable : ∀ above ∈ passedBy path, above ∈ dirs → above <+: placeOf path)
    (hview : d'.view (placeOf path) = d.view (placeOf path))
    (hsight : d'.sight path ≠ none)
    (habove : above ∈ passedBy path)
    (hdirectory : d'.IsDirectory above) :
    d.IsDirectory above := by
  rcases h.within above hdirectory with hbefore | hmade
  · exact hbefore
  · by_cases hend : above = placeOf path
    · rw [hend] at hdirectory ⊢
      rwa [isDirectory_iff_view, ← hview, ← isDirectory_iff_view]
    · obtain ⟨seen, hseen⟩ := Option.ne_none_iff_exists'.1 hsight
      obtain ⟨-, -, -, hview'⟩ := look_of_sight hseen
      refine htree.isDirectory_of_prefix (hpassable above habove hmade) hend ?_
      rw [← hview, hview']
      exact Option.some_ne_none seen

theorem sight_of_view
    (htree : d.IsTree)
    (h : Changed files dirs d d')
    (hpassable : ∀ above ∈ passedBy path, above ∈ dirs → above <+: placeOf path)
    (hview : d'.view (placeOf path) = d.view (placeOf path)) :
    d'.sight path = d.sight path := by
  cases hsight : d.sight path with
  | some seen =>
      obtain ⟨node, hlook, -, -⟩ := look_of_sight hsight
      have hlocate := locate_of_keepsDirectories h.keeps (look_eq_ok_iff.1 hlook).1
      exact sight_of_locate hlocate hview hsight
  | none =>
      cases hsight' : d'.sight path with
      | none => rfl
      | some seen =>
          -- What shows itself after the change was there before, and so was the way to it.
          obtain ⟨node, hlook, -, -⟩ := look_of_sight hsight'
          have hlocate : d.locate path = .ok (placeOf path) :=
            locate_of_passed (look_eq_ok_iff.1 hlook).1 fun above =>
              isDirectory_of_passed htree h hpassable hview (by simp [hsight'])
          rw [sight_of_locate hlocate hview.symm hsight'] at hsight
          cases hsight

/-- What can be seen under a path is as before, unless the file there has been changed or a directory
has been made there, as long as no directory is made that the path leads into and out of again. -/
theorem sight_of_changed
    (htree : d.IsTree)
    (h : Changed files dirs d d')
    (hfile : placeOf path ∉ files)
    (hpassable : ∀ above ∈ passedBy path, above ∈ dirs → above <+: placeOf path) :
    d'.sight path = d.sight path ∨
      (placeOf path ∈ dirs ∧ d.sight path = none ∧ d'.sight path = some none) := by
  rcases h.elsewhere _ hfile with hview | ⟨hmade, hnone, hdirectory⟩
  · exact .inl (sight_of_view htree h hpassable hview)
  · have hbefore : d.sight path = none := by
      by_contra hsome
      obtain ⟨seen, hseen⟩ := Option.ne_none_iff_exists'.1 hsome
      obtain ⟨-, -, -, hview⟩ := look_of_sight hseen
      rw [hnone] at hview
      cases hview
    cases hafter : d'.sight path with
    | none => exact .inl hbefore.symm
    | some seen =>
        obtain ⟨-, -, -, hview⟩ := look_of_sight hafter
        rw [hdirectory, Option.some.injEq] at hview
        exact .inr ⟨hmade, hbefore, by rw [hview]⟩

/-- What exists under a path. -/
def found? (d : Disk) (path : String) : Option Node :=
  (d.look path).toOption.map Prod.snd

theorem sight_eq_map_found?
    (d : Disk)
    (path : String) :
    d.sight path = (d.found? path).map Node.content? := by
  rw [sight, found?, Option.map_map]
  rfl

/-- Whether a path leads to the same in two trees, and the same exists at its place. -/
structure SameAt (path : String) (d d' : Disk) : Prop where
  found : d'.found? path = d.found? path
  node : d'.at? (placeOf path) = d.at? (placeOf path)

theorem SameAt.refl
    (path : String)
    (d : Disk) :
    SameAt path d d :=
  ⟨rfl, rfl⟩

theorem SameAt.trans
    {d'' : Disk}
    (h : SameAt path d d')
    (h' : SameAt path d' d'') :
    SameAt path d d'' :=
  ⟨h'.found.trans h.found, h'.node.trans h.node⟩

theorem SameAt.sight
    (h : SameAt path d d') :
    d'.sight path = d.sight path := by
  rw [sight_eq_map_found?, sight_eq_map_found?, h.found]

theorem present_eq_isSome_sight
    (d : Disk)
    (path : String) :
    d.present path = (d.sight path).isSome := by
  rw [present, sight, Option.isSome_map]

theorem readBytes_of_sight
    {seen : Option ByteArray}
    (h : d.sight path = some seen) :
    d.readBytes path = seen.elim (.error .isDirectory) .ok := by
  obtain ⟨node, hlook, rfl, -⟩ := look_of_sight h
  rw [readBytes_of_look hlook]
  cases node with
  | file content mode => rfl
  | directory mode => rfl

/-- Nothing can be seen where a file has been deleted. -/
theorem sight_of_unlink
    (h : d.unlink path = .ok d') :
    d'.sight path = none := by
  unfold unlink at h
  split at h
  · cases h
  · cases h
  · next place content mode hlook =>
      cases h
      obtain rfl := eq_placeOf_of_look hlook
      have hfile := not_isDirectory_of_file (look_eq_ok_iff.1 hlook).2.1
      cases hseen : (d.erase (placeOf path)).sight path with
      | none => rfl
      | some seen =>
          obtain ⟨-, -, -, hview⟩ := look_of_sight hseen
          rw [view, at?_erase_self (ne_nil_of_not_isDirectory hfile)] at hview
          cases hview

end Sight

end Disk
end Keyring
