import Keyring.Command.Change
import Keyring.Proofs.Key.Reading

/-!
# What confirmations say

The report on a key that has been added says that it is the default now only if it is the first key.
The quotes around the name cut the text into pieces, none of which can hold that sentence: the name
has no blanks, and a mask is too short.
-/

namespace Keyring

/-- A piece without a separator lies on one side of it. -/
theorem infix_of_infix_append_cons
    {α : Type}
    {piece left right : List α}
    {separator : α}
    (hpiece : separator ∉ piece)
    (h : piece <:+: left ++ separator :: right) :
    piece <:+: left ∨ piece <:+: right := by
  obtain ⟨before, after, heq⟩ := h
  rcases List.append_eq_append_iff.1 heq with ⟨rest, hleft, -⟩ | ⟨rest, hfront, hback⟩
  · exact .inl ⟨before, rest, hleft.symm⟩
  · cases rest with
    | nil =>
        rw [List.append_nil] at hfront
        exact .inl ⟨before, [], by rw [List.append_nil, hfront]⟩
    | cons c rest =>
        obtain ⟨rfl, rfl⟩ := List.cons.inj hback
        rcases List.append_eq_append_iff.1 hfront with ⟨cut, -, hcut⟩ | ⟨cut, -, hcut⟩
        · exact absurd (hcut ▸ List.mem_append_right cut List.mem_cons_self) hpiece
        · cases cut with
          | nil =>
              rw [List.nil_append] at hcut
              exact absurd (hcut ▸ List.mem_cons_self) hpiece
          | cons d cut =>
              obtain ⟨-, rfl⟩ := List.cons.inj hcut
              exact .inr ⟨cut, after, rfl⟩

/-- A mask has at most 13 characters. -/
theorem length_mask_le (secret : String) :
    (mask secret).toList.length ≤ 13 := by
  unfold mask
  simp only
  split
  · next hshort =>
      simp only [maskLimit] at hshort
      omega
  · next hlong =>
      simp only [maskLimit] at hlong
      simp only [String.toList_ofList, List.length_append, List.length_take, List.length_cons,
        List.length_drop, maskHead, maskTail]
      omega

/-- No character of a name is a space. -/
theorem KeyName.space_not_mem (n : KeyName) :
    ' ' ∉ n.value.toList := by
  intro hmem
  exact absurd (n.isNameChar_of_mem hmem) (by decide)

namespace NewKey

/-- The sentence on the first key. -/
def firstSentence : List Char :=
  "Set as default (first key)".toList

/-- The report on a key that has been added holds the sentence on the first key only if there was no
key before. -/
theorem isEmpty_of_firstSentence
    {before : Collection}
    {key : Profile}
    (h : firstSentence <:+: (confirmation before key).toList) :
    before.isEmpty = true := by
  cases hempty : before.isEmpty with
  | true => rfl
  | false =>
      have hlong : firstSentence.length = 26 := by decide
      have hquote : '\'' ∉ firstSentence := by decide
      have hspace : ' ' ∈ firstSentence := by decide
      let verb := (if before.contains key.name then "Replaced" else "Added").toList
      have htext : (confirmation before key).toList =
          (verb ++ " key ".toList) ++ '\'' :: (key.name.value.toList ++ '\'' ::
            (" (".toList ++ (key.masked.toList ++ ")".toList))) := by
        simp [confirmation, hempty, verb]
      rw [htext] at h
      rcases infix_of_infix_append_cons hquote h with hverb | h
      · have hlength := hverb.length_le
        have hshort : verb.length ≤ 8 := by
          simp only [verb]
          split
          · decide
          · decide
        rw [List.length_append, show " key ".toList.length = 5 from rfl] at hlength
        omega
      rcases infix_of_infix_append_cons hquote h with hname | hmask
      · exact absurd (hname.mem hspace) key.name.space_not_mem
      · have hlength := hmask.length_le
        have hshort : key.masked.toList.length ≤ 13 := length_mask_le key.secret
        rw [List.length_append, List.length_append, show " (".toList.length = 2 from rfl,
          show ")".toList.length = 1 from rfl] at hlength
        omega

end NewKey
end Keyring
