import Keyring.Command.Change
import Keyring.Command.View
import Keyring.Proofs.Store.Change

/-!
# Keys with their secrets veiled

To veil a key is to put the mask of its secret in the place of the secret.  The mask of a mask is that mask,
so all that is shown of a key is shown in the same way when it is veiled.  Two keys that are equal when they
are veiled differ at most in their secrets, and these have the same mask.

What is done to a collection is done in the same way to the veiled collection, because nothing looks at
secrets.
-/

namespace Keyring

/-- The mask of a mask is that mask. -/
@[simp] theorem mask_mask (secret : String) :
    mask (mask secret) = mask secret := by
  by_cases hshort : secret.toList.length ≤ maskLimit
  · have hself : mask secret = secret := by simp [mask, hshort]
    rw [hself, hself]
  · -- A long secret has eight characters, an ellipsis and four characters left, which is long again.
    let head := secret.toList.take maskHead
    let tail := secret.toList.drop (secret.toList.length - maskTail)
    have hlong : maskLimit < secret.toList.length := Nat.lt_of_not_le hshort
    have hhead : head.length = 8 := by
      simp only [head, List.length_take, maskHead, maskLimit] at hlong ⊢
      omega
    have htail : tail.length = 4 := by
      simp only [tail, List.length_drop, maskTail, maskLimit] at hlong ⊢
      omega
    have hmask : mask secret = String.ofList (head ++ '…' :: tail) := by
      simp [mask, hshort, head, tail]
    have hlength : (head ++ '…' :: tail).length = 13 := by
      simp [hhead, htail]
    have hstart : (head ++ '…' :: tail).take maskHead = head := by
      rw [maskHead, ← hhead, List.take_left]
    have hend : (head ++ '…' :: tail).drop (13 - maskTail) = tail := by
      have hsplit : head ++ '…' :: tail = (head ++ ['…']) ++ tail := by simp
      have hnine : 13 - maskTail = (head ++ ['…']).length := by simp [hhead, maskTail]
      rw [hsplit, hnine, List.drop_left]
    have hagain : ¬ (13 ≤ maskLimit) := by decide
    rw [hmask, mask, String.toList_ofList]
    simp only [hlength, hagain, if_false, hstart, hend]

namespace Profile

/-- The key with the mask of its secret in the place of the secret. -/
def veiled (p : Profile) : Profile :=
  p.withSecret p.masked

@[simp] theorem name_veiled (p : Profile) :
    p.veiled.name = p.name := rfl

@[simp] theorem note_veiled (p : Profile) :
    p.veiled.note = p.note := rfl

@[simp] theorem baseUrlText_veiled (p : Profile) :
    p.veiled.baseUrlText = p.baseUrlText := rfl

@[simp] theorem createdAt_veiled (p : Profile) :
    p.veiled.createdAt = p.createdAt := rfl

@[simp] theorem masked_veiled (p : Profile) :
    p.veiled.masked = p.masked :=
  mask_mask p.secret

/-- Two keys that differ at most in their secrets. -/
theorem veiled_withSecret_eq
    {p q : Profile}
    {secret secret' : String}
    (h : p.veiled = q.veiled)
    (hmask : mask secret = mask secret') :
    (p.withSecret secret).veiled = (q.withSecret secret').veiled := by
  have hp : (p.withSecret secret).veiled = p.veiled.withSecret (mask secret) := rfl
  have hq : (q.withSecret secret').veiled = q.veiled.withSecret (mask secret') := rfl
  rw [hp, hq, h, hmask]

@[simp] theorem description?_veiled (p : Profile) (isDefault : Bool) :
    p.veiled.description? isDefault = p.description? isDefault := by
  simp only [description?, masked_veiled, name_veiled, note_veiled, baseUrlText_veiled,
    createdAt_veiled]

@[simp] theorem line?_veiled (offset : Offset) (p : Profile) :
    p.veiled.line? offset = p.line? offset := by
  simp only [line?, masked_veiled, name_veiled, note_veiled, baseUrlText_veiled, createdAt_veiled]

end Profile

namespace Collection

/-- The collection with all keys veiled. -/
def veiled (c : Collection) : Collection where
  keys := c.keys.map Profile.veiled
  defaultName := c.defaultName
  names_nodup := by
    have hnames : (Profile.name ∘ Profile.veiled) = Profile.name := rfl
    rw [List.map_map, hnames]
    exact c.names_nodup
  default_mem := by
    have hnames : (Profile.name ∘ Profile.veiled) = Profile.name := rfl
    rw [List.map_map, hnames]
    exact c.default_mem

variable (c : Collection) (key : Profile) (name : KeyName)

@[simp] theorem keys_veiled :
    c.veiled.keys = c.keys.map Profile.veiled := rfl

@[simp] theorem names_veiled :
    c.veiled.names = c.names := by
  simp only [names, keys_veiled, List.map_map]
  rfl

@[simp] theorem size_veiled :
    c.veiled.size = c.size := by
  simp only [size, keys_veiled, List.length_map]

@[simp] theorem isEmpty_veiled :
    c.veiled.isEmpty = c.isEmpty := by
  simp only [isEmpty, keys_veiled, List.isEmpty_map]

@[simp] theorem isDefault_veiled :
    c.veiled.isDefault name = c.isDefault name := rfl

@[simp] theorem find?_veiled :
    c.veiled.find? name = (c.find? name).map Profile.veiled := by
  simp only [find?, keys_veiled, List.find?_map]
  rfl

@[simp] theorem contains_veiled :
    c.veiled.contains name = c.contains name := by
  simp only [contains, find?_veiled, Option.isSome_map]

@[simp] theorem default?_veiled :
    c.veiled.default? = c.default?.map Profile.veiled := by
  have hdefault : c.veiled.defaultName = c.defaultName := rfl
  rw [default?, hdefault]
  cases hname : c.defaultName with
  | none => simp [default?, hname]
  | some name => simp [default?, hname]

theorem map_veiled_put (keys : List Profile) :
    (put key keys).map Profile.veiled = put key.veiled (keys.map Profile.veiled) := by
  induction keys with
  | nil => rfl
  | cons k keys ih =>
      by_cases hname : k.name = key.name
      · simp [put, hname]
      · simp [put, hname, ih]

theorem veiled_add :
    (c.add key).veiled = c.veiled.add key.veiled := by
  refine ext_parts (map_veiled_put key c.keys) ?_
  change c.defaultAfterAdd key = c.veiled.defaultAfterAdd key.veiled
  simp only [defaultAfterAdd, isEmpty_veiled, Profile.name_veiled]
  rfl

theorem veiled_remove :
    (c.remove name).veiled = c.veiled.remove name := by
  refine ext_parts ?_ rfl
  change (c.keys.filter fun k => k.name != name).map Profile.veiled =
    (c.keys.map Profile.veiled).filter fun k => k.name != name
  rw [List.filter_map]
  rfl

theorem setDefault?_veiled :
    c.veiled.setDefault? name = (c.setDefault? name).map veiled := by
  by_cases hmem : name ∈ c.names
  · obtain ⟨c₁, hset₁, hkeys₁, hdefault₁⟩ := setDefault?_of_mem hmem
    have hveiled : name ∈ c.veiled.names := by rw [names_veiled]; exact hmem
    obtain ⟨c₂, hset₂, hkeys₂, hdefault₂⟩ := setDefault?_of_mem hveiled
    rw [hset₁, hset₂, Option.map_some, Option.some.injEq]
    refine ext_parts ?_ (hdefault₂.trans hdefault₁.symm)
    rw [hkeys₂, keys_veiled, keys_veiled, hkeys₁]
  · have hnone : ∀ d : Collection, name ∉ d.names → d.setDefault? name = none := by
      intro d hd
      cases hset : d.setDefault? name with
      | none => rfl
      | some d' =>
          have hdangling := d'.default_mem name (setDefault?_eq_some hset).2
          rw [(setDefault?_eq_some hset).1] at hdangling
          exact absurd hdangling hd
    have hveiled : name ∉ c.veiled.names := by rw [names_veiled]; exact hmem
    rw [hnone c hmem, hnone c.veiled hveiled, Option.map_none]

theorem updated_veiled :
    Vault.updated c.veiled key.veiled = (Vault.updated c key).map veiled := by
  have hadded : (c.veiled.remove key.name).add key.veiled =
      ((c.remove key.name).add key).veiled := by
    rw [veiled_add, veiled_remove]
  simp only [Vault.updated, Profile.name_veiled, isDefault_veiled, hadded, setDefault?_veiled]
  split
  · rfl
  · rfl

@[simp] theorem description?_veiled :
    c.veiled.description? = c.description? := by
  have hkeys : c.veiled.descriptions? = c.descriptions? := by
    simp only [descriptions?, keys_veiled, List.mapM_map, Profile.name_veiled, isDefault_veiled,
      Profile.description?_veiled, Function.comp_def]
  simp only [description?, hkeys, size_veiled]
  rfl

@[simp] theorem listing?_veiled (offset : Offset) :
    c.veiled.listing? offset = c.listing? offset := by
  have hline : ∀ p, c.veiled.markedLine? offset p.veiled = c.markedLine? offset p := by
    intro p
    simp only [markedLine?, Profile.line?_veiled, Profile.name_veiled, isDefault_veiled]
    rfl
  have hcount : c.veiled.countLine = c.countLine := by
    simp only [countLine, size_veiled]
    rfl
  simp only [listing?, isEmpty_veiled, keys_veiled, List.mapM_map, Function.comp_def, hline, hcount]

end Collection
end Keyring
