import Keyring.Proofs.Action.Agreement
import Keyring.Proofs.File.Parallel
import Keyring.Proofs.Store.Files
import Keyring.Proofs.Store.Strictness
import Keyring.Proofs.Store.Veil

/-!
# Files that differ in secrets only

What a text says without its secrets is what is loaded from it when it is veiled, and the name that it holds
as a marker.  Files are alike, in memory or on disk, if they are the same except that the two texts of the key
store may differ where they say the same.

No call on files tells alike ones apart, but for texts that say the same, and they stay alike, also when texts
that say the same are written to the key store: `FileSystem.Conceals`.  That is all that the key store and the
marker need to end in the same way in both.
-/

namespace Keyring

open Keyring.Disk (placeOf)

namespace Vault

/-- What a text says without its secrets. -/
def said (v : Vault) (text : String) : Except Failure Collection × Option KeyName :=
  ((v.ofText text).map Collection.veiled, Marker.ofText? text)

/-- Which bytes may differ at which places: at the given ones, such as say the same. -/
def Differing (v : Vault) (places : List Place) (place : Place) (bytes bytes' : ByteArray) : Prop :=
  bytes = bytes' ∨ place ∈ places ∧ (Text.decode? bytes).map v.said = (Text.decode? bytes').map v.said

variable {v : Vault} {places places' : List Place} {place : Place} {bytes bytes' : ByteArray}

theorem Differing.refl
    (v : Vault)
    (places : List Place)
    (place : Place)
    (bytes : ByteArray) :
    v.Differing places place bytes bytes :=
  .inl rfl

theorem Differing.mono
    (hplaces : places ⊆ places')
    (h : v.Differing places place bytes bytes') :
    v.Differing places' place bytes bytes' :=
  h.imp_right fun hsaid => ⟨hplaces hsaid.1, hsaid.2⟩

/-- Wherever bytes are read, they say the same. -/
theorem Differing.said
    (h : v.Differing places place bytes bytes') :
    (Text.decode? bytes).map v.said = (Text.decode? bytes').map v.said := by
  rcases h with rfl | ⟨-, hsaid⟩
  · rfl
  · exact hsaid

/-- Elsewhere bytes do not differ. -/
theorem Differing.eq
    (h : v.Differing places place bytes bytes')
    (hplace : place ∉ places) :
    bytes = bytes' :=
  h.resolve_right fun hsaid => hplace hsaid.1

theorem differing_of_said
    {text text' : String}
    (hplace : place ∈ places)
    (h : v.said text = v.said text') :
    v.Differing places place text.toUTF8 text'.toUTF8 := by
  refine .inr ⟨hplace, ?_⟩
  rw [Text.decode?_toUTF8, Text.decode?_toUTF8, Option.map_some, Option.map_some, h]

/-- The texts of collections that differ in secrets only say the same. -/
theorem said_eq_of_veiled
    {c d : Collection}
    {text text' : String}
    (h : c.veiled = d.veiled)
    (htext : toText? c = some text)
    (htext' : toText? d = some text') :
    v.said text = v.said text' := by
  rw [said, said, v.ofText_veiled h htext htext', marker_ofText?_of_toText? htext,
    marker_ofText?_of_toText? htext']

/-- Texts from which collections are loaded that differ in secrets only say the same: neither is a name. -/
theorem said_eq_of_ofText
    {c d : Collection}
    {text text' : String}
    (h : c.veiled = d.veiled)
    (hread : v.ofText text = .ok c)
    (hread' : v.ofText text' = .ok d) :
    v.said text = v.said text' := by
  have hnameless : ∀ {t : String} {e : Collection}, v.ofText t = .ok e → Marker.ofText? t = none := by
    intro t e he
    rcases exists_opening_of_ofText he with hmem | hmem
    · exact Marker.ofText?_eq_none hmem (by decide) (by decide)
    · exact Marker.ofText?_eq_none hmem (by decide) (by decide)
  rw [said, said, hread, hread', hnameless hread, hnameless hread', Except.map, Except.map, h]

end Vault

/-- Whether no call on files tells related states apart, but for texts that say the same, and states stay
related, also when texts that say the same are written to the key store. -/
structure FileSystem.Conceals
    {σ : Type}
    [FileSystem σ]
    (v : Vault)
    (R : σ → σ → Prop) :
    Prop where
  present : ∀ {s t}, R s t → ∀ path, FileSystem.present path s = FileSystem.present path t
  read :
    ∀ {s t}, R s t → ∀ path,
      (FileSystem.read path s).map v.said = (FileSystem.read path t).map v.said
  write :
    ∀ {s t}, R s t → ∀ path text,
      (FileSystem.write path text s).1 = (FileSystem.write path text t).1 ∧
        R (FileSystem.write path text s).2 (FileSystem.write path text t).2
  store :
    ∀ {s t}, R s t → ∀ text text', v.said text = v.said text' →
      (FileSystem.write v.path text s).1 = (FileSystem.write v.path text' t).1 ∧
        R (FileSystem.write v.path text s).2 (FileSystem.write v.path text' t).2
  remove :
    ∀ {s t}, R s t → ∀ path,
      (FileSystem.remove path s).1 = (FileSystem.remove path t).1 ∧
        R (FileSystem.remove path s).2 (FileSystem.remove path t).2
  setMode :
    ∀ {s t}, R s t → ∀ path mode,
      (FileSystem.setMode path mode s).1 = (FileSystem.setMode path mode t).1 ∧
        R (FileSystem.setMode path mode s).2 (FileSystem.setMode path mode t).2
  elapse : ∀ {s t}, R s t → R (FileSystem.elapse s) (FileSystem.elapse t)

namespace Memory

/-- Whether two memories differ at most in the text of the key store, where they say the same. -/
structure Alike (v : Vault) (m₁ m₂ : Memory) : Prop where
  store : (m₁.text v.path).map v.said = (m₂.text v.path).map v.said
  others : ∀ path, path ≠ Path.key v.path → m₁.text path = m₂.text path
  rest : { m₁ with text := m₂.text } = m₂

namespace Alike

variable {v : Vault} {m₁ m₂ : Memory}

/-- A memory that is alike is the same with other texts. -/
theorem exists_text (h : Alike v m₁ m₂) :
    ∃ text, m₂ = { m₁ with text := text } :=
  ⟨m₂.text, h.rest.symm⟩

theorem said
    (h : Alike v m₁ m₂)
    (path : Path.Key) :
    (m₁.text path).map v.said = (m₂.text path).map v.said := by
  by_cases hpath : path = Path.key v.path
  · rw [hpath, h.store]
  · rw [h.others path hpath]

theorem isSome_text
    (h : Alike v m₁ m₂)
    (path : Path.Key) :
    (m₁.text path).isSome = (m₂.text path).isSome := by
  rw [← Option.isSome_map (f := v.said), h.said path, Option.isSome_map]

/-- Putting texts, or nothing, in the same place in both, whatever becomes of the rest. -/
theorem replaced
    {m : Memory}
    {text : Path.Key → Option String}
    {path : Path.Key}
    {value value' : Option String}
    (h : Alike v m { m with text := text })
    (hsaid : value.map v.said = value'.map v.said)
    (hvalue : path ≠ Path.key v.path → value = value')
    (after : Memory) :
    Alike v { after with text := replace m.text path value } { after with text := replace text path value' } := by
  have hstore : (replace m.text path value v.path).map v.said =
      (replace text path value' v.path).map v.said := by
    by_cases hpath : Path.key v.path = path
    · rw [← hpath, replace_self, replace_self, hsaid]
    · rw [replace_of_ne m.text value hpath, replace_of_ne text value' hpath]
      exact h.store
  refine ⟨hstore, fun other hother => ?_, rfl⟩
  change replace m.text path value other = replace text path value' other
  by_cases hpath : other = path
  · subst hpath
    rw [replace_self, replace_self, hvalue hother]
  · rw [replace_of_ne m.text value hpath, replace_of_ne text value' hpath]
    exact h.others other hother

/-- Writing texts that may differ under the path ends in the same way in both. -/
theorem write
    {path text text' : String}
    (h : Alike v m₁ m₂)
    (hsaid : v.said text = v.said text')
    (htext : Path.key path ≠ Path.key v.path → text = text') :
    (m₁.write path text).1 = (m₂.write path text').1 ∧
      Alike v (m₁.write path text).2 (m₂.write path text').2 := by
  obtain ⟨texts, rfl⟩ := h.exists_text
  have hfails : ({ m₁ with text := texts } : Memory).fails .write path = m₁.fails .write path := rfl
  unfold Memory.write
  rw [hfails]
  split
  · exact ⟨rfl, h⟩
  · have hvalue : (some text).map v.said = (some text').map v.said := congrArg some hsaid
    exact ⟨rfl, h.replaced hvalue (fun hpath => congrArg some (htext hpath))
      { m₁ with writes := m₁.writes + 1 }⟩

theorem remove
    (h : Alike v m₁ m₂)
    (path : String) :
    (m₁.remove path).1 = (m₂.remove path).1 ∧ Alike v (m₁.remove path).2 (m₂.remove path).2 := by
  obtain ⟨texts, rfl⟩ := h.exists_text
  have hfails : ({ m₁ with text := texts } : Memory).fails .remove path = m₁.fails .remove path := rfl
  unfold Memory.remove
  rw [hfails]
  split
  · exact ⟨rfl, h⟩
  · exact ⟨rfl, h.replaced rfl (fun _ => rfl) { m₁ with mode := Memory.replace m₁.mode path none }⟩

theorem setMode
    (h : Alike v m₁ m₂)
    (path : String)
    (mode : Nat) :
    (m₁.setMode path mode).1 = (m₂.setMode path mode).1 ∧
      Alike v (m₁.setMode path mode).2 (m₂.setMode path mode).2 := by
  have hmissing : (m₁.text path).isNone = (m₂.text path).isNone := by
    rw [← Option.not_isSome, ← Option.not_isSome, h.isSome_text]
  obtain ⟨texts, rfl⟩ := h.exists_text
  have hfails : ({ m₁ with text := texts } : Memory).fails .setMode path = m₁.fails .setMode path := rfl
  unfold Memory.setMode
  rw [hfails, hmissing]
  split
  · exact ⟨rfl, h⟩
  · split
    · exact ⟨rfl, h⟩
    · exact ⟨rfl, h.store, h.others, rfl⟩

end Alike

/-- No call on files in memory tells alike memories apart. -/
theorem conceals_alike (v : Vault) :
    FileSystem.Conceals v (Alike v) where
  present h path := h.isSome_text path
  read {m₁ m₂} h path := by
    have hsaid := h.said path
    obtain ⟨texts, rfl⟩ := h.exists_text
    change (m₁.read path).map v.said = (({ m₁ with text := texts } : Memory).read path).map v.said
    have hfails : ({ m₁ with text := texts } : Memory).fails .read path = m₁.fails .read path := rfl
    unfold read
    rw [hfails]
    split
    · rfl
    · rcases eq_none_or_eq_some_of_map_eq hsaid with ⟨hnone, hnone'⟩ | ⟨text, text', htext, htext', hsame⟩
      · rw [hnone, hnone']
      · rw [htext, htext']
        exact congrArg Except.ok hsame
  write h path text := h.write rfl fun _ => rfl
  store h text text' hsaid := h.write hsaid fun hpath => absurd rfl hpath
  remove h path := h.remove path
  setMode h path mode := h.setMode path mode
  elapse {m₁ m₂} h := by
    obtain ⟨texts, rfl⟩ := h.exists_text
    exact ⟨h.store, h.others, rfl⟩

end Memory

namespace Disk

/-- Whether two trees differ at most in the text of the key store, where they say the same. -/
def Alike (v : Vault) : Disk → Disk → Prop :=
  Like (v.Differing [placeOf v.path])

variable {v : Vault} {d d' : Disk}

theorem Alike.refl
    (v : Vault)
    (d : Disk) :
    Alike v d d :=
  Like.refl (Vault.Differing.refl v _) d

/-- A file at the place of the temporary one, when another has been written, was there before. -/
theorem at?_of_replace
    {path text : String}
    {result : Except FileFault Unit}
    {content : ByteArray}
    {mode : Nat}
    {e : Disk}
    (hother : placeOf (Path.temporary path) ≠ placeOf path)
    (hwrite : replace noTrouble path text d = (result, e))
    (hfile : e.at? (placeOf (Path.temporary path)) = some (.file content mode)) :
    d.at? (placeOf (Path.temporary path)) = some (.file content mode) := by
  have hseen : e.file? (Path.temporary path) = some ⟨content, some mode⟩ :=
    file?_eq_some_iff.2 ⟨mode, hfile, rfl⟩
  rcases keepsFile_or_lost_of_replace hother hwrite with hkept | hlost
  · obtain ⟨mode', hnode, hmode⟩ := file?_eq_some_iff.1 (hkept.file.symm.trans hseen)
    cases hmode
    exact hnode
  · rw [hseen] at hlost
    cases hlost

/-- At the place of the temporary file nothing that differs is left. -/
theorem Alike.of_wider
    {text text' : String}
    {result result' : Except FileFault Unit}
    {e e' : Disk}
    (h : Alike v d d')
    (hwrite : replace noTrouble v.path text d = (result, e))
    (hwrite' : replace noTrouble v.path text' d' = (result', e'))
    (hwider : Like (v.Differing [placeOf v.path, placeOf (Path.temporary v.path)]) e e') :
    Alike v e e' := by
  refine hwider.imp fun place content content' mode hfile hfile' hcontent => ?_
  by_cases hkeys : place = placeOf v.path
  · exact .inr ⟨List.mem_singleton.2 hkeys, hcontent.said⟩
  · left
    by_cases htemporary : place = placeOf (Path.temporary v.path)
    · rw [htemporary] at hkeys hfile hfile' hcontent
      have hbefore := Like.content h (at?_of_replace hkeys hwrite hfile)
        (at?_of_replace hkeys hwrite' hfile')
      exact hbefore.eq (by simp [hkeys])
    · exact hcontent.eq (by simp [hkeys, htemporary])

/-- Writing texts that say the same to the key store ends in the same way in both. -/
theorem Alike.store
    {text text' : String}
    (h : Alike v d d')
    (hsaid : v.said text = v.said text') :
    (replace noTrouble v.path text d).1 = (replace noTrouble v.path text' d').1 ∧
      Alike v (replace noTrouble v.path text d).2 (replace noTrouble v.path text' d').2 := by
  have hwide : Like (v.Differing [placeOf v.path, placeOf (Path.temporary v.path)]) d d' :=
    h.imp fun _ _ _ _ _ _ hcontent => hcontent.mono (by simp)
  have htexts : ∀ place ∈ [placeOf v.path, placeOf (Path.temporary v.path)],
      v.Differing [placeOf v.path, placeOf (Path.temporary v.path)] place text.toUTF8 text'.toUTF8 :=
    fun _ hplace => Vault.differing_of_said hplace hsaid
  obtain ⟨hresult, hafter⟩ := Like.replace (Vault.Differing.refl v _) hwide
    (htexts _ (List.mem_cons_of_mem _ List.mem_cons_self)) (htexts _ List.mem_cons_self)
  cases hwrite : replace noTrouble v.path text d with
  | mk result e =>
      cases hwrite' : replace noTrouble v.path text' d' with
      | mk result' e' =>
          rw [hwrite, hwrite'] at hresult hafter
          exact ⟨hresult, h.of_wider hwrite hwrite' hafter⟩

/-- No call on files on disk tells alike trees apart. -/
theorem conceals_alike (v : Vault) :
    FileSystem.Conceals v (Alike v) where
  present h path := h.present_eq path
  read {d d'} h path := by
    have hbytes := h.readBytes path
    simp only [FileSystem.read, readText]
    generalize d.readBytes path = result, d'.readBytes path = result' at hbytes
    cases hbytes with
    | error e => rfl
    | ok hcontent =>
        rcases eq_none_or_eq_some_of_map_eq hcontent.said with
          ⟨hnone, hnone'⟩ | ⟨text, text', htext, htext', hsaid⟩
        · simp only [hnone, hnone']
        · simp only [htext, htext']
          exact congrArg Except.ok hsaid
  write h path text :=
    Like.replace (Vault.Differing.refl v _) h (.refl v _ _ _) (.refl v _ _ _)
  store h text text' hsaid := h.store hsaid
  remove h path := Like.removeFile h path
  setMode h path mode := Like.changeMode h path mode
  elapse h := h

end Disk

namespace Vault

variable {σ : Type} [FileSystem σ] {v : Vault} {R : σ → σ → Prop} {s t : σ}

/-- Related states hold what is equal when veiled. -/
theorem map_veiled_contents
    (hR : FileSystem.Conceals v R)
    (h : R s t) :
    (v.contents s).map Collection.veiled = (v.contents t).map Collection.veiled := by
  unfold contents
  rw [hR.present h]
  split
  · rcases eq_error_or_eq_ok_of_map_eq (hR.read h v.path) with
      ⟨fault, hs, ht⟩ | ⟨text, text', hs, ht, hsaid⟩
    · rw [hs, ht]
    · rw [hs, ht]
      exact (Prod.mk.inj hsaid).1
  · rfl

/-- Saving collections that differ in secrets only ends in the same way in related states. -/
theorem save_alike
    {c d : Collection}
    (hR : FileSystem.Conceals v R)
    (h : R s t)
    (hveiled : c.veiled = d.veiled) :
    (v.save c s).1 = (v.save d t).1 ∧ R (v.save c s).2 (v.save d t).2 := by
  have hsome : (toText? c).isSome = (toText? d).isSome := by
    rw [← isSome_toText?_veiled c, hveiled, isSome_toText?_veiled]
  cases hsaved : toText? c with
  | none =>
      rw [hsaved] at hsome
      have hunsaved : toText? d = none := by simpa using hsome
      rw [save_of_toText?_eq_none v s hsaved, save_of_toText?_eq_none v t hunsaved]
      exact ⟨rfl, h⟩
  | some text =>
      rw [hsaved] at hsome
      obtain ⟨text', hsaved'⟩ := Option.isSome_iff_exists.1 hsome.symm
      obtain ⟨hwritten, hafter⟩ := hR.store h text text' (said_eq_of_veiled hveiled hsaved hsaved')
      simp only [save, hsaved, hsaved', writePrivate]
      cases hs : FileSystem.write v.path text s with
      | mk result s₁ =>
          cases ht : FileSystem.write v.path text' t with
          | mk result' t₁ =>
              rw [hs, ht] at hwritten hafter
              cases hwritten
              cases result with
              | error fault => exact ⟨rfl, hafter⟩
              | ok u =>
                  obtain ⟨hset, hlast⟩ := hR.setMode hafter v.path privateMode
                  simp only
                  cases hs' : FileSystem.setMode v.path privateMode s₁ with
                  | mk result s₂ =>
                      cases ht' : FileSystem.setMode v.path privateMode t₁ with
                      | mk result' t₂ =>
                          rw [hs', ht'] at hset hlast
                          cases hset
                          cases result with
                          | error fault => exact ⟨rfl, hlast⟩
                          | ok u => exact ⟨rfl, hlast⟩

end Vault

namespace Marker

variable {σ : Type} [FileSystem σ] {v : Vault} {R : σ → σ → Prop} {s t : σ}

/-- In related states the marker names the same key. -/
theorem get?_alike
    (hR : FileSystem.Conceals v R)
    (h : R s t)
    (m : Marker) :
    m.get? s = m.get? t := by
  unfold get?
  rw [hR.present h]
  split
  · rcases eq_error_or_eq_ok_of_map_eq (hR.read h m.path) with
      ⟨fault, hs, ht⟩ | ⟨text, text', hs, ht, hsaid⟩
    · rw [hs, ht]
    · rw [hs, ht]
      exact (Prod.mk.inj hsaid).2
  · rfl

theorem clear_alike
    (hR : FileSystem.Conceals v R)
    (h : R s t)
    (m : Marker) :
    R (m.clear s).2 (m.clear t).2 := by
  unfold clear
  rw [hR.present h]
  split
  · exact (hR.remove h m.path).2
  · exact h

end Marker
end Keyring
