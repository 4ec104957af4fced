import Keyring.Config
import Keyring.Proofs.File.Parents
import Keyring.Store.Marker
import Keyring.Store.Vault

/-!
# The key store and the marker beside each other

Both are files of the same tree, at paths that the configuration chooses freely.  They do not disturb
each other as long as their paths lead to different places, neither leads to the temporary file of the
other, and neither leads through a directory that is made for the other.  Nothing checks this: with
paths that meet, a marker takes the place of all keys.
-/

namespace Keyring

namespace Disk

/-- Whether a file can be written without touching what another path leads to. -/
structure Undisturbed (path other : String) : Prop where
  apart : placeOf path ≠ placeOf other
  beside : placeOf path ≠ placeOf (Path.temporary other)
  passable : ∀ above ∈ passedBy path, above ∈ madeFor other → above <+: placeOf path

/-- A path without double dots leads through no directory that it leaves again. -/
theorem undisturbed_of_noDots
    {path other : String}
    (hdots : ".." ∉ Path.components path)
    (hapart : placeOf path ≠ placeOf other)
    (hbeside : placeOf path ≠ placeOf (Path.temporary other)) :
    Undisturbed path other where
  apart := hapart
  beside := hbeside
  passable _ habove _ := prefix_follow_of_mem_passed hdots habove

theorem Undisturbed.sight_of_changed
    {path other : String}
    {d d' : Disk}
    (h : Undisturbed path other)
    (htree : d.IsTree)
    (hchanged :
      Changed [placeOf other, placeOf (Path.temporary other)] (madeFor other) d d') :
    d'.sight path = d.sight path ∨
      (placeOf path ∈ madeFor other ∧ d.sight path = none ∧ d'.sight path = some none) := by
  refine Disk.sight_of_changed htree hchanged ?_ h.passable
  simp [h.apart, h.beside]

end Disk

open Disk

section Reading

variable {d d' : Disk}

theorem Vault.contents_of_sight
    {v : Vault}
    (h : d'.sight v.path = d.sight v.path) :
    v.contents d' = v.contents d := by
  have hpresent : FileSystem.present v.path d' = FileSystem.present v.path d := by
    simp only [FileSystem.present, present_eq_isSome_sight, h]
  rw [contents, contents, hpresent]
  cases hsight : d.sight v.path with
  | none =>
      have habsent : FileSystem.present v.path d = false := by
        simp only [FileSystem.present, present_eq_isSome_sight, hsight, Option.isSome_none]
      simp only [habsent, Bool.false_eq_true, if_false]
  | some seen =>
      simp only [FileSystem.read, readText, readBytes_of_sight hsight,
        readBytes_of_sight (h.trans hsight)]

theorem Marker.get?_eq
    (m : Marker)
    (d : Disk) :
    m.get? d =
      (d.sight m.path).join.bind fun bytes => (Text.decode? bytes).bind ofText? := by
  rw [get?]
  cases hsight : d.sight m.path with
  | none => simp [FileSystem.present, present_eq_isSome_sight, hsight]
  | some seen =>
      have hpresent : FileSystem.present m.path d = true := by
        simp only [FileSystem.present, present_eq_isSome_sight, hsight, Option.isSome_some]
      rw [if_pos hpresent]
      simp only [FileSystem.read, readText, readBytes_of_sight hsight]
      cases seen with
      | none => rfl
      | some bytes =>
          simp only [Option.elim_some, Option.join_some, Option.bind_some]
          cases Text.decode? bytes with
          | none => rfl
          | some text => rfl

end Reading

section Writing

variable {d : Disk}

theorem Marker.changed_set
    (m : Marker)
    (name : KeyName)
    (d : Disk) :
    Changed [placeOf m.path, placeOf (Path.temporary m.path)] (madeFor m.path) d
      (m.set name d).2 :=
  changed_replace noTrouble m.path name.value d

theorem Marker.changed_clear
    (m : Marker)
    (d : Disk) :
    Changed [placeOf m.path] [] d (m.clear d).2 := by
  rw [clear]
  split
  · exact changed_removeFile m.path d
  · exact Changed.refl _ _ d

theorem Vault.changed_save
    (v : Vault)
    (c : Collection)
    (d : Disk) :
    Changed [placeOf v.path, placeOf (Path.temporary v.path)] (madeFor v.path) d
      (v.save c d).2 := by
  rw [save]
  cases toText? c with
  | none => exact Changed.refl _ _ d
  | some text =>
      have hwrite : Changed [placeOf v.path, placeOf (Path.temporary v.path)] (madeFor v.path) d
          (FileSystem.write v.path text d).2 :=
        changed_replace noTrouble v.path text d
      have hprivate : Changed [placeOf v.path, placeOf (Path.temporary v.path)] (madeFor v.path) d
          (v.writePrivate text d).2 := by
        unfold writePrivate
        split
        · next h => rwa [h] at hwrite
        · next d₁ h =>
            rw [h] at hwrite
            exact hwrite.trans (changed_changeMode v.path privateMode d₁)
      simp only
      split
      · next h => rwa [h] at hprivate
      · next h => rwa [h] at hprivate

/-- The key store holds what it held when the marker has been written. -/
theorem Vault.contents_of_setMarker
    {v : Vault}
    {m : Marker}
    (htree : d.IsTree)
    (hundisturbed : Undisturbed v.path m.path)
    (houtside : placeOf v.path ∉ madeFor m.path)
    (name : KeyName) :
    v.contents (m.set name d).2 = v.contents d := by
  rcases hundisturbed.sight_of_changed htree (m.changed_set name d) with hsight | ⟨hmade, -⟩
  · exact contents_of_sight hsight
  · exact absurd hmade houtside

/-- The key store holds what it held when the marker has been deleted. -/
theorem Vault.contents_of_clearMarker
    {v : Vault}
    {m : Marker}
    (hapart : placeOf v.path ≠ placeOf m.path) :
    v.contents (m.clear d).2 = v.contents d :=
  contents_of_sight (sight_of_changed_files (m.changed_clear d) (by simpa using hapart))

theorem Marker.get?_of_save
    {v : Vault}
    {m : Marker}
    (htree : d.IsTree)
    (hundisturbed : Undisturbed m.path v.path)
    (c : Collection) :
    m.get? (v.save c d).2 = m.get? d := by
  rw [get?_eq, get?_eq]
  rcases hundisturbed.sight_of_changed htree (v.changed_save c d) with hsight | ⟨-, hnone, hdirectory⟩
  · rw [hsight]
  · rw [hnone, hdirectory]
    rfl

end Writing

namespace Config

/-- Under every configuration and data directory, the key store and the marker are independent as far
as their paths do not meet: writing the marker leaves what the key store holds as it is, deleting it
does so as soon as the two are different places, and saving the key store leaves the marker as it
is. -/
theorem store_marker_independent
    (c : Config)
    (directory : String)
    {d : Disk}
    (htree : d.IsTree) :
    (Undisturbed (c.paths directory).keys (c.paths directory).lastUsed →
        placeOf (c.paths directory).keys ∉ madeFor (c.paths directory).lastUsed →
        ∀ name : KeyName,
          (Vault.mk (c.paths directory).keys).contents
              ((Marker.mk (c.paths directory).lastUsed).set name d).2 =
            (Vault.mk (c.paths directory).keys).contents d) ∧
      (placeOf (c.paths directory).keys ≠ placeOf (c.paths directory).lastUsed →
        (Vault.mk (c.paths directory).keys).contents
            ((Marker.mk (c.paths directory).lastUsed).clear d).2 =
          (Vault.mk (c.paths directory).keys).contents d) ∧
      (Undisturbed (c.paths directory).lastUsed (c.paths directory).keys →
        ∀ keys : Collection,
          (Marker.mk (c.paths directory).lastUsed).get?
              ((Vault.mk (c.paths directory).keys).save keys d).2 =
            (Marker.mk (c.paths directory).lastUsed).get? d) := by
  refine ⟨fun hundisturbed houtside name => ?_, fun hapart => ?_, fun hundisturbed keys => ?_⟩
  · exact Vault.contents_of_setMarker htree hundisturbed houtside name
  · exact Vault.contents_of_clearMarker hapart
  · exact Marker.get?_of_save htree hundisturbed keys

/-- A data directory that holds a key store with one key, under a path, and perhaps a marker. -/
def dataDirectory (store : Place) (marker : Option String) : Disk :=
  ⟨[(["d"], .directory directoryMode), (["d", "k"], .directory directoryMode),
    (["d"] ++ store, .file
      ("\x7b\"keys\":[\x7b\"name\":\"a\",\"key\":\"k\"," ++
        "\"createdAt\":\"2024-01-01T00:00:00Z\"\x7d]\x7d").toUTF8 privateMode)] ++
    (marker.map fun text => (["d", "last_used"], .file text.toUTF8 privateMode)).toList⟩

/-- The built-in settings with other paths of the key store and the marker. -/
def withFiles (keysFile cacheFile : String) : Config :=
  { standard with keysFile := some keysFile, cacheFile := some cacheFile }

theorem store_marker_independent_withFiles :
    (∀ name : KeyName,
        ((Vault.mk "/d/k/./keys.json").contents ((Marker.mk "/d/last_used").set name
            (dataDirectory ["k", "keys.json"] "a")).2).toOption.map Collection.names =
          some [⟨"a", by decide, by decide⟩]) ∧
      ((Vault.mk "/d/k/./keys.json").contents ((Marker.mk "/d/last_used").clear
          (dataDirectory ["k", "keys.json"] "a")).2).toOption.map Collection.names =
        some [⟨"a", by decide, by decide⟩] ∧
      (∀ keys : Collection,
        (Marker.mk "/d/last_used").get? ((Vault.mk "/d/k/./keys.json").save keys
            (dataDirectory ["k", "keys.json"] "a")).2 =
          some ⟨"a", by decide, by decide⟩) := by
  have htree : (dataDirectory ["k", "keys.json"] "a").IsTree := isTree_of_nodes (by decide +kernel)
  have hkeys : Undisturbed "/d/k/./keys.json" "/d/last_used" :=
    undisturbed_of_noDots (by decide +kernel) (by decide +kernel) (by decide +kernel)
  have hmarker : Undisturbed "/d/last_used" "/d/k/./keys.json" :=
    undisturbed_of_noDots (by decide +kernel) (by decide +kernel) (by decide +kernel)
  have hnames : ((Vault.mk "/d/k/./keys.json").contents
      (dataDirectory ["k", "keys.json"] "a")).toOption.map Collection.names =
        some [⟨"a", by decide, by decide⟩] := by
    decide +kernel
  obtain ⟨hset, hclear, hsave⟩ :=
    (withFiles "k/./keys.json" "last_used").store_marker_independent "/d" htree
  refine ⟨fun name => ?_, ?_, fun keys => ?_⟩
  · rw [← hnames]
    exact congrArg (fun r => r.toOption.map Collection.names) (hset hkeys (by decide +kernel) name)
  · rw [← hnames]
    exact congrArg (fun r => r.toOption.map Collection.names) (hclear hkeys.apart)
  · exact (hsave hmarker keys).trans (by decide +kernel)

/-- Whether writing a marker changes what the key store holds. -/
def Disturbed (c : Config) (directory : String) (d : Disk) : Prop :=
  (Vault.mk (c.paths directory).keys).contents
      ((Marker.mk (c.paths directory).lastUsed).set ⟨"other", by decide, by decide⟩ d).2 ≠
    (Vault.mk (c.paths directory).keys).contents d

/-- A marker takes the place of the keys at the same path, and clears it away if it is that of the
temporary file.  A directory that is made for the marker blocks the path of the key store, or opens
it. -/
theorem disturbed_onMeetingPaths :
    (withFiles "last_used" "last_used").Disturbed "/d" (dataDirectory ["last_used"] none) ∧
      (withFiles "last_used.tmp" "last_used").Disturbed "/d" (dataDirectory ["last_used.tmp"] none) ∧
      (withFiles "m" "m/last_used").Disturbed "/d" (dataDirectory ["keys.json"] none) ∧
      (withFiles "m/../keys.json" "m/last_used").Disturbed "/d" (dataDirectory ["keys.json"] none) := by
  refine ⟨fun hsame => ?same, fun hsame => ?beside, fun hsame => ?blocked, fun hsame => ?opened⟩
  case same => exact absurd (congrArg Except.toOption hsame) (by decide +kernel)
  case beside => exact absurd (congrArg Except.toOption hsame) (by decide +kernel)
  case blocked => exact absurd (congrArg Except.toOption hsame) (by decide +kernel)
  case opened => exact absurd (congrArg Except.toOption hsame) (by decide +kernel)

end Config
end Keyring
