import Keyring.Proofs.Command.Reports
import Keyring.Proofs.Key.Description
import Keyring.Proofs.Resolution

/-!
# The keys and the default are shown alike

Listing the keys and showing the default are two views of one collection.  An entry of the list says that
its key is the default exactly if the collection designates it; because names differ and the default is
stored there is one such entry when a default is set, and it is what is shown as the default:
`Context.list_current_agree`.

Creation times are shown in local time.  Where that leaves the years of a date, which it can do within a day
of the end of the last year that is stored, nothing is shown, and the program crashes:
`Context.crash_worldOfLate`.
-/

namespace Keyring

/-- Whether the entry of a key says that the key is the default. -/
def Json.saysDefault (entry : Json) : Bool :=
  match entry.member? "isDefault" with
  | some (.bool isDefault) => isDefault
  | _ => false

/-- Whether a text shows a key: its name, the mask of its secret, its base URL, its note and its creation time
in local time. -/
def Profile.Summary (offset : Offset) (p : Profile) (text : String) : Prop :=
  ∃ createdAt, p.createdAt.displayed? offset = some createdAt ∧
    text = p.name.value ++ "  " ++ p.masked ++ "  base_url=" ++ p.baseUrlText.getD "-" ++
      " note=" ++ p.note.getD "-" ++ " created=" ++ createdAt

namespace Collection

/-- The entry of a key among the data of a list. -/
structure Entry (c : Collection) (p : Profile) (entry : Json) : Prop where
  description : p.description? (c.isDefault p.name) = some entry
  name : entry.member? "name" = some (.string p.name.value)
  flag : entry.saysDefault = true ↔ c.defaultName = some p.name

/-- The line of a key in the text of a list: what shows the key, behind a star if it is the default and a
blank if not. -/
structure Line (c : Collection) (offset : Offset) (p : Profile) (line : String) : Prop where
  summary : ∃ marker summary,
    p.Summary offset summary ∧ line = marker ++ " " ++ summary ∧ (marker = "*" ∨ marker = " ")
  star : line.toList.head? = some '*' ↔ c.defaultName = some p.name

/-- Whether a text lists the keys in order and closes with their number and the default. -/
def Listing (offset : Offset) (c : Collection) (text : String) : Prop :=
  ∃ lines, List.Forall₂ (c.Line offset) c.keys lines ∧
    text = String.intercalate "\n" (lines ++ ["", toString lines.length ++ " key(s), " ++
      c.defaultName.elim "no default set" fun name => "default: " ++ name.value])

section Entries

variable {c : Collection} {offset : Offset} {p : Profile} {entry data : Json} {entries : List Json}
variable {text line : String}

theorem isDefault_iff {name : KeyName} :
    c.isDefault name = true ↔ c.defaultName = some name := by
  simp [isDefault]

theorem entry_of_description?
    (h : p.description? (c.isDefault p.name) = some entry) :
    c.Entry p entry := by
  obtain ⟨hname, hflag⟩ := Profile.members_description? h
  refine ⟨h, hname, ?_⟩
  rw [Json.saysDefault, hflag]
  exact isDefault_iff

theorem summary_of_line?
    (h : p.line? offset = some line) :
    p.Summary offset line := by
  rw [Profile.line?, Option.map_eq_some_iff] at h
  obtain ⟨createdAt, hcreatedAt, rfl⟩ := h
  exact ⟨createdAt, hcreatedAt, rfl⟩

theorem line_of_markedLine?
    (h : c.markedLine? offset p = some line) :
    c.Line offset p line := by
  rw [markedLine?, Option.map_eq_some_iff] at h
  obtain ⟨summary, hline, rfl⟩ := h
  have hsummary := summary_of_line? hline
  cases hdefault : c.isDefault p.name with
  | true => exact ⟨⟨"*", summary, hsummary, rfl, .inl rfl⟩, by simp [← isDefault_iff, hdefault]⟩
  | false => exact ⟨⟨" ", summary, hsummary, rfl, .inr rfl⟩, by simp [← isDefault_iff, hdefault]⟩

/-- The data of a list hold the keys in order, the default and the number of keys. -/
theorem eq_of_description?
    (h : c.description? = some data) :
    ∃ entries, List.Forall₂ c.Entry c.keys entries ∧
      data = .object [("keys", .array entries),
        ("default", .text? (c.defaultName.map KeyName.value)), ("count", .nat entries.length)] := by
  rw [description?, Option.map_eq_some_iff] at h
  obtain ⟨entries, hentries, rfl⟩ := h
  have hdescribed := forall₂_of_mapM hentries
  refine ⟨entries, hdescribed.imp fun _ _ => entry_of_description?, ?_⟩
  rw [← hdescribed.length_eq, size]

/-- The text of a list. -/
theorem listing_of_listing?
    (h : c.listing? offset = some text)
    (hkeys : c.keys ≠ []) :
    c.Listing offset text := by
  rw [listing?, isEmpty, if_neg (by simpa using hkeys), Option.map_eq_some_iff] at h
  obtain ⟨lines, hlines, rfl⟩ := h
  have hmarked := forall₂_of_mapM hlines
  refine ⟨lines, hmarked.imp fun _ _ => line_of_markedLine?, ?_⟩
  rw [← hmarked.length_eq, countLine, size]
  cases c.defaultName with
  | none => simp [String.append_assoc]
  | some name =>
      have hfooter : " key(s), default: " ++ name.value = " key(s), " ++ ("default: " ++ name.value) := by
        rw [← String.append_assoc]
        rfl
      simp [String.append_assoc, hfooter]

/-- Names differ, so the default is the only key that is designated. -/
theorem filter_isDefault (c : Collection) :
    (c.keys.filter fun p => c.isDefault p.name) = c.default?.toList := by
  have hnodup : c.keys.Nodup := List.Nodup.of_map Profile.name c.names_nodup
  cases hdefault : c.default? with
  | none =>
      rw [default?_eq_none_iff] at hdefault
      simp [isDefault, hdefault]
  | some key =>
      obtain ⟨hmem, hname⟩ := default?_eq_some_iff.1 hdefault
      refine List.perm_singleton.1 ((List.perm_ext_iff_of_nodup (hnodup.filter _)
        (List.nodup_singleton key)).2 fun p => ?_)
      rw [List.mem_filter, List.mem_singleton, isDefault_iff]
      constructor
      · rintro ⟨hp, hdesignated⟩
        exact Option.some.inj ((default?_eq_some_iff.2 ⟨hp, hdesignated⟩).symm.trans hdefault)
      · rintro rfl
        exact ⟨hmem, hname⟩

/-- The entries that say so are those of the default. -/
theorem filter_saysDefault (h : List.Forall₂ c.Entry c.keys entries) :
    List.Forall₂ c.Entry c.default?.toList (entries.filter Json.saysDefault) := by
  rw [← filter_isDefault]
  exact List.rel_filter (fun _ _ hentry => isDefault_iff.trans hentry.flag.symm) h

end Entries

end Collection

namespace Context

variable {c : Context} {w : World} {keys : Collection} {entries : List Json} {standing : Option Json}

/-- Whether listing the keys shows given entries, the default and their number, and a text that lists the
same, unless a creation time cannot be shown in local time. -/
structure Lists (c : Context) (keys : Collection) (entries : List Json) (w : World) : Prop where
  shown : keys.IsDisplayable w.machine.offset →
    ∃ text,
      c.execute .list w =
        (.ok (.shown (.object [("keys", .array entries),
          ("default", .text? (keys.defaultName.map KeyName.value)),
          ("count", .nat entries.length)]) text), w) ∧
      (keys.keys = [] → text = "No API keys stored. Run 'keyswitch add <name>' to add one.") ∧
      (keys.keys ≠ [] → keys.Listing w.machine.offset text)
  crashed : ¬ keys.IsDisplayable w.machine.offset → c.execute .list w = (.error .crashed, w)

/-- Whether showing the default shows a given entry, or that there is none, unless the creation time of the
default cannot be shown in local time. -/
structure ShowsDefault (c : Context) (keys : Collection) (standing : Option Json) (w : World) : Prop where
  shown : (∀ key ∈ keys.default?, key.createdAt.isDisplayable w.machine.offset = true) →
    ∃ text,
      c.execute .current w = (.ok (.shown (.object [("default", standing.getD .null)]) text), w) ∧
      ∀ key ∈ keys.default?, ∃ summary,
        key.Summary w.machine.offset summary ∧ text = "Current default: " ++ summary
  crashed : (∃ key ∈ keys.default?, ¬ key.createdAt.isDisplayable w.machine.offset = true) →
    c.execute .current w = (.error .crashed, w)

theorem lists_of_load
    (hload : c.vault.load w = (.ok keys, w))
    (hrange : keys.InStoredRange) :
    ∃ entries, List.Forall₂ keys.Entry keys.keys entries ∧ c.Lists keys entries w := by
  obtain ⟨data, hdata⟩ := Collection.exists_description? hrange
  obtain ⟨entries, hentries, rfl⟩ := Collection.eq_of_description? hdata
  refine ⟨entries, hentries, fun hshown => ?_, fun hhidden => ?_⟩
  · obtain ⟨text, htext⟩ := (Collection.exists_listing?_iff w.machine.offset).2 hshown
    refine ⟨text, ?_, fun hkeys => ?_, Collection.listing_of_listing? htext⟩
    · simp [execute, list, hload, hdata, htext, Action.orCrash]
    · rw [Collection.listing?, Collection.isEmpty, hkeys] at htext
      exact (Option.some.inj htext).symm
  · have htext := (Collection.listing?_eq_none_iff w.machine.offset).2 hhidden
    simp [execute, list, hload, hdata, htext, Action.orCrash]

theorem showsDefault_of_none
    (hload : c.vault.load w = (.ok keys, w))
    (hdefault : keys.default? = none) :
    c.ShowsDefault keys none w where
  shown _ := ⟨"No default key set. Run 'keyswitch use <name>' to choose one.", by
    simp [execute, current, Vault.getDefault, hload, hdefault], by simp [hdefault]⟩
  crashed := by simp [hdefault]

theorem showsDefault_of_some
    {key : Profile}
    {entry : Json}
    (hload : c.vault.load w = (.ok keys, w))
    (hdefault : keys.default? = some key)
    (hentry : keys.Entry key entry) :
    c.ShowsDefault keys (some entry) w := by
  have hdata := hentry.description
  rw [Collection.isDefault_iff.2 (Collection.default?_eq_some_iff.1 hdefault).2] at hdata
  refine ⟨fun hshown => ?_, fun hhidden => ?_⟩
  · obtain ⟨line, hline⟩ := (Profile.exists_line?_iff w.machine.offset).2 (hshown key hdefault)
    refine ⟨"Current default: " ++ line, ?_, ?_⟩
    · simp [execute, current, Vault.getDefault, hload, hdefault, hdata, hline, Action.orCrash]
    · intro key' hkey'
      cases hdefault.symm.trans hkey'
      exact ⟨line, Collection.summary_of_line? hline, rfl⟩
  · obtain ⟨key', hkey', hcrash⟩ := hhidden
    cases hdefault.symm.trans hkey'
    have hline := (Profile.line?_eq_none_iff w.machine.offset).2 hcrash
    simp [execute, current, Vault.getDefault, hload, hdefault, hdata, hline, Action.orCrash]

/-- Listing the keys and showing the default agree on a collection that is stored or that is empty because
nothing is stored, and neither changes anything.  Each shows what it has to unless a creation time that is
part of it cannot be shown in local time, and then it crashes. -/
theorem list_current_agree
    (hload : c.vault.load w = (.ok keys, w))
    (hrange : keys.InStoredRange) :
    ∃ entries standing,
      c.Lists keys entries w ∧
      c.ShowsDefault keys standing w ∧
      List.Forall₂ keys.Entry keys.keys entries ∧
      entries.filter Json.saysDefault = standing.toList ∧
      (∀ entry ∈ standing, ∃ name, keys.defaultName = some name ∧
        entry.member? "name" = some (.string name.value)) ∧
      (standing = none ↔ keys.defaultName = none) := by
  obtain ⟨entries, hentries, hlists⟩ := lists_of_load hload hrange
  have hstanding := Collection.filter_saysDefault hentries
  cases hdefault : keys.default? with
  | none =>
      rw [hdefault, Option.toList_none, List.forall₂_nil_left_iff] at hstanding
      exact ⟨entries, none, hlists, showsDefault_of_none hload hdefault, hentries, hstanding, by simp,
        by simp [← Collection.default?_eq_none_iff, hdefault]⟩
  | some key =>
      rw [hdefault, Option.toList_some, List.forall₂_cons_left_iff] at hstanding
      obtain ⟨entry, rest, hentry, hrest, hfilter⟩ := hstanding
      obtain ⟨-, hname⟩ := Collection.default?_eq_some_iff.1 hdefault
      rw [List.forall₂_nil_left_iff.1 hrest] at hfilter
      exact ⟨entries, some entry, hlists, showsDefault_of_some hload hdefault hentry, hentries, hfilter,
        fun e he => ⟨key.name, hname, by cases he; exact hentry.name⟩, by simp [hname]⟩

/-- A world whose key store holds two keys, the second of which is the default. -/
def worldOfTwo : World :=
  .fresh (some (Memory.empty.place "keys.json" (some
    ("\x7b\"keys\":[\x7b\"name\":\"a\",\"key\":\"k\",\"createdAt\":\"2024-01-01T00:00:00Z\"\x7d," ++
      "\x7b\"name\":\"b\",\"key\":\"k\",\"note\":\"* b\",\"createdAt\":\"2024-01-01T00:00:00Z\"\x7d]," ++
      "\"default\":\"b\"\x7d")))) .bare []

example :
    (inSeventies.execute .list worldOfTwo).1.toOption.map Report.text =
      some ("  a  k  base_url=- note=- created=2024-01-01 00:00:00\n" ++
        "* b  k  base_url=- note=* b created=2024-01-01 00:00:00\n\n2 key(s), default: b") := by
  decide +kernel

theorem list_current_agree_worldOfTwo :
    ∃ keys entries text entry line,
      inSeventies.execute .list worldOfTwo =
        (.ok (.shown (.object [("keys", .array entries), ("default", .string "b"),
          ("count", .nat entries.length)]) text), worldOfTwo) ∧
      inSeventies.execute .current worldOfTwo =
        (.ok (.shown (.object [("default", entry)]) line), worldOfTwo) ∧
      entries.length = 2 ∧ entries.filter Json.saysDefault = [entry] ∧
      Collection.Listing .utc keys text := by
  have hfacts : (inSeventies.vault.contents worldOfTwo).toOption.any (fun keys =>
      decide keys.InStoredRange && decide (keys.IsDisplayable .utc) &&
        decide (keys.defaultName.map KeyName.value = some "b") && decide (keys.keys.length = 2)) = true := by
    decide +kernel
  obtain ⟨keys, hcontents, htest⟩ := Action.exists_of_any_toOption hfacts
  simp only [Bool.and_eq_true, decide_eq_true_eq] at htest
  obtain ⟨⟨⟨hrange, hdisplayable⟩, hname⟩, hlength⟩ := htest
  obtain ⟨entries, standing, hlists, hshows, hentries, hfilter, -, hnone⟩ :=
    list_current_agree (Vault.load_of_contents hcontents) hrange
  obtain ⟨text, hlist, -, htext⟩ := hlists.shown hdisplayable
  have hdefault : ∀ key ∈ keys.default?, key.createdAt.isDisplayable .utc = true := fun key hkey =>
    hdisplayable key (Collection.default?_eq_some_iff.1 hkey).1
  obtain ⟨line, hcurrent, -⟩ := hshows.shown hdefault
  rw [hname] at hlist
  rw [hentries.length_eq] at hlength
  cases standing with
  | none => simp [hnone.1 rfl] at hname
  | some entry =>
      refine ⟨keys, entries, text, entry, line, hlist, hcurrent, hlength, hfilter, htext ?_⟩
      intro hempty
      rw [hempty, List.forall₂_nil_left_iff] at hentries
      simp [hentries] at hlength

/-- A world nine hours ahead of universal time, whose key store holds a key from the last hours of the last year
that is stored, which is the default. -/
def worldOfLate : World :=
  .fresh (some (Vault.storeOfOne "9999-12-31T20:00:00Z" "a"))
    { Host.Machine.bare with offset := ⟨32400, by decide⟩ } []

/-- A creation time that is stored may have no text in local time: then neither the keys can be listed nor
the default shown. -/
theorem crash_worldOfLate :
    ∃ keys,
      inSeventies.vault.load worldOfLate = (.ok keys, worldOfLate) ∧ keys.InStoredRange ∧
      inSeventies.execute .list worldOfLate = (.error .crashed, worldOfLate) ∧
      inSeventies.execute .current worldOfLate = (.error .crashed, worldOfLate) := by
  have hfacts : (inSeventies.vault.contents worldOfLate).toOption.any (fun keys =>
      decide keys.InStoredRange && keys.default?.any (fun key =>
        !key.createdAt.isDisplayable worldOfLate.machine.offset)) = true := by
    decide +kernel
  obtain ⟨keys, hcontents, htest⟩ := Action.exists_of_any_toOption hfacts
  simp only [Bool.and_eq_true, decide_eq_true_eq, Option.any_eq_true, Bool.not_eq_true'] at htest
  obtain ⟨hrange, key, hdefault, hhidden⟩ := htest
  have hload := Vault.load_of_contents hcontents
  have hmem := (Collection.default?_eq_some_iff.1 hdefault).1
  obtain ⟨entries, -, hlists⟩ := lists_of_load hload hrange
  obtain ⟨entry, hentry⟩ := Profile.exists_description? (hrange key hmem) (keys.isDefault key.name)
  have hshows := showsDefault_of_some hload hdefault (Collection.entry_of_description? hentry)
  refine ⟨keys, hload, hrange, hlists.crashed fun hall => ?_,
    hshows.crashed ⟨key, hdefault, by simp [hhidden]⟩⟩
  rw [hall key hmem] at hhidden
  cases hhidden

end Context
end Keyring
