import Mathlib.Data.List.Forall2
import Keyring.Proofs.Store.PartFaults

/-!
# Valid records and first faults

A record is turned into a collection field by field, and the first fault on the way is reported.  What a
valid record is and what its first fault is are stated here without the order of the checks:

* `Record.Valid` lists the conditions on the fields, of which two only show after trimming: names that
  differ as they are written may be the same, and the default has to be one of them;
* `Record.Describes` relates a record to the collection that it stands for;
* `Record.FirstFault` is one rule for each fault that can be reported, with what has to be in order before.

`Record.collection_valid_or_firstFault` says that the three describe `Record.collection` completely.
-/

namespace Keyring

namespace Record

/-- The names of the entries as they are compared. -/
def trimmedNames (r : Record) : List String :=
  r.keys.map fun k => Text.trimmed k.name

/-- Whether a record stands for a collection. -/
structure Valid (r : Record) : Prop where
  version : r.version ≤ currentVersion
  entries : ∀ k ∈ r.keys, k.Valid
  default : Text.isBlankText r.default = true ∨ ∃ n, KeyName.ofText r.default = .ok n
  distinct : r.trimmedNames.Nodup
  designated : Text.isBlankText r.default = false → Text.trimmed r.default ∈ r.trimmedNames

/-- Whether a collection is the one that a record stands for: its keys are those of the entries in their
order, and its default is the one that is named, which is none if the name is blank. -/
structure Describes (r : Record) (c : Collection) : Prop where
  entries : List.Forall₂ StoredKey.Describes r.keys c.keys
  default : c.defaultName.map KeyName.value = Text.normalized? r.default

/-- The fault of a record that is reported.  Each rule has what must be in order for its fault to come
first. -/
inductive FirstFault (r : Record) : Fault → Prop
  | version
      (hversion : currentVersion < r.version) :
      FirstFault r (.version r.version)
  | entry
      {before after : List StoredKey}
      {k : StoredKey}
      {fault : StoredKey.Fault}
      (hversion : r.version ≤ currentVersion)
      (hkeys : r.keys = before ++ k :: after)
      (hbefore : ∀ e ∈ before, e.Valid)
      (hfault : k.FirstFault fault) :
      FirstFault r (.entry before.length fault)
  | default
      {fault : NameFault}
      (hversion : r.version ≤ currentVersion)
      (hentries : ∀ e ∈ r.keys, e.Valid)
      (hset : Text.isBlankText r.default = false)
      (hfault : KeyName.ofText r.default = .error fault) :
      FirstFault r (.default fault)
  | repeated
      {before after : List String}
      {n : KeyName}
      (hversion : r.version ≤ currentVersion)
      (hentries : ∀ e ∈ r.keys, e.Valid)
      (hdefault : Text.isBlankText r.default = true ∨ ∃ d, KeyName.ofText r.default = .ok d)
      (hnames : r.trimmedNames = before ++ n.value :: after)
      (hbefore : before.Nodup)
      (hrepeated : n.value ∈ before) :
      FirstFault r (.parts (.repeated n))
  | dangling
      {n : KeyName}
      (hversion : r.version ≤ currentVersion)
      (hentries : ∀ e ∈ r.keys, e.Valid)
      (hdefault : KeyName.ofText r.default = .ok n)
      (hdistinct : r.trimmedNames.Nodup)
      (hdangling : n.value ∉ r.trimmedNames) :
      FirstFault r (.parts (.dangling n))

section Profiles

variable {index : Nat} {keys : List StoredKey} {profiles : List Profile}

theorem exists_profilesFrom_iff :
    (∃ profiles, profilesFrom index keys = .ok profiles) ↔ ∀ k ∈ keys, k.Valid := by
  induction keys generalizing index with
  | nil => simp [profilesFrom]
  | cons k rest ih =>
      rw [List.forall_mem_cons, ← StoredKey.exists_profile_iff, ← @ih (index + 1)]
      rw [profilesFrom]
      cases k.profile with
      | error fault => simp
      | ok p =>
          cases profilesFrom (index + 1) rest with
          | error fault => simp
          | ok ps => simp

/-- The fault of the first entry that has one is reported, under the number of that entry. -/
theorem profilesFrom_eq_error_iff
    {f : Fault} :
    profilesFrom index keys = .error f ↔
      ∃ before k after fault, keys = before ++ k :: after ∧ (∀ e ∈ before, e.Valid) ∧
        k.FirstFault fault ∧ f = .entry (index + before.length) fault := by
  induction keys generalizing index with
  | nil => simp [profilesFrom]
  | cons k rest ih =>
      cases hprofile : k.profile with
      | error fault =>
          have hinvalid : ¬ k.Valid := by
            rw [← StoredKey.exists_profile_iff, hprofile]
            simp
          simp only [profilesFrom, hprofile]
          constructor
          · intro h
            cases h
            exact ⟨[], k, rest, fault, rfl, by simp, StoredKey.profile_eq_error_iff.1 hprofile, rfl⟩
          · rintro ⟨before, e, after, fault', hkeys, hbefore, hfault, rfl⟩
            cases before with
            | nil =>
                obtain ⟨rfl, rfl⟩ := List.cons.inj hkeys
                have hsame := StoredKey.profile_eq_error_iff.2 hfault
                rw [hprofile] at hsame
                cases hsame
                rfl
            | cons b before =>
                obtain ⟨rfl, rfl⟩ := List.cons.inj hkeys
                exact absurd (hbefore k List.mem_cons_self) hinvalid
      | ok p =>
          have hvalid : k.Valid := StoredKey.exists_profile_iff.1 ⟨p, hprofile⟩
          have hstep : profilesFrom index (k :: rest) = .error f ↔
              profilesFrom (index + 1) rest = .error f := by
            simp only [profilesFrom, hprofile]
            cases profilesFrom (index + 1) rest with
            | error g => rfl
            | ok ps => simp
          rw [hstep, ih]
          constructor
          · rintro ⟨before, e, after, fault, rfl, hbefore, hfault, rfl⟩
            refine ⟨k :: before, e, after, fault, rfl, ?_, hfault, ?_⟩
            · exact List.forall_mem_cons.2 ⟨hvalid, hbefore⟩
            · rw [List.length_cons, Nat.add_assoc, Nat.add_comm 1]
          · rintro ⟨before, e, after, fault, hkeys, hbefore, hfault, rfl⟩
            cases before with
            | nil =>
                obtain ⟨rfl, rfl⟩ := List.cons.inj hkeys
                have hfails := StoredKey.profile_eq_error_iff.2 hfault
                rw [hprofile] at hfails
                cases hfails
            | cons b before =>
                obtain ⟨rfl, rfl⟩ := List.cons.inj hkeys
                refine ⟨before, e, after, fault, rfl, ?_, hfault, ?_⟩
                · exact (List.forall_mem_cons.1 hbefore).2
                · rw [List.length_cons, Nat.add_assoc, Nat.add_comm 1]

theorem describes_of_profilesFrom
    (h : profilesFrom index keys = .ok profiles) :
    List.Forall₂ StoredKey.Describes keys profiles := by
  have hread : List.Forall₂ (· = ·) (keys.map StoredKey.profile) (profiles.map .ok) := by
    rw [List.forall₂_eq_eq_eq]
    exact profiles_of_profilesFrom h
  rw [List.forall₂_map_left_iff, List.forall₂_map_right_iff] at hread
  exact hread.imp fun _ _ hprofile => StoredKey.describes_of_profile hprofile

theorem values_of_describes
    (h : List.Forall₂ StoredKey.Describes keys profiles) :
    (profiles.map Profile.name).map KeyName.value = keys.map fun k => Text.trimmed k.name := by
  induction h with
  | nil => rfl
  | cons hfirst hrest ih => rw [List.map_cons, List.map_cons, List.map_cons, ih, hfirst.name]

end Profiles

section Default

variable {r : Record}

theorem defaultName_eq_ok_iff
    {d : Option KeyName} :
    r.defaultName = .ok d ↔
      (Text.isBlankText r.default = true ∧ d = none) ∨
        (Text.isBlankText r.default = false ∧
          ∃ n, KeyName.ofText r.default = .ok n ∧ d = some n) := by
  unfold defaultName
  cases Text.isBlankText r.default with
  | true => simp [eq_comm]
  | false =>
      cases KeyName.ofText r.default with
      | error fault => simp [Except.map]
      | ok n => simp [Except.map, eq_comm]

theorem defaultName_eq_error_iff
    {fault : NameFault} :
    r.defaultName = .error fault ↔
      Text.isBlankText r.default = false ∧ KeyName.ofText r.default = .error fault := by
  unfold defaultName
  cases Text.isBlankText r.default with
  | true => simp
  | false =>
      cases KeyName.ofText r.default with
      | error fault => simp [Except.map]
      | ok n => simp [Except.map]

theorem exists_defaultName_iff :
    (∃ d, r.defaultName = .ok d) ↔
      Text.isBlankText r.default = true ∨ ∃ n, KeyName.ofText r.default = .ok n := by
  simp only [defaultName_eq_ok_iff]
  constructor
  · rintro ⟨d, ⟨hblank, -⟩ | ⟨-, n, hn, -⟩⟩
    · exact .inl hblank
    · exact .inr ⟨n, hn⟩
  · intro h
    cases hblank : Text.isBlankText r.default with
    | true => exact ⟨none, .inl ⟨rfl, rfl⟩⟩
    | false =>
        rw [hblank] at h
        obtain ⟨n, hn⟩ := h.resolve_left Bool.false_ne_true
        exact ⟨some n, .inr ⟨rfl, n, hn, rfl⟩⟩

/-- The default is the name that is left after trimming, if one is left. -/
theorem value_of_defaultName
    {d : Option KeyName}
    (h : r.defaultName = .ok d) :
    d.map KeyName.value = Text.normalized? r.default := by
  symm
  obtain ⟨hblank, rfl⟩ | ⟨hset, n, hn, rfl⟩ := defaultName_eq_ok_iff.1 h
  · rw [Option.map_none, Option.eq_none_iff_forall_ne_some]
    intro kept hkept
    rw [(Text.normalized?_eq_some_iff.1 hkept).1] at hblank
    cases hblank
  · exact Text.normalized?_eq_some_iff.2 ⟨hset, (KeyName.ofText_eq_ok_iff.1 hn).symm⟩

end Default

section Collection

variable {r : Record}

theorem collection_eq_ok_iff
    {c : Collection} :
    r.collection = .ok c ↔
      r.version ≤ currentVersion ∧ profilesFrom 0 r.keys = .ok c.keys ∧
        r.defaultName = .ok c.defaultName := by
  unfold collection
  by_cases hversion : r.version > currentVersion
  · simp [hversion, Nat.not_le.2 hversion]
  · rw [if_neg hversion]
    cases profilesFrom 0 r.keys with
    | error fault => simp
    | ok profiles =>
        cases r.defaultName with
        | error fault => simp
        | ok d =>
            have hparts : (Collection.ofParts profiles d).mapError Fault.parts = .ok c ↔
                Collection.ofParts profiles d = .ok c := by
              cases Collection.ofParts profiles d with
              | error fault => simp [Except.mapError]
              | ok c' => simp [Except.mapError]
            simp only [hparts, Collection.ofParts_eq_ok_iff, Nat.not_lt.1 hversion, true_and,
              Except.ok.injEq]
            rw [eq_comm, eq_comm (a := d)]

/-- The five places at which a record can fail, in their order. -/
theorem collection_eq_error_iff
    {f : Fault} :
    r.collection = .error f ↔
      (currentVersion < r.version ∧ f = .version r.version) ∨
        r.version ≤ currentVersion ∧
          (profilesFrom 0 r.keys = .error f ∨
            ∃ profiles, profilesFrom 0 r.keys = .ok profiles ∧
              ((∃ fault, r.defaultName = .error fault ∧ f = .default fault) ∨
                ∃ d fault, r.defaultName = .ok d ∧ Collection.ofParts profiles d = .error fault ∧
                  f = .parts fault)) := by
  unfold collection
  by_cases hversion : r.version > currentVersion
  · simp [hversion, Nat.not_le.2 hversion, eq_comm]
  · rw [if_neg hversion]
    have hread : r.version ≤ currentVersion := Nat.not_lt.1 hversion
    simp only [hread, hversion, false_and, false_or, true_and]
    cases profilesFrom 0 r.keys with
    | error fault => simp
    | ok profiles =>
        cases r.defaultName with
        | error fault => simp [eq_comm]
        | ok d =>
            cases hparts : Collection.ofParts profiles d with
            | error fault => simp [Except.mapError, hparts, eq_comm]
            | ok c => simp [Except.mapError, hparts]

theorem trimmedNames_of_profilesFrom
    {profiles : List Profile}
    (h : profilesFrom 0 r.keys = .ok profiles) :
    r.trimmedNames = (profiles.map Profile.name).map KeyName.value :=
  (values_of_describes (describes_of_profilesFrom h)).symm

theorem valid_of_collection
    {c : Collection}
    (h : r.collection = .ok c) :
    r.Valid := by
  obtain ⟨hversion, hprofiles, hdefault⟩ := collection_eq_ok_iff.1 h
  have hnames := trimmedNames_of_profilesFrom hprofiles
  have hentries := exists_profilesFrom_iff.1 ⟨_, hprofiles⟩
  have hread := exists_defaultName_iff.1 ⟨_, hdefault⟩
  refine ⟨hversion, hentries, hread, ?_, ?_⟩
  · rw [hnames]
    exact c.names_nodup.map KeyName.value_injective
  · intro hset
    have hvalue := value_of_defaultName hdefault
    rw [Text.normalized?_eq_some_iff.2 ⟨hset, rfl⟩, Option.map_eq_some_iff] at hvalue
    obtain ⟨n, hn, hvalue⟩ := hvalue
    rw [hnames, ← hvalue]
    exact List.mem_map_of_mem (c.default_mem n hn)

theorem exists_collection_of_valid
    (h : r.Valid) :
    ∃ c, r.collection = .ok c := by
  obtain ⟨profiles, hprofiles⟩ := exists_profilesFrom_iff.2 h.entries
  obtain ⟨d, hdefault⟩ := exists_defaultName_iff.2 h.default
  have hnames := trimmedNames_of_profilesFrom hprofiles
  have hnodup : (profiles.map Profile.name).Nodup := by
    rw [← List.nodup_map_iff KeyName.value_injective, ← hnames]
    exact h.distinct
  have hmem : ∀ n ∈ d, n ∈ profiles.map Profile.name := by
    rintro n rfl
    obtain ⟨hset, hvalue⟩ := Text.normalized?_eq_some_iff.1 (value_of_defaultName hdefault).symm
    rw [← List.mem_map_of_injective KeyName.value_injective, ← hnames, hvalue]
    exact h.designated hset
  exact ⟨⟨profiles, d, hnodup, hmem⟩, collection_eq_ok_iff.2 ⟨h.version, hprofiles, hdefault⟩⟩

theorem describes_of_collection
    {c : Collection}
    (h : r.collection = .ok c) :
    r.Describes c := by
  obtain ⟨-, hprofiles, hdefault⟩ := collection_eq_ok_iff.1 h
  exact ⟨describes_of_profilesFrom hprofiles, value_of_defaultName hdefault⟩

/-- A name repeats among the keys exactly if its text does among the names of the entries. -/
theorem firstRepeat?_profiles_iff
    {profiles : List Profile}
    {n : KeyName}
    (h : profilesFrom 0 r.keys = .ok profiles) :
    Collection.firstRepeat? [] (profiles.map Profile.name) = some n ↔
      ∃ before after, r.trimmedNames = before ++ n.value :: after ∧
        before.Nodup ∧ n.value ∈ before := by
  rw [Collection.firstRepeat?_eq_some_iff, trimmedNames_of_profilesFrom h]
  constructor
  · rintro ⟨before, after, hnames, hnodup, -, hrepeated⟩
    refine ⟨before.map KeyName.value, after.map KeyName.value, ?_, ?_, ?_⟩
    · rw [hnames, List.map_append, List.map_cons]
    · exact hnodup.map KeyName.value_injective
    · exact List.mem_map_of_mem (hrepeated.resolve_left List.not_mem_nil)
  · rintro ⟨before, after, hnames, hnodup, hrepeated⟩
    obtain ⟨before, tail, htail, rfl, hrest⟩ := List.map_eq_append_iff.1 hnames
    obtain ⟨m, after, rfl, hm, rfl⟩ := List.map_eq_cons_iff.1 hrest
    obtain rfl := KeyName.value_injective hm
    rw [List.mem_map_of_injective KeyName.value_injective] at hrepeated
    exact ⟨before, after, htail, hnodup.of_map _, by simp, .inr hrepeated⟩

theorem collection_eq_error_iff_firstFault
    {f : Fault} :
    r.collection = .error f ↔ r.FirstFault f := by
  rw [collection_eq_error_iff]
  constructor
  · rintro (⟨hversion, rfl⟩ | ⟨hversion, hentry | ⟨profiles, hprofiles, hrest⟩⟩)
    · exact .version hversion
    · obtain ⟨before, k, after, fault, hkeys, hbefore, hfault, rfl⟩ :=
        profilesFrom_eq_error_iff.1 hentry
      rw [Nat.zero_add]
      exact .entry hversion hkeys hbefore hfault
    · have hentries := exists_profilesFrom_iff.1 ⟨profiles, hprofiles⟩
      obtain ⟨fault, hdefault, rfl⟩ | ⟨d, fault, hdefault, hparts, rfl⟩ := hrest
      · obtain ⟨hset, hfault⟩ := defaultName_eq_error_iff.1 hdefault
        exact .default hversion hentries hset hfault
      · have hread := exists_defaultName_iff.1 ⟨d, hdefault⟩
        obtain ⟨n, hrepeat, rfl⟩ | ⟨hnodup, n, rfl, hdangling, rfl⟩ :=
          Collection.ofParts_eq_error_iff.1 hparts
        · obtain ⟨before, after, hnames, hbefore, hrepeated⟩ :=
            (firstRepeat?_profiles_iff hprofiles).1 hrepeat
          exact .repeated hversion hentries hread hnames hbefore hrepeated
        · have hnames := trimmedNames_of_profilesFrom hprofiles
          refine .dangling hversion hentries ?_ ?_ ?_
          · obtain ⟨-, hnone⟩ | ⟨-, m, hm, hsome⟩ := defaultName_eq_ok_iff.1 hdefault
            · cases hnone
            · cases hsome
              exact hm
          · rw [hnames]
            exact hnodup.map KeyName.value_injective
          · rw [hnames, List.mem_map_of_injective KeyName.value_injective]
            exact hdangling
  · intro h
    cases h with
    | version hversion => exact .inl ⟨hversion, rfl⟩
    | entry hversion hkeys hbefore hfault =>
        refine .inr ⟨hversion, .inl (profilesFrom_eq_error_iff.2 ?_)⟩
        exact ⟨_, _, _, _, hkeys, hbefore, hfault, by rw [Nat.zero_add]⟩
    | default hversion hentries hset hfault =>
        obtain ⟨profiles, hprofiles⟩ := exists_profilesFrom_iff.2 hentries
        have hdefault := defaultName_eq_error_iff.2 ⟨hset, hfault⟩
        exact .inr ⟨hversion, .inr ⟨profiles, hprofiles, .inl ⟨_, hdefault, rfl⟩⟩⟩
    | repeated hversion hentries hread hnames hbefore hrepeated =>
        obtain ⟨profiles, hprofiles⟩ := exists_profilesFrom_iff.2 hentries
        obtain ⟨d, hdefault⟩ := exists_defaultName_iff.2 hread
        have hrepeat := (firstRepeat?_profiles_iff hprofiles).2 ⟨_, _, hnames, hbefore, hrepeated⟩
        have hparts : Collection.ofParts profiles d = .error _ :=
          Collection.ofParts_eq_error_of_repeat hrepeat
        exact .inr ⟨hversion, .inr ⟨profiles, hprofiles, .inr ⟨d, _, hdefault, hparts, rfl⟩⟩⟩
    | @dangling n hversion hentries hread hdistinct hdangling =>
        obtain ⟨profiles, hprofiles⟩ := exists_profilesFrom_iff.2 hentries
        have hdefault : r.defaultName = .ok (some n) :=
          defaultName_eq_ok_iff.2 (.inr ⟨KeyName.isBlankText_of_ofText hread, n, hread, rfl⟩)
        rw [trimmedNames_of_profilesFrom hprofiles] at hdistinct hdangling
        rw [List.mem_map_of_injective KeyName.value_injective] at hdangling
        have hparts := Collection.ofParts_eq_error_of_dangling hdistinct.of_map hdangling
        exact .inr ⟨hversion, .inr ⟨profiles, hprofiles, .inr ⟨_, _, hdefault, hparts, rfl⟩⟩⟩

end Collection

section Message

/-- What the message of a fault is about. -/
inductive Subject
  | version (version : Nat)
  | entry (index : Nat) (field : String)
  | default
  | repeated (name : String)
  | dangling (name : String)
deriving DecidableEq

/-- The field of an entry that a fault is about. -/
def entryField : StoredKey.Fault → String
  | .name _ => "name"
  | .baseUrl _ => "baseUrl"
  | .createdAt _ _ => "createdAt"

/-- What a fault is about. -/
def Fault.subject : Fault → Subject
  | .version v => .version v
  | .entry index fault => .entry index (entryField fault)
  | .default _ => .default
  | .parts (.repeated n) => .repeated n.value
  | .parts (.dangling n) => .dangling n.value

/-- The number in front of a character that is no digit is known from the text. -/
theorem toDigits_append_inj
    {m n : Nat}
    {c : Char}
    {s t : List Char}
    (hc : c.isDigit = false)
    (h : Nat.toDigits 10 m ++ c :: s = Nat.toDigits 10 n ++ c :: t) :
    m = n ∧ s = t := by
  have hread : ∀ (k : Nat) (u : List Char),
      (Nat.toDigits 10 k ++ c :: u).takeWhile Char.isDigit = Nat.toDigits 10 k := by
    intro k u
    have hdigits : ∀ d ∈ Nat.toDigits 10 k, d.isDigit = true := fun d hd =>
      Nat.isDigit_of_mem_toDigits (by decide) (by decide) hd
    rw [List.takeWhile_append_of_pos hdigits]
    simp [hc]
  have hdigits := hread m s
  rw [h, hread n t] at hdigits
  have hnumber : n = m := by
    rw [← Nat.ofDigitChars_ten_toDigits (n := n), hdigits, Nat.ofDigitChars_ten_toDigits]
  subst hnumber
  exact ⟨rfl, (List.cons.inj (List.append_cancel_left h)).2⟩

theorem entryField_eq_of_message_eq
    {a b : StoredKey.Fault}
    (h : a.message = b.message) :
    entryField a = entryField b := by
  have hchars := congrArg String.toList h
  unfold StoredKey.Fault.message at hchars
  cases a with
  | name fault =>
      cases b with
      | name fault' => rfl
      | baseUrl fault' => simp at hchars
      | createdAt text fault' => simp at hchars
  | baseUrl fault =>
      cases b with
      | baseUrl fault' => rfl
      | name fault' => simp at hchars
      | createdAt text fault' => simp at hchars
  | createdAt text fault =>
      cases b with
      | createdAt text' fault' => rfl
      | name fault' => simp at hchars
      | baseUrl fault' => simp at hchars

/-- What the message of a fault starts with. -/
def Subject.mark : Subject → List Char
  | .version _ => ['u', 'n']
  | .entry _ _ => ['k', 'e']
  | .default => ['d', 'e']
  | .repeated _ => ['d', 'u']
  | .dangling _ => ['A', 'P']

theorem Fault.take_message (f : Fault) :
    f.message.toList.take 2 = f.subject.mark := by
  unfold message subject Subject.mark
  rcases f with v | ⟨i, a⟩ | a | n | n
  · simp
  · simp
  · simp
  · simp [Collection.PartsFault.failure, Failure.validation]
  · simp [Collection.PartsFault.failure, Failure.keyNotFound]

/-- The message of a fault tells what it is about. -/
theorem Fault.subject_eq_of_message_eq
    {f g : Fault}
    (h : f.message = g.message) :
    f.subject = g.subject := by
  have hmark : f.subject.mark = g.subject.mark := by
    rw [← f.take_message, ← g.take_message, h]
  unfold message at h
  cases f with
  | version v =>
      cases g with
      | version w =>
          have hchars := congrArg String.toList h
          simp only [String.toList_append, List.append_cancel_left_eq, Nat.toString_eq_ofList_toDigits,
            String.toList_ofList] at hchars
          have hnumber := congrArg (fun ds => Nat.ofDigitChars 10 ds 0) hchars
          rw [Nat.ofDigitChars_ten_toDigits, Nat.ofDigitChars_ten_toDigits] at hnumber
          rw [hnumber]
      | entry j b => cases hmark
      | default b => cases hmark
      | parts b => cases b <;> cases hmark
  | entry i a =>
      cases g with
      | entry j b =>
          have hchars := congrArg String.toList h
          have hbracket : "].".toList = [']', '.'] := rfl
          simp only [String.toList_append, List.append_assoc, List.append_cancel_left_eq,
            Nat.toString_eq_ofList_toDigits, String.toList_ofList, hbracket, List.cons_append,
            List.nil_append] at hchars
          obtain ⟨rfl, hrest⟩ := toDigits_append_inj rfl hchars
          have hmessage := String.toList_injective (List.cons.inj hrest).2
          rw [subject, subject, entryField_eq_of_message_eq hmessage]
      | version w => cases hmark
      | default b => cases hmark
      | parts b => cases b <;> cases hmark
  | default a =>
      cases g with
      | default b => rfl
      | version w => cases hmark
      | entry j b => cases hmark
      | parts b => cases b <;> cases hmark
  | parts a =>
      cases a with
      | repeated n =>
          cases g with
          | parts b =>
              cases b with
              | repeated m =>
                  have hname : n.value = m.value := by
                    simpa [Collection.PartsFault.failure, Failure.validation] using h
                  rw [subject, subject, hname]
              | dangling m => cases hmark
          | version w => cases hmark
          | entry j b => cases hmark
          | default b => cases hmark
      | dangling n =>
          cases g with
          | parts b =>
              cases b with
              | dangling m =>
                  have hname : n.value = m.value := by
                    simpa [Collection.PartsFault.failure, Failure.keyNotFound] using h
                  rw [subject, subject, hname]
              | repeated m => cases hmark
          | version w => cases hmark
          | entry j b => cases hmark
          | default b => cases hmark

end Message

/-- A record is turned into a collection exactly if it is valid, and then into the one that it describes.
Else its first fault is reported, and the message tells what that fault is about. -/
theorem collection_valid_or_firstFault (r : Record) :
    ((∃ c, r.collection = .ok c) ↔ r.Valid) ∧
      (∀ c, r.collection = .ok c → r.Describes c) ∧
      (∀ f, r.collection = .error f ↔ r.FirstFault f) ∧
      ∀ f g : Fault, r.collection = .error f → f.message = g.message → f.subject = g.subject := by
  refine ⟨⟨?_, exists_collection_of_valid⟩, ?_, ?_, ?_⟩
  · rintro ⟨c, h⟩
    exact valid_of_collection h
  · intro c h
    exact describes_of_collection h
  · intro f
    exact collection_eq_error_iff_firstFault
  · intro f g _ hmessage
    exact Fault.subject_eq_of_message_eq hmessage

end Record
end Keyring
