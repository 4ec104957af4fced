import Keyring.Proofs.Config.Members
import Keyring.Proofs.Json.Compact
import Keyring.Proofs.Key.Reading

/-!
# Loading settings

A file of settings that holds an object is loaded exactly if the object is made of members that the settings
may have, each at most once at its level, and then the built-in settings have been overridden by them, at
both levels: `Config.load_overrides`.  So settings that are written, on one line or laid out over several,
are loaded as they were.
-/

namespace Keyring

open Json (MadeOf)
open Json.Shape (Member)

/-- A file that can be read is there. -/
theorem Disk.present_of_readText
    {d : Disk}
    {path text : String}
    (h : d.readText path = .ok text) :
    d.present path = true := by
  cases hlook : d.look path with
  | ok found => simp [present, hlook, Except.toOption]
  | error e => simp [readText, readBytes, hlook] at h

namespace SelectorConfig

/-- The name of a kind is taken for it. -/
theorem takes_kindName (k : SelectorKind) :
    Json.Takes (Json.Codec.choice kinds).read (.string (kindName k)) k := by
  cases k with
  | fzf => exact Json.Codec.takes_choice rfl
  | builtin => exact Json.Codec.takes_choice rfl

/-- The members in which the settings of a selector are written. -/
def written (c : SelectorConfig) : List (Member shape) :=
  [.of "kind" false (.choice kinds) (fun v c => { c with kind := v }) rfl (takes_kindName c.kind),
    .of "fzfBinary" false (.text "a string") (fun v c => c.withPicker ({ · with program := v })) rfl
      (Json.Codec.takes_text "a string" c.picker.program),
    .of "height" false (.text "a string") (fun v c => c.withPicker ({ · with height := v })) rfl
      (Json.Codec.takes_text "a string" c.picker.height),
    .of "border" false .bool (fun v c => c.withPicker ({ · with border := v })) rfl
      (Json.Codec.takes_bool c.picker.border),
    .of "reverse" false .bool (fun v c => c.withPicker ({ · with reverse := v })) rfl
      (Json.Codec.takes_bool c.picker.reverse)]

theorem takes_json (c : SelectorConfig) :
    Json.Takes shape.codec.read c.json c := by
  have hnodup : (c.written.map Member.name).Nodup :=
    show ["kind", "fzfBinary", "height", "border", "reverse"].Nodup by decide
  exact Json.Shape.takes_codec hnodup rfl

theorem accepts_kindName (k : SelectorKind) :
    Accepts "kind" (.string (kindName k)) := by
  cases k with
  | fzf => exact .fzf
  | builtin => exact .builtin

theorem kind?_kindName (k : SelectorKind) :
    kind? (.string (kindName k)) = some k := by
  cases k with
  | fzf => rfl
  | builtin => rfl

/-- Settings that are written override all parts of the built-in ones. -/
theorem exists_members_of_json (c : SelectorConfig) :
    ∃ members, c.json = .object members ∧ MadeOf Accepts members ∧
      standard.overriding members = c := by
  obtain ⟨kind, program, height, border, reverse⟩ := c
  refine ⟨_, rfl, ⟨?_, ?_⟩, ?_⟩
  · exact show ["kind", "fzfBinary", "height", "border", "reverse"].Nodup by decide
  · simp only [List.forall_mem_cons]
    exact ⟨accepts_kindName kind, .program program, .height height, .border border, .reverse reverse,
      fun _ h => absurd h List.not_mem_nil⟩
  · simp [overriding, Json.memberOr_cons, kind?_kindName, Json.string?, Json.bool?]

end SelectorConfig

namespace Config

/-- A path that may be missing is taken for itself. -/
theorem takes_path (path : Option String) :
    Json.Takes pathCodec.read (.text? path) path := by
  cases path with
  | none => exact Json.Codec.takes_optional_null _
  | some path => exact Json.Codec.takes_optional_text "path string" path

/-- The members in which the settings are written. -/
def written (c : Config) : List (Member shape) :=
  [.of "keysFile" false pathCodec (fun v c => { c with keysFile := v }) rfl (takes_path c.keysFile),
    .of "cacheFile" false pathCodec (fun v c => { c with cacheFile := v }) rfl (takes_path c.cacheFile),
    .of "logLevel" false (.text "a string") (fun v c => { c with logLevel := v }) rfl
      (Json.Codec.takes_text "a string" c.logLevel),
    .of "command" false (.text "a string") (fun v c => { c with command := v }) rfl
      (Json.Codec.takes_text "a string" c.command),
    .of "envPrefix" false (.text "a string") (fun v c => { c with envPrefix := v }) rfl
      (Json.Codec.takes_text "a string" c.envPrefix),
    .of "selector" false SelectorConfig.shape.codec (fun v c => { c with selector := v }) rfl
      c.selector.takes_json]

theorem takes_json (c : Config) :
    Json.Takes shape.codec.read c.json c := by
  have hnodup : (c.written.map Member.name).Nodup :=
    show ["keysFile", "cacheFile", "logLevel", "command", "envPrefix", "selector"].Nodup by decide
  exact Json.Shape.takes_codec hnodup rfl

/-- Settings that are written override all parts of the built-in ones. -/
theorem exists_members_of_json (c : Config) :
    ∃ members, c.json = .object members ∧ MadeOf Accepts members ∧
      standard.overriding members = c := by
  obtain ⟨keysFile, cacheFile, logLevel, command, envPrefix, selector⟩ := c
  obtain ⟨inner, hinner, hmade, hover⟩ := selector.exists_members_of_json
  refine ⟨_, rfl, ⟨?_, ?_⟩, ?_⟩
  · exact show ["keysFile", "cacheFile", "logLevel", "command", "envPrefix", "selector"].Nodup by decide
  · simp only [List.forall_mem_cons, hinner]
    exact ⟨.keysFile keysFile, .cacheFile cacheFile, .logLevel logLevel, .command command,
      .envPrefix envPrefix, .selector hmade, fun _ h => absurd h List.not_mem_nil⟩
  · simp [overriding, Json.memberOr_cons, stringOrNull?_text?, Json.string?, hinner, selector?, hover]

/-- A path or its absence is a value without parts and without a number. -/
theorem exact_and_depth_text? (path : Option String) :
    (Json.text? path).Exact ∧ (Json.text? path).depth = 0 := by
  cases path with
  | none => exact ⟨trivial, rfl⟩
  | some s => exact ⟨trivial, rfl⟩

/-- Settings on one line are a document that holds them. -/
theorem parse_compact_json (c : Config) :
    Json.parse c.json.compact = .ok c.json := by
  have hpath := exact_and_depth_text?
  refine Json.parse_compact ?_ ?_
  · simp [json, SelectorConfig.json, Json.Exact, Json.ExactMembers, hpath]
  · simp [json, SelectorConfig.json, Json.depth, Json.depthMembers, hpath, Json.greatestDepth]

section Load

variable {disk : Disk} {path text : String}

theorem load_eq_ok_iff
    (hread : disk.readText path = .ok text)
    {c : Config} :
    load disk path = .ok c ↔ ofText text = .ok c := by
  simp [load, Disk.present_of_readText hread, hread, mapError_eq_ok_iff]

/-- A file that holds an object is loaded exactly if the object is made of members that the settings may
have, each at most once at its level, and then the built-in settings have been overridden by them; and
settings that have been written are loaded as they were, in either layout. -/
theorem load_overrides
    (hread : disk.readText path = .ok text) :
    (∀ members, Json.parse text = .ok (.object members) → SelectorNamed members →
      ∀ c, load disk path = .ok c ↔ MadeOf Accepts members ∧ c = standard.overriding members) ∧
    ∀ c : Config, text = c.json.compact ∨ text = c.json.indented → load disk path = .ok c := by
  constructor
  · intro members hparse hselector c
    rw [load_eq_ok_iff hread, ofText_eq_ok_iff hparse hselector]
  · rintro c (rfl | rfl)
    · obtain ⟨members, hjson, hmade, hover⟩ := c.exists_members_of_json
      have hparse := c.parse_compact_json
      rw [hjson] at hparse
      rw [load_eq_ok_iff hread, hjson, ofText_eq_ok_iff hparse (selectorNamed_of_madeOf hmade)]
      exact ⟨hmade, hover.symm⟩
    · exact (load_eq_ok_iff hread).2 (Json.Codec.parse_indented c.takes_json)

end Load

/-- A disk with a file of settings. -/
def diskWith (text : String) : Disk :=
  ⟨[(["c.json"], .file text.toUTF8 Disk.fileMode)]⟩

theorem readText_diskWith (text : String) :
    (diskWith text).readText "/c.json" = .ok text := by
  have hlook : (diskWith text).look "/c.json" =
      .ok (["c.json"], .file text.toUTF8 Disk.fileMode) := by
    rfl
  simp only [Disk.readText, Disk.readBytes, hlook, Text.decode?_toUTF8]

/-- Settings that name some parts, two of them inside the selector, and not in the usual order. -/
def partialMembers : List (String × Json) :=
  [("selector", .object [("border", .bool false), ("kind", .string "builtin")]),
    ("keysFile", .null), ("command", .string "my \"cli\""), ("envPrefix", .string "")]

/-- What `partialMembers` stand for. -/
def partlySet : Config :=
  ⟨none, none, "warn", "my \"cli\"", "", ⟨.builtin, ⟨"fzf", "40%", false, true⟩⟩⟩

theorem load_overrides_partialMembers :
    load (diskWith (Json.object partialMembers).compact) "/c.json" = .ok partlySet ∧
      load (diskWith partlySet.json.compact) "/c.json" = .ok partlySet := by
  have hparse : Json.parse (Json.object partialMembers).compact = .ok (.object partialMembers) := by
    refine Json.parse_compact ?_ (by decide)
    simp [partialMembers, Json.Exact, Json.ExactMembers]
  have hinner : MadeOf SelectorConfig.Accepts [("border", .bool false), ("kind", .string "builtin")] :=
    ⟨by decide, by simpa using ⟨.border false, .builtin⟩⟩
  have hmade : MadeOf Accepts partialMembers := by
    refine ⟨by decide, ?_⟩
    simp only [partialMembers, List.forall_mem_cons]
    exact ⟨.selector hinner, .keysFile none, .command _, .envPrefix "",
      fun _ h => absurd h List.not_mem_nil⟩
  obtain ⟨hloads, -⟩ := load_overrides (readText_diskWith (Json.object partialMembers).compact)
  obtain ⟨-, hreloads⟩ := load_overrides (readText_diskWith partlySet.json.compact)
  exact ⟨(hloads _ hparse (selectorNamed_of_madeOf hmade) _).2 ⟨hmade, by decide⟩,
    hreloads partlySet (.inl rfl)⟩

end Config

end Keyring
