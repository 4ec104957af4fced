import Keyring.Config
import Keyring.Proofs.Json.Following
import Keyring.Proofs.Json.Overriding

/-!
# What settings are made of

Which members the settings may have at their two levels, with the values that each may hold, and what
settings come to when members are put in the place of their parts.  The shapes of the settings follow this:
they take an object exactly if it is made of such members, and then the built-in settings have been
overridden by them (`SelectorConfig.ofJson_eq_ok_iff`), and the text of an object is read as the object is
taken (`Config.ofText_eq_ok_iff`).

The kind of a selector may also be given as an object, which is left aside here, as are settings that are
given as a list.
-/

namespace Keyring

open Json (Follows MadeOf memberOr)

namespace Json

/-- The text that a value is. -/
def string? : Json → Option String
  | .string s => some s
  | _ => none

/-- The text that a value is, or its absence that a null stands for. -/
def stringOrNull? : Json → Option (Option String)
  | .null => some none
  | .string s => some (some s)
  | _ => none

/-- The truth value that a value is. -/
def bool? : Json → Option Bool
  | .bool b => some b
  | _ => none

theorem Field.ofJson_of_eq_ok_iff
    {α β : Type}
    {name : String}
    {required : Bool}
    {codec : Codec β}
    {store : β → α → α}
    {v : Json}
    {f : α → α} :
    (Field.of name required codec store).ofJson v = .ok f ↔
      ∃ x, codec.ofJson v = .ok x ∧ f = store x := by
  simp only [Field.of]
  cases codec.ofJson v with
  | error m => simp [Except.map]
  | ok x => simp [Except.map, eq_comm]

/-- Whether the text of a value is read for a field as the value is taken, and the value is only taken if
the member may have it. -/
structure Field.Fits
    {α : Type}
    (f : Field α)
    (accepts : Json → Prop)
    (v : Json) : Prop where
  follows : Follows f.read f.ofJson v
  sound : ∀ store, f.ofJson v = .ok store → accepts v

namespace Codec

variable {v : Json}

theorem eq_string_of_text
    {expected s : String}
    (h : (text expected).ofJson v = .ok s) :
    v = .string s := by
  cases v with
  | string t =>
      cases h
      rfl
  | _ => cases h

theorem eq_bool_of_bool
    {b : Bool}
    (h : bool.ofJson v = .ok b) :
    v = .bool b := by
  cases v with
  | bool b =>
      cases h
      rfl
  | _ => cases h

theorem eq_text?_of_optional_text
    {expected : String}
    {o : Option String}
    (h : (optional (text expected)).ofJson v = .ok o) :
    v = .text? o := by
  cases v with
  | null =>
      cases h
      rfl
  | string t =>
      cases h
      rfl
  | _ => cases h

end Codec

section Fits

variable {α β : Type} {name expected : String} {required : Bool} {accepts : Json → Prop} {v : Json}

theorem Field.fits_of
    {codec : Codec β}
    {store : β → α → α}
    (hfollows : Follows codec.read codec.ofJson v)
    (hsound : ∀ x, codec.ofJson v = .ok x → accepts v) :
    (Field.of name required codec store).Fits accepts v where
  follows := Field.follows_of hfollows
  sound _ hstore := by
    obtain ⟨x, hx, -⟩ := Field.ofJson_of_eq_ok_iff.1 hstore
    exact hsound x hx

theorem Field.fits_text
    {store : String → α → α}
    (h : ∀ s, accepts (.string s)) :
    (Field.of name required (.text expected) store).Fits accepts v :=
  fits_of (Codec.follows_text expected v) fun s hs => Codec.eq_string_of_text hs ▸ h s

theorem Field.fits_bool
    {store : Bool → α → α}
    (h : ∀ b, accepts (.bool b)) :
    (Field.of name required .bool store).Fits accepts v :=
  fits_of (Codec.follows_bool v) fun b hb => Codec.eq_bool_of_bool hb ▸ h b

theorem Field.fits_optional_text
    {store : Option String → α → α}
    (h : ∀ o, accepts (.text? o)) :
    (Field.of name required (.optional (.text expected)) store).Fits accepts v :=
  fits_of (Codec.follows_optional (Codec.follows_text expected v))
    fun o ho => Codec.eq_text?_of_optional_text ho ▸ h o

end Fits

end Json

namespace SelectorConfig

variable {members : List (String × Json)}

/-- The members that the settings of a selector may have, with their values. -/
inductive Accepts : String → Json → Prop
  | fzf :
      Accepts "kind" (.string "fzf")
  | builtin :
      Accepts "kind" (.string "builtin")
  | program (s : String) :
      Accepts "fzfBinary" (.string s)
  | height (s : String) :
      Accepts "height" (.string s)
  | border (b : Bool) :
      Accepts "border" (.bool b)
  | reverse (b : Bool) :
      Accepts "reverse" (.bool b)

/-- The kind that a value names. -/
def kind? : Json → Option SelectorKind
  | .string "fzf" => some .fzf
  | .string "builtin" => some .builtin
  | _ => none

/-- The settings with members in the place of their parts. -/
def overriding (c : SelectorConfig) (members : List (String × Json)) : SelectorConfig where
  kind := memberOr members "kind" kind? c.kind
  picker :=
    { program := memberOr members "fzfBinary" Json.string? c.picker.program
      height := memberOr members "height" Json.string? c.picker.height
      border := memberOr members "border" Json.bool? c.picker.border
      reverse := memberOr members "reverse" Json.bool? c.picker.reverse }

theorem overriddenBy :
    shape.OverriddenBy Accepts overriding where
  closed := rfl
  complete _ := rfl
  nil _ := rfl
  cons name v h := by
    -- Each member replaces its own part; the further members, which have other names, leave it.
    cases h with
    | fzf =>
        refine ⟨_, fun c => { c with kind := .fzf }, rfl, rfl, fun c members hname => ?_⟩
        simp [overriding, Json.memberOr_cons, kind?, Json.memberOr_of_not_mem hname]
    | builtin =>
        refine ⟨_, fun c => { c with kind := .builtin }, rfl, rfl, fun c members hname => ?_⟩
        simp [overriding, Json.memberOr_cons, kind?, Json.memberOr_of_not_mem hname]
    | program s =>
        refine ⟨_, fun c => c.withPicker ({ · with program := s }), rfl, rfl, fun c members hname => ?_⟩
        simp [overriding, withPicker, Json.memberOr_cons, Json.string?, Json.memberOr_of_not_mem hname]
    | height s =>
        refine ⟨_, fun c => c.withPicker ({ · with height := s }), rfl, rfl, fun c members hname => ?_⟩
        simp [overriding, withPicker, Json.memberOr_cons, Json.string?, Json.memberOr_of_not_mem hname]
    | border b =>
        refine ⟨_, fun c => c.withPicker ({ · with border := b }), rfl, rfl, fun c members hname => ?_⟩
        simp [overriding, withPicker, Json.memberOr_cons, Json.bool?, Json.memberOr_of_not_mem hname]
    | reverse b =>
        refine ⟨_, fun c => c.withPicker ({ · with reverse := b }), rfl, rfl, fun c members hname => ?_⟩
        simp [overriding, withPicker, Json.memberOr_cons, Json.bool?, Json.memberOr_of_not_mem hname]

/-- Whether the kind is given by its name, if it is given. -/
def KindNamed (members : List (String × Json)) : Prop :=
  ∀ v, ("kind", v) ∈ members → ∃ s, v = .string s

theorem accepts_of_choice
    {s : String}
    {k : SelectorKind}
    (h : (Json.Codec.choice kinds).ofJson (.string s) = .ok k) :
    Accepts "kind" (.string s) := by
  by_cases hfzf : s = "fzf"
  · rw [hfzf]
    exact .fzf
  by_cases hbuiltin : s = "builtin"
  · rw [hbuiltin]
    exact .builtin
  have hnone : kinds.lookup s = none := by
    simp [kinds, List.lookup_cons, beq_false_of_ne hfzf, beq_false_of_ne hbuiltin]
  simp [Json.Codec.choice, Json.Codec.choose, hnone] at h

/-- A field of a selector fits what the member of its name may be. -/
theorem fits_of_field?
    {name : String}
    {v : Json}
    {f : Json.Field SelectorConfig}
    (hkind : name = "kind" → ∃ s, v = .string s)
    (hfield : shape.field? name = some f) :
    f.Fits (Accepts name) v := by
  obtain ⟨hmem, rfl⟩ := Json.mem_of_field? hfield
  simp only [shape, List.mem_cons, List.not_mem_nil, or_false] at hmem
  rcases hmem with rfl | rfl | rfl | rfl | rfl
  · obtain ⟨s, rfl⟩ := hkind rfl
    exact Json.Field.fits_of (Json.Codec.follows_choice kinds s) fun k hk => accepts_of_choice hk
  · exact Json.Field.fits_text .program
  · exact Json.Field.fits_text .height
  · exact Json.Field.fits_bool .border
  · exact Json.Field.fits_bool .reverse

/-- The settings of a selector are taken from members that may be there, each at most once, and the
built-in ones have been overridden by them. -/
theorem ofJson_eq_ok_iff
    {c : SelectorConfig}
    (hkind : KindNamed members) :
    shape.codec.ofJson (.object members) = .ok c ↔
      MadeOf Accepts members ∧ c = standard.overriding members := by
  refine Json.Shape.ofJson_object_eq_ok_iff overriddenBy fun m hm f store hfield hstore => ?_
  exact (fits_of_field? (fun hname => hkind m.2 (hname ▸ hm)) hfield).sound store hstore

theorem kindNamed_of_madeOf
    (h : MadeOf Accepts members) :
    KindNamed members := by
  intro v hv
  have haccepts : Accepts "kind" v := h.accepted _ hv
  generalize hname : "kind" = name at haccepts
  cases haccepts with
  | fzf => exact ⟨_, rfl⟩
  | builtin => exact ⟨_, rfl⟩
  | _ => simp at hname

end SelectorConfig

namespace Config

variable {members : List (String × Json)}

/-- The members that the settings may have, with their values. -/
inductive Accepts : String → Json → Prop
  | keysFile (path : Option String) :
      Accepts "keysFile" (.text? path)
  | cacheFile (path : Option String) :
      Accepts "cacheFile" (.text? path)
  | logLevel (s : String) :
      Accepts "logLevel" (.string s)
  | command (s : String) :
      Accepts "command" (.string s)
  | envPrefix (s : String) :
      Accepts "envPrefix" (.string s)
  | selector
      {inner : List (String × Json)}
      (hinner : MadeOf SelectorConfig.Accepts inner) :
      Accepts "selector" (.object inner)

/-- The settings of a selector that a value stands for: the built-in ones, overridden by its members. -/
def selector? : Json → Option SelectorConfig
  | .object inner => some (SelectorConfig.standard.overriding inner)
  | _ => none

/-- The settings with members in the place of their parts. -/
def overriding (c : Config) (members : List (String × Json)) : Config where
  keysFile := memberOr members "keysFile" Json.stringOrNull? c.keysFile
  cacheFile := memberOr members "cacheFile" Json.stringOrNull? c.cacheFile
  logLevel := memberOr members "logLevel" Json.string? c.logLevel
  command := memberOr members "command" Json.string? c.command
  envPrefix := memberOr members "envPrefix" Json.string? c.envPrefix
  selector := memberOr members "selector" selector? c.selector

theorem stringOrNull?_text? (path : Option String) :
    Json.stringOrNull? (.text? path) = some path := by
  cases path with
  | none => rfl
  | some s => rfl

theorem pathCodec_text? (path : Option String) :
    pathCodec.ofJson (.text? path) = .ok path := by
  cases path with
  | none => rfl
  | some s => rfl

theorem overriddenBy :
    shape.OverriddenBy Accepts overriding where
  closed := rfl
  complete _ := rfl
  nil _ := rfl
  cons name v h := by
    -- Each member replaces its own part; the further members, which have other names, leave it.
    cases h with
    | keysFile path =>
        refine ⟨_, fun c => { c with keysFile := path }, rfl,
          Json.Field.ofJson_of_eq_ok_iff.2 ⟨path, pathCodec_text? path, rfl⟩, fun c members hname => ?_⟩
        simp [overriding, Json.memberOr_cons, stringOrNull?_text?, Json.memberOr_of_not_mem hname]
    | cacheFile path =>
        refine ⟨_, fun c => { c with cacheFile := path }, rfl,
          Json.Field.ofJson_of_eq_ok_iff.2 ⟨path, pathCodec_text? path, rfl⟩, fun c members hname => ?_⟩
        simp [overriding, Json.memberOr_cons, stringOrNull?_text?, Json.memberOr_of_not_mem hname]
    | logLevel s =>
        refine ⟨_, fun c => { c with logLevel := s }, rfl, rfl, fun c members hname => ?_⟩
        simp [overriding, Json.memberOr_cons, Json.string?, Json.memberOr_of_not_mem hname]
    | command s =>
        refine ⟨_, fun c => { c with command := s }, rfl, rfl, fun c members hname => ?_⟩
        simp [overriding, Json.memberOr_cons, Json.string?, Json.memberOr_of_not_mem hname]
    | envPrefix s =>
        refine ⟨_, fun c => { c with envPrefix := s }, rfl, rfl, fun c members hname => ?_⟩
        simp [overriding, Json.memberOr_cons, Json.string?, Json.memberOr_of_not_mem hname]
    | @selector inner hinner =>
        have htaken := (SelectorConfig.ofJson_eq_ok_iff
          (SelectorConfig.kindNamed_of_madeOf hinner)).2 ⟨hinner, rfl⟩
        refine ⟨_, fun c => { c with selector := SelectorConfig.standard.overriding inner }, rfl,
          Json.Field.ofJson_of_eq_ok_iff.2 ⟨_, htaken, rfl⟩, fun c members hname => ?_⟩
        simp [overriding, Json.memberOr_cons, selector?, Json.memberOr_of_not_mem hname]

/-- Whether the selector is given as an object with the kind by its name, if it is given. -/
def SelectorNamed (members : List (String × Json)) : Prop :=
  ∀ v, ("selector", v) ∈ members → ∃ inner, v = .object inner ∧ SelectorConfig.KindNamed inner

/-- A field of the settings fits what the member of its name may be. -/
theorem fits_of_field?
    {name : String}
    {v : Json}
    {f : Json.Field Config}
    (hselector : name = "selector" → ∃ inner, v = .object inner ∧ SelectorConfig.KindNamed inner)
    (hfield : shape.field? name = some f) :
    f.Fits (Accepts name) v := by
  obtain ⟨hmem, rfl⟩ := Json.mem_of_field? hfield
  simp only [shape, List.mem_cons, List.not_mem_nil, or_false] at hmem
  rcases hmem with rfl | rfl | rfl | rfl | rfl | rfl
  · exact Json.Field.fits_optional_text .keysFile
  · exact Json.Field.fits_optional_text .cacheFile
  · exact Json.Field.fits_text .logLevel
  · exact Json.Field.fits_text .command
  · exact Json.Field.fits_text .envPrefix
  · obtain ⟨inner, rfl, hkind⟩ := hselector rfl
    refine Json.Field.fits_of (Json.Shape.follows_codec rfl fun m hm g hg => ?_) fun c hc => ?_
    · exact (SelectorConfig.fits_of_field? (fun hname => hkind m.2 (hname ▸ hm)) hg).follows
    · exact .selector ((SelectorConfig.ofJson_eq_ok_iff hkind).1 hc).1

theorem selectorNamed_of_madeOf
    (h : MadeOf Accepts members) :
    SelectorNamed members := by
  intro v hv
  have haccepts : Accepts "selector" v := h.accepted _ hv
  generalize hname : "selector" = name at haccepts
  cases haccepts with
  | selector hinner => exact ⟨_, rfl, SelectorConfig.kindNamed_of_madeOf hinner⟩
  | _ => simp at hname

/-- The settings are read from the text of an object exactly if it is made of members that may be there,
and the built-in ones have been overridden by them. -/
theorem ofText_eq_ok_iff
    {text : String}
    {c : Config}
    (hparse : Json.parse text = .ok (.object members))
    (hselector : SelectorNamed members) :
    ofText text = .ok c ↔ MadeOf Accepts members ∧ c = standard.overriding members := by
  have hfits : ∀ m ∈ members, ∀ f, shape.field? m.1 = some f → f.Fits (Accepts m.1) m.2 :=
    fun m hm f => fits_of_field? fun hname => hselector m.2 (hname ▸ hm)
  have hfollows : Follows shape.codec.read shape.codec.ofJson (.object members) :=
    Json.Shape.follows_codec rfl fun m hm f hf => (hfits m hm f hf).follows
  rw [ofText, Json.Codec.parse_eq_ok_iff hfollows hparse]
  exact Json.Shape.ofJson_object_eq_ok_iff overriddenBy
    fun m hm f store hf => (hfits m hm f hf).sound store

end Config

end Keyring
