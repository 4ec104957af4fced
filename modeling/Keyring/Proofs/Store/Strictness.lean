import Keyring.Proofs.Json.Fields
import Keyring.Proofs.Store.Validity

/-!
# The shape of a key store

Which texts the loader takes for a key store.  `Record.Shaped` is the shape of the document, with the texts,
the options and the integers that its fields hold, each field at most once, and anything under other names.
A key store that is loaded has that shape, and every other text is corrupt (`Vault.load_only_shaped`).

The document and each entry may be given as an object or as a list of the fields in their order.  The flag of
`Record.Shaped` says whether lists are allowed; without them it is the shape in which key stores are written.
-/

namespace Keyring

open Json (Tree Rule Document Value Codec)

namespace StoredKey

/-- The rule of a field that holds a text. -/
def textRule
    (name : String)
    (store : String → StoredKey → StoredKey)
    (part : StoredKey → String)
    (part_store : ∀ s k, part (store s k) = s) :
    Rule StoredKey where
  name := name
  required := true
  codec := textCodec
  store := store
  part := part
  means := Tree.Says
  conforms := Codec.conforms_text "a string"
  part_store := part_store

/-- The rule of a field that holds a text or null and may be left out. -/
def optionalTextRule
    (name : String)
    (store : Option String → StoredKey → StoredKey)
    (part : StoredKey → Option String)
    (part_store : ∀ s k, part (store s k) = s) :
    Rule StoredKey where
  name := name
  required := false
  codec := .optional textCodec
  store := store
  part := part
  means := Json.Optional Tree.Says
  conforms := Codec.conforms_optional (Codec.conforms_text "a string")
  part_store := part_store

/-- What the fields of an entry mean. -/
def rules : List (Rule StoredKey) :=
  [textRule "name" (fun v k => { k with name := v }) name fun _ _ => rfl,
    textRule "key" (fun v k => { k with key := v }) key fun _ _ => rfl,
    optionalTextRule "baseUrl" (fun v k => { k with baseUrl := v }) baseUrl fun _ _ => rfl,
    optionalTextRule "note" (fun v k => { k with note := v }) note fun _ _ => rfl,
    textRule "createdAt" (fun v k => { k with createdAt := v }) createdAt fun _ _ => rfl]

theorem apart_rules :
    rules.Pairwise Rule.Apart := by
  simp only [rules, List.pairwise_cons, List.forall_mem_cons, List.not_mem_nil, false_implies,
    implies_true, List.Pairwise.nil, and_true]
  refine ⟨⟨?_, ?_, ?_, ?_⟩, ⟨?_, ?_, ?_⟩, ⟨?_, ?_⟩, ?_⟩
  all_goals exact ⟨by decide, fun _ _ => rfl, fun _ _ => rfl⟩

/-- What an entry means. -/
def Means : Tree → StoredKey → Prop :=
  Json.Means rules shape.blank

theorem conforms_codec :
    shape.codec.Conforms Means :=
  Json.Shape.conforms_codec rfl apart_rules

/-- The shape of an entry: an object with the fields or, if lists are allowed, a list of them. -/
inductive Shaped (lists : Bool) : Tree → Prop
  | object
      {v : Tree}
      {members : List (String × Tree)}
      (hmembers : v.HasMembers members)
      (hname : Json.HasField members "name" true Tree.IsText)
      (hkey : Json.HasField members "key" true Tree.IsText)
      (hbaseUrl : Json.HasField members "baseUrl" false Tree.IsTextOrNull)
      (hnote : Json.HasField members "note" false Tree.IsTextOrNull)
      (hcreatedAt : Json.HasField members "createdAt" true Tree.IsText) :
      Shaped lists v
  | list
      {name key baseUrl note createdAt : Tree}
      (hlists : lists = true)
      (hname : name.IsText)
      (hkey : key.IsText)
      (hbaseUrl : baseUrl.IsTextOrNull)
      (hnote : note.IsTextOrNull)
      (hcreatedAt : createdAt.IsText) :
      Shaped lists (.array [name, key, baseUrl, note, createdAt])

theorem isTextOrNull_of_optional
    {v : Tree}
    {s : Option String}
    (h : Json.Optional Tree.Says v s) :
    v.IsTextOrNull := by
  cases h with
  | null => exact .inl rfl
  | some h => exact .inr ⟨_, h⟩

/-- An entry that is read has the shape of one. -/
theorem Means.shaped
    {v : Tree}
    {k : StoredKey}
    (h : Means v k) :
    Shaped true v := by
  have htext : ∀ {w : Tree} {s : String}, w.Says s → w.IsText := fun hs => ⟨_, hs⟩
  cases h with
  | object hmembers hholds hrequired =>
      simp only [rules, List.forall_mem_cons] at hholds hrequired
      obtain ⟨hname, hkey, hbaseUrl, hnote, hcreatedAt, -⟩ := hholds
      obtain ⟨rname, rkey, rbaseUrl, rnote, rcreatedAt, -⟩ := hrequired
      exact .object hmembers (hname.hasField rname fun _ => htext) (hkey.hasField rkey fun _ => htext)
        (hbaseUrl.hasField rbaseUrl fun _ => isTextOrNull_of_optional)
        (hnote.hasField rnote fun _ => isTextOrNull_of_optional)
        (hcreatedAt.hasField rcreatedAt fun _ => htext)
  | list hslots =>
      have hlast : ∀ {r : Rule StoredKey}, r.required = true → ∀ front : List (Rule StoredKey),
          ∃ r' ∈ front ++ [r], r'.required = true := fun hr front => ⟨_, by simp, hr⟩
      obtain ⟨name, items, rfl, hname, hslots⟩ := hslots.exists_item (hlast rfl [_, _, _, _])
      obtain ⟨key, items, rfl, hkey, hslots⟩ := hslots.exists_item (hlast rfl [_, _, _])
      obtain ⟨baseUrl, items, rfl, hbaseUrl, hslots⟩ := hslots.exists_item (hlast rfl [_, _])
      obtain ⟨note, items, rfl, hnote, hslots⟩ := hslots.exists_item (hlast rfl [_])
      obtain ⟨createdAt, items, rfl, hcreatedAt, hslots⟩ := hslots.exists_item (hlast rfl [])
      cases hslots
      exact .list rfl (htext hname) (htext hkey) (isTextOrNull_of_optional hbaseUrl)
        (isTextOrNull_of_optional hnote) (htext hcreatedAt)

end StoredKey

namespace Record

/-- The rule of the version. -/
def versionRule : Rule Record where
  name := "version"
  required := false
  codec := .word32
  store := fun v r => { r with version := v }
  part := version
  means := Tree.Counts
  conforms := Codec.conforms_word32
  part_store := fun _ _ => rfl

/-- The rule of the entries. -/
def keysRule : Rule Record where
  name := "keys"
  required := true
  codec := .list StoredKey.shape.codec
  store := fun v r => { r with keys := v }
  part := keys
  means := Json.Lists StoredKey.Means
  conforms := Codec.conforms_list StoredKey.conforms_codec
  part_store := fun _ _ => rfl

/-- The rule of the default. -/
def defaultRule : Rule Record where
  name := "default"
  required := false
  codec := StoredKey.textCodec
  store := fun v r => { r with default := v }
  part := Record.default
  means := Tree.Says
  conforms := Codec.conforms_text "a string"
  part_store := fun _ _ => rfl

/-- What the fields of the document mean. -/
def rules : List (Rule Record) :=
  [versionRule, keysRule, defaultRule]

theorem apart_rules :
    rules.Pairwise Rule.Apart := by
  simp only [rules, List.pairwise_cons, List.forall_mem_cons, List.not_mem_nil, false_implies,
    implies_true, List.Pairwise.nil, and_true]
  refine ⟨⟨?_, ?_⟩, ?_⟩
  all_goals exact ⟨by decide, fun _ _ => rfl, fun _ _ => rfl⟩

/-- What a document means. -/
def Means : Tree → Record → Prop :=
  Json.Means rules shape.blank

/-- The document that a text is read from, and what it means. -/
theorem exists_document_of_ofText
    {text : String}
    {r : Record}
    (h : ofText text = .ok r) :
    ∃ root, Document text.toList root ∧ Means root r :=
  Codec.exists_document_of_parse (Json.Shape.conforms_codec rfl apart_rules) h

/-- Whether a value is a version that can be read. -/
def IsVersion (v : Tree) : Prop :=
  ∃ n ≤ currentVersion, v.Counts n

/-- The shape of the document: an object with the fields or, if lists are allowed, a list of them. -/
inductive Shaped (lists : Bool) : Tree → Prop
  | object
      {v : Tree}
      {members : List (String × Tree)}
      (hmembers : v.HasMembers members)
      (hversion : Json.HasField members "version" false IsVersion)
      (hkeys : Json.HasField members "keys" true (Tree.IsListOf (StoredKey.Shaped lists)))
      (hdefault : Json.HasField members "default" false Tree.IsText) :
      Shaped lists v
  | list
      {version keys : Tree}
      {further : List Tree}
      (hlists : lists = true)
      (hversion : IsVersion version)
      (hkeys : keys.IsListOf (StoredKey.Shaped lists))
      (hfurther : further = [] ∨ ∃ default, further = [default] ∧ default.IsText) :
      Shaped lists (.array (version :: keys :: further))

theorem isListOf_of_lists
    {v : Tree}
    {keys : List StoredKey}
    (h : Json.Lists StoredKey.Means v keys) :
    v.IsListOf (StoredKey.Shaped true) := by
  obtain ⟨items, rfl, hmeans⟩ := h
  refine ⟨items, rfl, ?_⟩
  induction hmeans with
  | nil => exact fun _ hitem => absurd hitem List.not_mem_nil
  | cons hk _ ih => exact List.forall_mem_cons.2 ⟨hk.shaped, ih⟩

/-- A document that is read and has a version that can be read has the shape of a key store. -/
theorem Means.shaped
    {root : Tree}
    {r : Record}
    (h : Means root r)
    (hversion : r.version ≤ currentVersion) :
    Shaped true root := by
  cases h with
  | object hmembers hholds hrequired =>
      simp only [rules, List.forall_mem_cons] at hholds hrequired
      obtain ⟨hversion', hkeys, hdefault, -⟩ := hholds
      obtain ⟨rversion, rkeys, rdefault, -⟩ := hrequired
      exact .object hmembers (hversion'.hasField rversion fun _ hcounts => ⟨_, hversion, hcounts⟩)
        (hkeys.hasField rkeys fun _ => isListOf_of_lists)
        (hdefault.hasField rdefault fun _ hsays => ⟨_, hsays⟩)
  | list hslots =>
      obtain ⟨version, items, rfl, hcounts, hslots⟩ := hslots.exists_item ⟨keysRule, by simp, rfl⟩
      obtain ⟨keys, items, rfl, hkeys, hslots⟩ := hslots.exists_item ⟨keysRule, by simp, rfl⟩
      refine .list rfl ⟨_, hversion, hcounts⟩ (isListOf_of_lists hkeys) ?_
      cases hslots with
      | done hrules => exact .inl rfl
      | slot hsays hrest =>
          cases hrest
          exact .inr ⟨_, rfl, _, hsays⟩

/-- Whether a list stands in the place of the document or of an entry. -/
def ListsRecord (root : Tree) : Prop :=
  (∃ items, root = .array items) ∨
    ∃ members entries fields, root.HasMembers members ∧ ("keys", .array entries) ∈ members ∧
      .array fields ∈ entries

/-- A document of the wider shape that is not of the narrower one has a list in the place of a record. -/
theorem Shaped.strict_or_listsRecord
    {root : Tree}
    (h : Shaped true root) :
    Shaped false root ∨ ListsRecord root := by
  by_cases hlists : ListsRecord root
  · exact .inr hlists
  · left
    cases h with
    | list _ _ _ _ => exact absurd (.inl ⟨_, rfl⟩) hlists
    | object hmembers hversion hkeys hdefault =>
        refine .object hmembers hversion ⟨hkeys.once, fun v hv => ?_, hkeys.given⟩ hdefault
        obtain ⟨entries, rfl, hentries⟩ := hkeys.kind v hv
        refine ⟨entries, rfl, fun entry hentry => ?_⟩
        cases hentries entry hentry with
        | object hmembers' hname hkey hbaseUrl hnote hcreatedAt =>
            exact .object hmembers' hname hkey hbaseUrl hnote hcreatedAt
        | list _ _ _ _ _ _ => exact absurd (.inr ⟨_, _, _, hmembers, hv, hentry⟩) hlists

end Record

namespace Vault

/-- The document and the record that the keys of a text come from. -/
theorem exists_document_of_ofText
    {v : Vault}
    {text : String}
    {c : Collection}
    (h : v.ofText text = .ok c) :
    ∃ root r, Document text.toList root ∧ Record.Means root r ∧ r.collection = .ok c := by
  unfold ofText at h
  split at h
  · cases h
  · next r hr =>
      obtain ⟨root, hdocument, hmeans⟩ := Record.exists_document_of_ofText hr
      cases hcollection : r.collection with
      | error fault =>
          rw [hcollection] at h
          cases h
      | ok c' =>
          rw [hcollection] at h
          cases h
          exact ⟨root, r, hdocument, hmeans, hcollection⟩

variable {σ : Type} [FileSystem σ]

/-- A key store is only loaded from a document of its shape, and every other text is corrupt.  The shape is
the strict one, unless a list stands in the place of a record. -/
theorem load_only_shaped
    {v : Vault}
    {s : σ}
    {text : String}
    (hpresent : FileSystem.present v.path s = true)
    (hread : FileSystem.read v.path s = .ok text) :
    (∀ c s', v.load s = (.ok c, s') →
        ∃ root, Document text.toList root ∧ Record.Shaped true root ∧
          (Record.Shaped false root ∨ Record.ListsRecord root)) ∧
      ((∀ root, Document text.toList root → ¬ Record.Shaped true root) →
        ∃ f, v.load s = (.error (.failed f), s) ∧ f.kind = .corruptStore ∧
          f.details = some v.details) := by
  have hcontents := contents_of_read hpresent hread
  have hshaped : ∀ c, v.contents s = .ok c →
      ∃ root, Document text.toList root ∧ Record.Shaped true root := by
    intro c hc
    obtain ⟨root, r, hdocument, hmeans, hcollection⟩ :=
      exists_document_of_ofText (hcontents.symm.trans hc)
    exact ⟨root, hdocument, hmeans.shaped (Record.valid_of_collection hcollection).version⟩
  constructor
  · intro c s' hload
    obtain ⟨root, hdocument, hroot⟩ := hshaped c (contents_of_load hload)
    exact ⟨root, hdocument, hroot, hroot.strict_or_listsRecord⟩
  · intro hnone
    cases hfound : v.contents s with
    | ok c =>
        obtain ⟨root, hdocument, hroot⟩ := hshaped c hfound
        exact absurd hroot (hnone root hdocument)
    | error f =>
        rw [hcontents] at hfound
        obtain ⟨hkind, hdetails⟩ := ofText_eq_error hfound
        exact ⟨f, load_of_contents_eq_error (hcontents.trans hfound), hkind, hdetails⟩

/-- A key store in memory with the given text. -/
def storeOfText (text : String) : Memory :=
  Memory.empty.place "keys.json" (some text)

/-- What is under a name that is not known is only passed over, whatever its numbers and strings are. -/
theorem load_only_shaped_unknownMember :
    ∃ root, Document "\x7b\"more\":[1e999,\"\\ud800\"],\"keys\":[]\x7d".toList root ∧
      Record.Shaped true root ∧ (Record.Shaped false root ∨ Record.ListsRecord root) := by
  let v : Vault := ⟨"keys.json"⟩
  let text := "\x7b\"more\":[1e999,\"\\ud800\"],\"keys\":[]\x7d"
  let m := storeOfText text
  have hload : (v.contents m).toOption.any (· == .empty) = true := by
    decide +kernel
  obtain ⟨c, hcontents, -⟩ := Action.exists_of_any_toOption hload
  have htext : m.text v.path = some text := Memory.text_place Memory.empty v.path _
  have hshaped := load_only_shaped (Memory.present_of_text htext) (Memory.read_of_text rfl htext)
  exact hshaped.1 c m (load_of_contents hcontents)

/-- A value that is an object starts with a brace. -/
theorem exists_brace_of_object
    {s rest : List Char}
    {members : List (List Char × Tree)}
    (h : Value s (.object members) rest) :
    ∃ gap t, Json.Blank gap ∧ s = gap ++ '\x7b' :: t := by
  cases h with
  | object hgap _ => exact ⟨_, _, hgap, rfl⟩

/-- A document that has the shape of a key store holds a brace or a bracket. -/
theorem exists_opening_of_shaped
    {s rest : List Char}
    {root : Tree}
    (h : Value s root rest)
    (hroot : Record.Shaped true root) :
    '\x7b' ∈ s ∨ '[' ∈ s := by
  cases hroot with
  | object hmembers _ _ _ =>
      obtain ⟨written, rfl, -⟩ := hmembers
      obtain ⟨gap, t, -, rfl⟩ := exists_brace_of_object h
      exact .inl (List.mem_append_right gap List.mem_cons_self)
  | list _ _ _ _ =>
      cases h with
      | array _ _ => exact .inr (List.mem_append_right _ List.mem_cons_self)

/-- A key store is loaded only from a text with a brace or a bracket. -/
theorem exists_opening_of_ofText
    {v : Vault}
    {text : String}
    {c : Collection}
    (h : v.ofText text = .ok c) :
    '\x7b' ∈ text.toList ∨ '[' ∈ text.toList := by
  obtain ⟨root, r, ⟨rest, hvalue, -⟩, hmeans, hcollection⟩ := exists_document_of_ofText h
  exact exists_opening_of_shaped hvalue (hmeans.shaped (Record.valid_of_collection hcollection).version)

/-- No key store is loaded from the text of a name. -/
theorem ofText_value_ne_ok
    {v : Vault}
    (name : KeyName)
    (c : Collection) :
    v.ofText name.value ≠ .ok c := by
  intro h
  rcases exists_opening_of_ofText h with hmem | hmem
  · exact absurd (name.isNameChar_of_mem hmem) (by decide)
  · exact absurd (name.isNameChar_of_mem hmem) (by decide)

/-- A document that is a list is loaded, although it has not the strict shape. -/
theorem load_listedDocument :
    FileSystem.present "keys.json" (storeOfText "[1,[]]") = true ∧
      FileSystem.read "keys.json" (storeOfText "[1,[]]") = .ok "[1,[]]" ∧
      (⟨"keys.json"⟩ : Vault).load (storeOfText "[1,[]]") = (.ok .empty, storeOfText "[1,[]]") ∧
      ∀ root, Document "[1,[]]".toList root → ¬ Record.Shaped false root := by
  let v : Vault := ⟨"keys.json"⟩
  let m := storeOfText "[1,[]]"
  have hload : (v.contents m).toOption.any (· == .empty) = true := by
    decide +kernel
  obtain ⟨c, hcontents, hempty⟩ := Action.exists_of_any_toOption hload
  obtain rfl := beq_iff_eq.1 hempty
  have htext : m.text v.path = some "[1,[]]" := Memory.text_place Memory.empty v.path _
  refine ⟨Memory.present_of_text htext, Memory.read_of_text rfl htext, load_of_contents hcontents, ?_⟩
  rintro root ⟨rest, hvalue, -⟩ hroot
  cases hroot with
  | list hlists _ _ _ => cases hlists
  | object hmembers _ _ _ =>
      obtain ⟨written, rfl, -⟩ := hmembers
      obtain ⟨gap, t, hgap, hs⟩ := exists_brace_of_object hvalue
      cases gap with
      | nil => cases hs
      | cons c gap =>
          have hc : c = '[' := (List.cons.inj hs).1.symm
          have hblank := hgap c List.mem_cons_self
          rw [hc] at hblank
          cases hblank

end Vault
end Keyring
