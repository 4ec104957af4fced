import Mathlib.Data.List.Dedup
import Keyring.Proofs.Designation
import Keyring.Proofs.Store.PartFaults
import Keyring.Proofs.Store.Transaction

/-!
# A collection is a map in the order of insertion

A collection comes out of calls that add keys and remove them.  Under each name it holds the key that was
added last, unless that has been removed since, and its keys stand in the order in which their names last
became present.  A key that is added under a name that is there takes the place of the old one.

* `Collection.find?_applied_iff` and `Collection.names_applied` say what one call does to the key of a name
  and to the order;
* `Collection.insertion_ordered` follows by induction on the calls, whatever collection they start with.

Choosing the default changes neither, so calls that do may stand among the others.
-/

namespace Keyring
namespace Collection

section Lists

variable {α : Type} [DecidableEq α]

/-- Of a list with new elements at its end, which are different, the last occurrences are those of the
others before, and then the new ones. -/
theorem dedup_append_of_nodup
    (l : List α)
    {new : List α}
    (h : new.Nodup) :
    (l ++ new).dedup = l.dedup.filter (fun a => a ∉ new) ++ new := by
  induction l with
  | nil => exact h.dedup
  | cons a l ih =>
      rw [List.cons_append, List.dedup_cons, List.dedup_cons, ih]
      by_cases hnew : a ∈ new
      · by_cases hl : a ∈ l
        · simp [hnew, hl]
        · simp [hnew, hl]
      · by_cases hl : a ∈ l
        · simp [hl]
        · simp [hnew, hl]

end Lists

section OneCall

variable {c : Collection} {name : KeyName} {key p : Profile}

/-- A key that is put under a name that is there takes the place of the old one. -/
theorem put_of_mem
    {keys : List Profile}
    (hnodup : (keys.map Profile.name).Nodup)
    (hmem : key.name ∈ keys.map Profile.name) :
    put key keys = keys.map fun p => if p.name = key.name then key else p := by
  induction keys with
  | nil => cases hmem
  | cons k keys ih =>
      rw [List.map_cons, List.nodup_cons] at hnodup
      by_cases hk : k.name = key.name
      · have hrest : keys.map (fun p => if p.name = key.name then key else p) = keys.map id := by
          refine List.map_congr_left fun p hp => if_neg fun hname => hnodup.1 ?_
          rw [hk, ← hname]
          exact List.mem_map_of_mem hp
        rw [put, if_pos hk, List.map_cons, if_pos hk, hrest, List.map_id]
      · have hkeys : key.name ∈ keys.map Profile.name :=
          (List.mem_cons.1 hmem).resolve_left fun hname => hk hname.symm
        rw [put, if_neg hk, List.map_cons, if_neg hk, ih hnodup.2 hkeys]

theorem keys_add_of_mem
    (h : key.name ∈ c.names) :
    (c.add key).keys = c.keys.map fun p => if p.name = key.name then key else p :=
  put_of_mem c.names_nodup h

theorem keys_add_of_not_mem
    (h : key.name ∉ c.names) :
    (c.add key).keys = c.keys ++ [key] :=
  put_of_not_mem h

/-- The keys after an addition are the new one and all of other names. -/
theorem mem_keys_add_iff :
    p ∈ (c.add key).keys ↔ p = key ∨ (p ∈ c.keys ∧ p.name ≠ key.name) := by
  by_cases hmem : key.name ∈ c.names
  · rw [keys_add_of_mem hmem, List.mem_map]
    constructor
    · rintro ⟨q, hq, rfl⟩
      split
      · exact .inl rfl
      · next hname => exact .inr ⟨hq, hname⟩
    · rintro (rfl | ⟨hp, hname⟩)
      · obtain ⟨q, hq, hname⟩ := List.mem_map.1 hmem
        exact ⟨q, hq, if_pos hname⟩
      · exact ⟨p, hp, if_neg hname⟩
  · rw [keys_add_of_not_mem hmem, List.mem_append, List.mem_singleton, or_comm]
    refine or_congr_right ⟨fun hp => ⟨hp, fun hname => hmem ?_⟩, And.left⟩
    exact hname ▸ List.mem_map_of_mem hp

theorem mem_keys_remove_iff :
    p ∈ (c.remove name).keys ↔ p ∈ c.keys ∧ p.name ≠ name := by
  simp [remove]

theorem names_add
    (c : Collection)
    (key : Profile) :
    (c.add key).names = if key.name ∈ c.names then c.names else c.names ++ [key.name] :=
  map_name_put key c.keys

theorem names_remove
    (c : Collection)
    (name : KeyName) :
    (c.remove name).names = c.names.filter fun n => n ≠ name := by
  rw [names, names, remove, List.filter_map]
  congr 1
  refine List.filter_congr fun p _ => ?_
  rw [Function.comp_apply, decide_not]
  rfl

theorem names_setDefault?
    {c' : Collection}
    (h : c.setDefault? name = some c') :
    c'.names = c.names := by
  rw [names, names, (setDefault?_eq_some h).1]

end OneCall

namespace Call

/-- Whether a call stores a key under a name. -/
def Stores (name : KeyName) (key : Profile) (call : Call) : Prop :=
  call = add key ∧ key.name = name

/-- Whether a call ends what was stored under a name, by storing a key under it or by removing it. -/
def Displaces (c : Collection) (name : KeyName) (call : Call) : Prop :=
  (∃ key, call.Stores name key) ∨ (call = remove name ∧ call.Succeeds c)

/-- The names that become present by a call. -/
def newcomers (c : Collection) (call : Call) : List KeyName :=
  (call.applied c).names.filter fun n => n ∉ c.names

end Call

/-- What one call does to the key of a name. -/
theorem find?_applied_iff
    (c : Collection)
    (call : Call)
    (name : KeyName)
    (key : Profile) :
    (call.applied c).find? name = some key ↔
      call.Stores name key ∨ (c.find? name = some key ∧ ¬ call.Displaces c name) := by
  rw [find?_eq_some_iff, find?_eq_some_iff]
  cases call with
  | add stored =>
      rw [Call.applied, mem_keys_add_iff]
      constructor
      · rintro ⟨rfl | ⟨hkey, hother⟩, rfl⟩
        · exact .inl ⟨rfl, rfl⟩
        · refine .inr ⟨⟨hkey, rfl⟩, ?_⟩
          rintro (⟨_, ⟨⟩, hname⟩ | ⟨⟨⟩, -⟩)
          exact hother hname.symm
      · rintro (⟨⟨⟩, rfl⟩ | ⟨⟨hkey, rfl⟩, hkept⟩)
        · exact ⟨.inl rfl, rfl⟩
        · refine ⟨.inr ⟨hkey, fun hname => hkept (.inl ⟨stored, rfl, hname.symm⟩)⟩, rfl⟩
  | remove removed =>
      rw [Call.applied, mem_keys_remove_iff]
      constructor
      · rintro ⟨⟨hkey, hother⟩, rfl⟩
        refine .inr ⟨⟨hkey, rfl⟩, ?_⟩
        rintro (⟨_, ⟨⟩, -⟩ | ⟨⟨⟩, -⟩)
        exact hother rfl
      · rintro (⟨⟨⟩, -⟩ | ⟨⟨hkey, rfl⟩, hkept⟩)
        refine ⟨⟨hkey, ?_⟩, rfl⟩
        rintro rfl
        exact hkept (.inr ⟨rfl, contains_iff.2 (List.mem_map_of_mem hkey)⟩)
  | setDefault chosen =>
      have hkeys : ((Call.setDefault chosen).applied c).keys = c.keys := by
        cases hset : c.setDefault? chosen with
        | none => rw [Call.applied, hset, Option.getD_none]
        | some c' => rw [Call.applied, hset, Option.getD_some, (setDefault?_eq_some hset).1]
      rw [hkeys]
      constructor
      · intro hkey
        refine .inr ⟨hkey, ?_⟩
        rintro (⟨_, ⟨⟩, -⟩ | ⟨⟨⟩, -⟩)
      · rintro (⟨⟨⟩, -⟩ | ⟨hkey, -⟩)
        exact hkey

/-- What one call does to the order: the names that stay keep theirs, and those that become present come
after them. -/
theorem names_applied
    (c : Collection)
    (call : Call) :
    (call.applied c).names =
      c.names.filter (fun n => n ∈ (call.applied c).names) ++ call.newcomers c := by
  -- A call that lets no new name in only leaves names out.
  have hleft : ∀ {p : KeyName → Bool}, (call.applied c).names = c.names.filter p →
      (call.applied c).names =
        c.names.filter (fun n => n ∈ (call.applied c).names) ++ call.newcomers c := by
    intro p hnames
    have hnone : call.newcomers c = [] := by
      rw [Call.newcomers, hnames, List.filter_eq_nil_iff]
      intro n hn
      simpa using (List.mem_filter.1 hn).1
    rw [hnone, List.append_nil, hnames]
    refine List.filter_congr fun n hn => ?_
    simp [hn]
  have hsame : (call.applied c).names = c.names → (call.applied c).names = c.names.filter fun _ => true :=
    fun h => h.trans (List.filter_eq_self.2 fun _ _ => rfl).symm
  cases call with
  | add key =>
      by_cases hmem : key.name ∈ c.names
      · exact hleft (hsame ((c.names_add key).trans (if_pos hmem)))
      · have hnames : ((Call.add key).applied c).names = c.names ++ [key.name] :=
          (c.names_add key).trans (if_neg hmem)
        have hstay : c.names.filter (fun n => n ∈ c.names ++ [key.name]) = c.names :=
          List.filter_eq_self.2 fun n hn => decide_eq_true (List.mem_append_left _ hn)
        have hnone : c.names.filter (fun n => n ∉ c.names) = [] :=
          List.filter_eq_nil_iff.2 fun n hn => by simpa using hn
        rw [Call.newcomers, hnames, hstay, List.filter_append, hnone, List.nil_append]
        simp [hmem]
  | remove name => exact hleft (c.names_remove name)
  | setDefault chosen =>
      cases hset : c.setDefault? chosen with
      | none => exact hleft (hsame (by rw [Call.applied, hset, Option.getD_none]))
      | some c' =>
          exact hleft (hsame (by rw [Call.applied, hset, Option.getD_some, names_setDefault? hset]))

/-- The collection after calls one after the other. -/
def after (start : Collection) (calls : List Call) : Collection :=
  calls.foldl Call.applied start

/-- The names that became present by calls, in the order in which they did. -/
def laterArrivals (start : Collection) : List Call → List KeyName
  | [] => []
  | call :: calls => call.newcomers start ++ laterArrivals (call.applied start) calls

/-- The names in the order in which they became present, each as often as it did: first those that were
there from the start. -/
def arrivals (start : Collection) (calls : List Call) : List KeyName :=
  start.names ++ laterArrivals start calls

/-- Whether a history leaves a key under a name: the one that was added last under it, unless that has been
removed since, or the one that was there from the start, unless that has ever been replaced or removed. -/
def Leaves (start : Collection) (calls : List Call) (name : KeyName) (key : Profile) : Prop :=
  History.Since (fun _ => Call.Stores name key)
      (fun passed => Call.Displaces (start.after passed) name) calls ∨
    ((key ∈ start.keys ∧ key.name = name) ∧
      History.Never (fun passed => Call.Displaces (start.after passed) name) calls)

theorem after_append_singleton
    (start : Collection)
    (calls : List Call)
    (call : Call) :
    start.after (calls ++ [call]) = call.applied (start.after calls) := by
  rw [after, List.foldl_append]
  rfl

theorem laterArrivals_append_singleton
    (start : Collection)
    (calls : List Call)
    (call : Call) :
    laterArrivals start (calls ++ [call]) =
      laterArrivals start calls ++ call.newcomers (start.after calls) := by
  induction calls generalizing start with
  | nil => exact List.append_nil _
  | cons first calls ih =>
      rw [List.cons_append, laterArrivals, laterArrivals, ih, List.append_assoc]
      rfl

/-- After calls one after the other, a name has the key that their history leaves it. -/
theorem find?_after_iff
    (start : Collection)
    (calls : List Call)
    (name : KeyName)
    (key : Profile) :
    (start.after calls).find? name = some key ↔ Leaves start calls name key := by
  induction calls using List.reverseRecOn with
  | nil =>
      change start.find? name = some key ↔ _
      rw [find?_eq_some_iff, Leaves, iff_false_intro (History.not_since_nil _ _), false_or,
        and_iff_left (History.never_nil _)]
  | append_singleton calls call ih =>
      rw [after_append_singleton, find?_applied_iff, ih, Leaves, Leaves, History.since_append_iff,
        History.never_append_iff]
      tauto

/-- After calls one after the other, the names stand in the order in which each became present last. -/
theorem names_after
    (start : Collection)
    (calls : List Call) :
    (start.after calls).names =
      (arrivals start calls).dedup.filter fun n => n ∈ (start.after calls).names := by
  induction calls using List.reverseRecOn with
  | nil =>
      have hnodup : start.names.Nodup := start.names_nodup
      rw [arrivals, laterArrivals, List.append_nil, hnodup.dedup]
      exact (List.filter_eq_self.2 fun n hn => decide_eq_true hn).symm
  | append_singleton calls call ih =>
      let c := start.after calls
      let new := call.newcomers c
      have hnodup : new.Nodup := (call.applied c).names_nodup.filter _
      have hmem : ∀ n, n ∈ new ↔ n ∈ (call.applied c).names ∧ n ∉ c.names := by simp [new, Call.newcomers]
      have hnew : new.filter (fun n => n ∈ (call.applied c).names) = new :=
        List.filter_eq_self.2 fun n hn => decide_eq_true ((hmem n).1 hn).1
      have hold : (arrivals start calls).dedup.filter
            (fun n => decide (n ∈ (call.applied c).names) && decide (n ∉ new)) =
          c.names.filter fun n => n ∈ (call.applied c).names := by
        rw [ih, List.filter_filter]
        refine List.filter_congr fun n _ => ?_
        rw [Bool.eq_iff_iff]
        simp only [Bool.and_eq_true, decide_eq_true_eq, hmem]
        tauto
      rw [after_append_singleton, arrivals, laterArrivals_append_singleton, ← List.append_assoc,
        ← arrivals, dedup_append_of_nodup _ hnodup, List.filter_append, List.filter_filter, hold, hnew]
      exact names_applied c call

/-- A collection that is built of given keys is a map in the order of insertion, and stays one through calls
one after the other.  No name occurs twice.  A name has the key that the history leaves it, and removing it
answers whether it has one.  The names stand in the order in which each became present last; a key that is
added under a name that is there takes the place of the old one. -/
theorem insertion_ordered
    {keys : List Profile}
    {defaultName : Option KeyName}
    {start : Collection}
    (hstart : ofParts keys defaultName = .ok start)
    (calls : List Call) :
    start.keys = keys ∧
      (start.after calls).keys.Pairwise (fun p q => p.name ≠ q.name) ∧
      (∀ name key, (start.after calls).find? name = some key ↔ Leaves start calls name key) ∧
      (∀ name, ∃ found,
        (Change.remove name).applied (start.after calls) =
            .ok (.removed found, (start.after calls).remove name) ∧
          (found = true ↔ ∃ key, (start.after calls).find? name = some key)) ∧
      (start.after calls).names =
        ((arrivals start calls).dedup.filter fun n => n ∈ (start.after calls).names) ∧
      ∀ key, key.name ∈ (start.after calls).names →
        ((start.after calls).add key).keys =
          (start.after calls).keys.map fun p => if p.name = key.name then key else p := by
  refine ⟨(ofParts_eq_ok_iff.1 hstart).1, List.pairwise_map.1 (start.after calls).names_nodup,
    find?_after_iff start calls, ?_, names_after start calls, fun _ => keys_add_of_mem⟩
  intro name
  exact ⟨(start.after calls).contains name, rfl, Option.isSome_iff_exists⟩

section Example

/-- A key that is replaced by another one of its name. -/
def bystander : Profile :=
  .create ⟨"bystander", by decide, by decide⟩ "k" none none ⟨0⟩

/-- Two keys, the first of which is the default. -/
def ofTwo : Collection :=
  (Collection.empty.add Vault.replacement).add bystander

/-- Another key under the name of the first one. -/
def renewed : Profile :=
  .create Vault.replacement.name "renewed" none none ⟨0⟩

/-- Calls that remove the first key, replace the other, use the first name again, and remove what is not
there. -/
def renewal : List Call :=
  [.remove renewed.name, .add (.create bystander.name "changed" none none ⟨0⟩), .add renewed,
    .remove ⟨"nobody", by decide, by decide⟩]

theorem insertion_ordered_renewal :
    ofParts ofTwo.keys ofTwo.defaultName = .ok ofTwo ∧
      (ofTwo.after renewal).find? renewed.name = some renewed ∧
      (ofTwo.after renewal).names = [bystander.name, renewed.name] := by
  have hstart := ofTwo.ofParts_parts
  obtain ⟨-, -, hfind, -, hnames, -⟩ := insertion_ordered hstart renewal
  refine ⟨hstart, (hfind renewed.name renewed).2 (.inl ?_), hnames.trans (by decide +kernel)⟩
  -- The key was added by the last call but one, and the last one does not find its name.
  refine ⟨renewal.take 2, .add renewed, [.remove ⟨"nobody", by decide, by decide⟩], rfl, ⟨rfl, rfl⟩, ?_⟩
  refine (History.never_append_iff _ [] _).2 ⟨History.never_nil _, ?_⟩
  rintro (⟨key, hadd, -⟩ | ⟨hname, -⟩)
  · cases hadd
  · exact absurd (Call.remove.inj hname) (by decide)

end Example

end Collection
end Keyring
