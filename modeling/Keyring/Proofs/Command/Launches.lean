import Keyring.Proofs.Command.Footprint
import Keyring.Proofs.Session
import Keyring.Proofs.Store.Origin

/-!
# What is launched, and when

A run launches once if a key is chosen for it, and not at all otherwise.  What is launched is the command
of the settings with the arguments as they were given, and its variables are those of the entry of the
chosen key in the file: the secret that stands there, the base URL if there is one, and nothing else.

No other command launches anything, so the launches of a session are those of its runs for which a key was
chosen, in their order: `Session.launches_after`.
-/

namespace Keyring

open Keyring.Action (Keeps)

/-- Whether variables, whose names start with a given text, hold exactly what an entry of the key store
hands over: the secret, and the base URL unless that is missing or blank. -/
structure StoredKey.Equips (k : StoredKey) (start : String) (bindings : List (String × String)) :
    Prop where
  distinct : (bindings.map Prod.fst).Nodup
  mem_iff : ∀ name value, (name, value) ∈ bindings ↔
    (name = start ++ "AUTH_TOKEN" ∧ value = k.key) ∨
      name = start ++ "BASE_URL" ∧
        ∃ raw, k.baseUrl = some raw ∧ Text.isBlankText raw = false ∧ value = Text.trimmed raw

/-- The variables for a chosen key are those of the entry that it was read from. -/
theorem Resolved.equips_bindings
    {k : StoredKey}
    (resolved : Resolved)
    (start : String)
    (hkey : k.profile = .ok resolved.key) :
    k.Equips start (resolved.bindings start) := by
  obtain ⟨-, hsecret, hurl⟩ := StoredKey.profile_eq_ok hkey
  have hbindings : resolved.bindings start =
      (start ++ "AUTH_TOKEN", k.key) ::
        ((k.baseUrl.bind Text.normalized?).map fun url => (start ++ "BASE_URL", url)).toList := by
    rw [← hurl, bindings, Profile.baseUrlText, Option.map_map, hsecret]
    rfl
  rw [hbindings]
  constructor
  · cases k.baseUrl.bind Text.normalized? with
    | none => simp
    | some url => simp
  · intro name value
    simp only [List.mem_cons, Prod.mk.injEq, Option.mem_toList, Option.map_eq_some_iff,
      Option.bind_eq_some_iff, Text.normalized?_eq_some_iff]
    constructor
    · rintro (htoken | ⟨url, ⟨raw, hraw, hblank, rfl⟩, rfl, rfl⟩)
      · exact .inl htoken
      · exact .inr ⟨rfl, raw, hraw, hblank, rfl⟩
    · rintro (htoken | ⟨rfl, raw, hraw, hblank, rfl⟩)
      · exact .inl htoken
      · exact .inr ⟨Text.trimmed raw, ⟨raw, hraw, hblank, rfl⟩, rfl, rfl⟩

namespace Context

variable {c : Context} {w : World}

theorem launches_run
    {request : LaunchRequest}
    {resolved : Resolved}
    {w₁ : World}
    (hresolve : c.chooser.resolve ⟨request.key, request.useDefault⟩ w = (.ok resolved, w₁)) :
    (c.run request w).2.launches = w.launches ++
      [⟨c.config.command, request.arguments, resolved.bindings c.config.envPrefix⟩] := by
  obtain ⟨report, hrun⟩ := run_of_resolve hresolve
  rw [hrun, launchWith, Launcher.launches_launch, Chooser.launches_of_resolve hresolve]

/-- Whether a run launches once if a key is chosen for it, with the variables of its entry in the file,
and otherwise stops for the same reason without having launched anything. -/
structure LaunchesOnce (c : Context) (request : LaunchRequest) (w : World) : Prop where
  unresolved : ∀ abort w₁,
    c.chooser.resolve ⟨request.key, request.useDefault⟩ w = (.error abort, w₁) →
      c.run request w = (.error abort, w₁) ∧ w₁.launches = w.launches
  resolved : ∀ resolved w₁,
    c.chooser.resolve ⟨request.key, request.useDefault⟩ w = (.ok resolved, w₁) →
      ∃ text record k bindings,
        FileSystem.read c.vault.path w = .ok text ∧ Record.ofText text = .ok record ∧
        k ∈ record.keys ∧ KeyName.ofText k.name = .ok resolved.key.name ∧
        (∀ k' ∈ record.keys, KeyName.ofText k'.name = .ok resolved.key.name → k' = k) ∧
        k.Equips c.config.envPrefix bindings ∧
        (c.run request w).2.launches =
          w.launches ++ [⟨c.config.command, request.arguments, bindings⟩] ∧
        ((∃ report w', c.run request w = (.ok report, w')) ↔
          ∃ w', c.launcher.launch ⟨c.config.command, request.arguments, bindings⟩ w₁ = (.ok (), w'))

theorem launchesOnce
    (c : Context)
    (request : LaunchRequest)
    (w : World) :
    c.LaunchesOnce request w where
  unresolved abort w₁ hresolve := by
    refine ⟨?_, (Chooser.idle_of_resolve_eq_error hresolve).2.launches⟩
    simp [run, hresolve]
  resolved resolved w₁ hresolve := by
    obtain ⟨keys, w₂, hcontents, hstored, -, -⟩ := Chooser.exists_of_resolve_eq_ok hresolve
    obtain ⟨text, record, k, hread, hrecord, hk, hprofile, honly⟩ :=
      Vault.exists_entry_of_mem hcontents hstored
    refine ⟨text, record, k, resolved.bindings c.config.envPrefix, hread, hrecord, hk,
      (StoredKey.profile_eq_ok hprofile).1, honly, resolved.equips_bindings _ hprofile,
      launches_run hresolve, ?_⟩
    obtain ⟨report, hrun⟩ := run_of_resolve hresolve
    rw [hrun, ← launchWith]
    cases c.launchWith resolved request.arguments w₁ with
    | mk result w' =>
        cases result with
        | error abort => simp [Except.map]
        | ok u => simp [Except.map]

end Context

namespace Turn

/-- What a command of a session launches: that of a run for which a key is chosen. -/
def launch? (t : Turn) (paths : StorePaths) (w : World) : Option Launch :=
  match t.command with
  | .run request =>
      match ((t.context paths).chooser.resolve ⟨request.key, request.useDefault⟩ (t.found w)).1 with
      | .ok resolved =>
          some ⟨t.config.command, request.arguments, resolved.bindings t.config.envPrefix⟩
      | .error _ => none
  | _ => none

theorem launches_take
    (t : Turn)
    (paths : StorePaths)
    (w : World) :
    (t.take paths w).2.launches = w.launches ++ (t.launch? paths w).toList := by
  by_cases hrun : ∃ request, t.command = .run request
  · obtain ⟨request, hcommand⟩ := hrun
    rw [take, hcommand]
    cases hresolve : (t.context paths).chooser.resolve ⟨request.key, request.useDefault⟩
        (t.found w) with
    | mk result w₁ =>
        cases result with
        | error abort =>
            have hlaunch : t.launch? paths w = none := by simp [launch?, hcommand, hresolve]
            have hstops := ((t.context paths).launchesOnce request (t.found w)).unresolved abort w₁
              hresolve
            rw [hlaunch, Context.execute, hstops.1]
            exact hstops.2.trans (List.append_nil w.launches).symm
        | ok resolved =>
            have hlaunch : t.launch? paths w =
                some ⟨t.config.command, request.arguments, resolved.bindings t.config.envPrefix⟩ := by
              simp [launch?, hcommand, hresolve]
            rw [hlaunch]
            exact Context.launches_run hresolve
  · have hlaunch : t.launch? paths w = none := by
      unfold launch?
      split
      · next request hcommand => exact absurd ⟨request, hcommand⟩ hrun
      · rfl
    have hkept : Keeps (fun x : World => x.launches = w.launches)
        ((t.context paths).execute t.command) :=
      Context.keepsLaunches_execute fun request hcommand => hrun ⟨request, hcommand⟩
    have hfound : (t.found w).launches = w.launches := rfl
    rw [hlaunch, take, hkept.snd hfound]
    exact (List.append_nil w.launches).symm

end Turn

namespace Session

/-- What the runs of a session launch, in their order. -/
def launches (paths : StorePaths) : List Turn → World → List Launch
  | [], _ => []
  | t :: turns, w => (t.launch? paths w).toList ++ launches paths turns (t.take paths w).2

/-- Every run launches once if a key is chosen for it and not at all otherwise; and after a session there
have been the launches of its runs for which a key was chosen, in their order, and no others. -/
theorem launches_after
    (paths : StorePaths)
    (turns : List Turn)
    (w : World) :
    (∀ (c : Context) (request : LaunchRequest) (w : World), c.LaunchesOnce request w) ∧
      (after paths turns w).launches = w.launches ++ launches paths turns w := by
  refine ⟨Context.launchesOnce, ?_⟩
  induction turns generalizing w with
  | nil => exact (List.append_nil w.launches).symm
  | cons t turns ih =>
      rw [after_cons, ih, t.launches_take paths w, launches, List.append_assoc]

/-- Of two runs, one names a key that is not there. -/
example :
    launches ⟨"keys.json", "last_used"⟩
      [.simple (.add ⟨"a", some "s", some " ", none, false⟩), .simple (.run ⟨some "b", false, []⟩),
        .simple (.run ⟨none, true, ["x", ""]⟩)]
      (.fresh (some .empty) .bare []) =
    [⟨Config.standard.command, ["x", ""], [(Config.standard.envPrefix ++ "AUTH_TOKEN", "s")]⟩] := by
  decide +kernel

end Session
end Keyring
