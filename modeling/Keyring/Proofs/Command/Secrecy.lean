import Keyring.Program
import Keyring.Proofs.Command.Twins
import Keyring.Proofs.Session

/-!
# What commands show of secrets

A command that is carried out in twins ends in the same way in both, with the same report or failure, and
leaves twins: `Context.agree_execute`.  To add or change a key may read different secrets, as long as these
have the same mask.  A launch needs the same machine in both, and a program that does the same with either
token.

So in two sessions that differ in secrets only nothing shows which of the two it is, except the token that a
launched program is given: `Session.indistinguishable_transcript`.
-/

namespace Keyring

open Keyring.Action (Agree)
open World (Twins Together conceals_twins)

namespace Context

variable {c : Context}

/-- What is known of twins after a step that yields the same in both. -/
abbrev Same {α : Type} (c : Context) (a b : α) (s t : World) : Prop :=
  a = b ∧ Twins c.vault s t

theorem agree_orCrash
    {α : Type}
    {r r' : Option α}
    (h : r = r') :
    Agree (Twins c.vault) (.orCrash r) (.orCrash r') c.Same (Twins c.vault) :=
  Agree.orCrash h fun _ _ hst => hst

theorem agree_pure
    {α : Type}
    {a b : α}
    (h : a = b) :
    Agree (Twins c.vault) (pure a : Action World Abort α) (pure b) c.Same
      (Twins c.vault) :=
  Agree.pure fun _ _ hst => ⟨h, hst⟩

/-- What is done at a later moment. -/
theorem agree_later
    {α : Type}
    {x y : Action World Abort α}
    {Q : α → α → World → World → Prop}
    (h : Agree (Twins c.vault) x y Q (Twins c.vault)) :
    Agree (Twins c.vault) (later x) (later y) Q (Twins c.vault) :=
  fun _ _ hst => h _ _ ((conceals_twins c.vault).elapse hst)

/-- Local time is the same in two worlds. -/
abbrev SameOffset (s t : World) : Prop :=
  s.machine.offset = t.machine.offset

theorem agree_list :
    Agree (fun s t => SameOffset s t ∧ Twins c.vault s t) c.list c.list c.Same (Twins c.vault) := by
  refine (Vault.agree_load (fun _ _ hst => hst.2) fun _ _ hst => hst.2).bind fun keys keys' =>
    Agree.assume fun h => ?_
  refine (Agree.view fun _ _ hst => hst.1).bind fun offset offset' => Agree.assume ?_
  rintro rfl
  have hdata : keys.description? = keys'.description? := by
    rw [← Collection.description?_veiled, h, Collection.description?_veiled]
  have htext : keys.listing? offset = keys'.listing? offset := by
    rw [← Collection.listing?_veiled, h, Collection.listing?_veiled]
  refine Agree.mono ?_ (fun _ _ hst => hst.2) fun _ _ _ _ hq => hq
  refine (agree_orCrash hdata).bind fun data data' => Agree.assume fun hdata => ?_
  refine (agree_orCrash htext).bind fun text text' => Agree.assume fun htext => agree_pure ?_
  rw [hdata, htext]

theorem agree_current :
    Agree (fun s t => SameOffset s t ∧ Twins c.vault s t) c.current c.current c.Same (Twins c.vault) := by
  refine (Vault.agree_getDefault (fun _ _ hst => hst.2) fun _ _ hst => hst.2).bind fun p q =>
    Agree.assume fun h => ?_
  rcases eq_none_or_eq_some_of_map_eq h with ⟨rfl, rfl⟩ | ⟨p, q, rfl, rfl, hveiled⟩
  · exact Agree.pure fun _ _ hst => ⟨rfl, hst.2⟩
  · refine (Agree.view fun _ _ hst => hst.1).bind fun offset offset' => Agree.assume ?_
    rintro rfl
    have hdata : p.description? true = q.description? true := by
      rw [← Profile.description?_veiled, hveiled, Profile.description?_veiled]
    have hline : p.line? offset = q.line? offset := by
      rw [← Profile.line?_veiled, hveiled, Profile.line?_veiled]
    refine Agree.mono ?_ (fun _ _ hst => hst.2) fun _ _ _ _ hq => hq
    refine (agree_orCrash hdata).bind fun data data' => Agree.assume fun hdata => ?_
    refine (agree_orCrash hline).bind fun line line' => Agree.assume fun hline => agree_pure ?_
    rw [hdata, hline]

theorem agree_store
    {before before' : Collection}
    {p q : Profile}
    (hbefore : before.veiled = before'.veiled)
    (h : p.veiled = q.veiled) :
    Agree (Twins c.vault) (c.store before p) (c.store before' q)
      (fun _ _ => Twins c.vault) (Twins c.vault) := by
  have hname : p.name = q.name := (congrArg Profile.name h :)
  have hcontains : before.contains p.name = before'.contains q.name := by
    rw [← Collection.contains_veiled, hbefore, Collection.contains_veiled, hname]
  exact Agree.ite (by rw [hcontains]) (fun _ => Vault.agree_update h) fun _ => Vault.agree_add h

theorem confirmation_veiled (before : Collection) (key : Profile) :
    NewKey.confirmation before.veiled key.veiled = NewKey.confirmation before key := by
  simp only [NewKey.confirmation, Profile.name_veiled, Profile.masked_veiled,
    Collection.contains_veiled, Collection.isEmpty_veiled]

theorem agree_add
    (new : NewKey) :
    Agree
      (fun s t => ReadsAlike (new.secret.getD NewKey.standardSource) s t ∧
        Twins c.vault s t)
      (c.add new) (c.add new) c.Same (Twins c.vault) := by
  refine (Agree.check_self _ fun _ _ hst => hst.2).bind fun name name' =>
    Agree.assume ?_
  rintro rfl
  refine (Agree.check_self _ fun _ _ hst => hst.2).bind fun baseUrl baseUrl' =>
    Agree.assume ?_
  rintro rfl
  refine (Vault.agree_load (fun _ _ hst => hst.2) fun _ _ hst => hst.2).bind fun before before' =>
    Agree.assume fun hbefore => ?_
  have hcontains : before.contains name = before'.contains name := by
    rw [← Collection.contains_veiled, hbefore, Collection.contains_veiled]
  refine Agree.ite (by rw [hcontains]) (fun _ => Agree.fail _ fun _ _ hst => hst.2) fun _ => ?_
  refine (agree_secretFrom _).bind fun secret secret' => Agree.assume fun hmask => ?_
  let made (secret : String) : Profile :=
    .create name secret baseUrl (new.note.bind Text.normalized?) c.now
  have hmade : (made secret).veiled = (made secret').veiled :=
    Profile.veiled_withSecret_eq (p := made "") (q := made "") rfl hmask
  refine (agree_later (agree_store hbefore hmade)).bind fun _ _ => ?_
  have hflag : (before.isEmpty || before.isDefault name) =
      (before'.isEmpty || before'.isDefault name) := by
    rw [← Collection.isEmpty_veiled, ← Collection.isDefault_veiled, hbefore,
      Collection.isEmpty_veiled, Collection.isDefault_veiled]
  have hdata : (made secret).description? (before.isEmpty || before.isDefault name) =
      (made secret').description? (before'.isEmpty || before'.isDefault name) := by
    rw [hflag, ← Profile.description?_veiled, hmade, Profile.description?_veiled]
  have htext : NewKey.confirmation before (made secret) =
      NewKey.confirmation before' (made secret') := by
    rw [← confirmation_veiled, hbefore, hmade, confirmation_veiled]
  refine (agree_orCrash hdata).bind fun data data' => Agree.assume fun hdata => agree_pure ?_
  rw [hdata, hcontains, htext]

theorem agree_edit
    (change : KeyEdit) :
    Agree
      (fun s t => (∀ spec ∈ change.secret, ReadsAlike spec s t) ∧ Twins c.vault s t)
      (c.edit change) (c.edit change) c.Same (Twins c.vault) := by
  refine (Agree.check_self _ fun _ _ hst => hst.2).bind fun name name' =>
    Agree.assume ?_
  rintro rfl
  refine Agree.ite Iff.rfl (fun _ => Agree.fail _ fun _ _ hst => hst.2) fun _ => ?_
  refine (Vault.agree_find (fun _ _ hst => hst.2) (fun _ _ hst => hst.2) name).bind fun p q =>
    Agree.assume fun hfound => ?_
  rcases eq_none_or_eq_some_of_map_eq hfound with ⟨rfl, rfl⟩ | ⟨old, old', rfl, rfl, hold⟩
  · exact Agree.fail _ fun _ _ hst => hst.2
  have hurl : (change.changeBaseUrl old).map Profile.veiled =
      (change.changeBaseUrl old').map Profile.veiled := by
    rw [map_veiled_changeBaseUrl, map_veiled_changeBaseUrl, hold]
  refine (Agree.check hurl fun _ _ hst => hst.2).bind fun moved moved' =>
    Agree.assume fun hmoved => ?_
  have hnoted : (change.changeNote moved).veiled = (change.changeNote moved').veiled := by
    rw [veiled_changeNote, veiled_changeNote, hmoved]
  refine (agree_changeSecret change hnoted).bind fun key key' => Agree.assume fun hkey => ?_
  refine (agree_later (Vault.agree_update hkey)).bind fun _ _ => ?_
  have hreload := Vault.agree_getDefault (v := c.vault) (fun _ _ hst => hst) fun _ _ hst => hst
  refine (agree_later hreload).bind fun standing standing' => Agree.assume fun hstanding => ?_
  have hflag : (standing.any fun p => p.name == name) = standing'.any fun p => p.name == name := by
    rcases eq_none_or_eq_some_of_map_eq hstanding with ⟨rfl, rfl⟩ | ⟨p, q, rfl, rfl, hpq⟩
    · rfl
    · have hname : p.name = q.name := (congrArg Profile.name hpq :)
      rw [Option.any_some, Option.any_some, hname]
  have hdata : key.description? (standing.any fun p => p.name == name) =
      key'.description? (standing'.any fun p => p.name == name) := by
    rw [hflag, ← Profile.description?_veiled, hkey, Profile.description?_veiled]
  have htext : change.confirmation key = change.confirmation key' := by
    have hname : key.name = key'.name := (congrArg Profile.name hkey :)
    unfold KeyEdit.confirmation
    rw [hname]
  refine (agree_orCrash hdata).bind fun data data' => Agree.assume fun hdata => agree_pure ?_
  rw [hdata, htext]

theorem agree_removeStored
    (name : KeyName)
    (wasDefault : Bool) :
    Agree (Twins c.vault) (c.removeStored name wasDefault) (c.removeStored name wasDefault)
      c.Same (Twins c.vault) := by
  refine (agree_later (Vault.agree_remove name)).bind fun _ _ => ?_
  refine Agree.bind (Q := fun _ _ => Twins c.vault) (Agree.change fun s t hst => ?_)
    fun _ _ => agree_pure rfl
  rw [c.marker.get?_alike (conceals_twins c.vault) hst]
  split
  · exact c.marker.clear_alike (conceals_twins c.vault) hst
  · exact hst

theorem agree_remove
    (raw : String)
    (confirmed : Bool) :
    Agree (Twins c.vault) (c.remove raw confirmed) (c.remove raw confirmed) c.Same
      (Twins c.vault) := by
  refine (Agree.check_self _ fun _ _ hst => hst).bind fun name name' => Agree.assume ?_
  rintro rfl
  refine Vault.agree_load_twins.bind fun keys keys' => Agree.assume fun h => ?_
  have hcontains : keys.contains name = keys'.contains name := by
    rw [← Collection.contains_veiled, h, Collection.contains_veiled]
  have hdefault : keys.isDefault name = keys'.isDefault name := by
    rw [← Collection.isDefault_veiled, h, Collection.isDefault_veiled]
  rw [hcontains, hdefault]
  have hdecided : ∀ agreed agreed' : Bool, agreed = agreed' →
      Agree (Twins c.vault)
        (if agreed then c.removeStored name (keys'.isDefault name)
          else pure (Removal.cancelled name))
        (if agreed' then c.removeStored name (keys'.isDefault name)
          else pure (Removal.cancelled name))
        c.Same (Twins c.vault) := by
    rintro agreed _ rfl
    exact Agree.ite Iff.rfl (fun _ => agree_removeStored name _) fun _ => agree_pure rfl
  refine Agree.ite Iff.rfl (fun _ => ?_) fun _ => Agree.fail _ fun _ _ hst => hst
  simp only
  split
  · exact (agree_pure rfl).bind fun agreed agreed' => Agree.assume (hdecided agreed agreed')
  · exact (agree_confirm name _).bind fun agreed agreed' => Agree.assume (hdecided agreed agreed')

theorem agree_use
    (raw : String) :
    Agree (Twins c.vault) (c.use raw) (c.use raw) c.Same (Twins c.vault) := by
  refine (Agree.check_self _ fun _ _ hst => hst).bind fun name name' => Agree.assume ?_
  rintro rfl
  exact (Vault.agree_setDefault name).bind fun _ _ => agree_pure rfl

/-- Whether two invocations end in the same way and write the same, and where the files are on disk, leave
trees there that differ in secrets only. -/
def StartsAlike (v : Vault) (s t : World) (i j : Host.Invocation) : Prop :=
  (s.machine.start i).1 = (t.machine.start j).1 ∧
    (s.memory = none → Disk.Alike v (s.machine.start i).2.disk (t.machine.start j).2.disk)

/-- Whether a program that is launched with either of two keys does the same, if it is launched on the machine
at all. -/
def LaunchesAlike (c : Context) (request : LaunchRequest) (s t : World) : Prop :=
  c.launcher = .machine → ∀ a b s' t',
    c.chooser.resolve ⟨request.key, request.useDefault⟩ s = (.ok a, s') →
    c.chooser.resolve ⟨request.key, request.useDefault⟩ t = (.ok b, t') →
      StartsAlike c.vault s' t'
        ⟨c.config.command, request.arguments, a.bindings c.config.envPrefix, s'.input⟩
        ⟨c.config.command, request.arguments, b.bindings c.config.envPrefix, t'.input⟩

theorem veiled_launch
    (command start : String)
    (arguments : List String)
    {a b : Resolved}
    (h : a.key.veiled = b.key.veiled) :
    Launch.veiled ⟨command, arguments, a.bindings start⟩ =
      Launch.veiled ⟨command, arguments, b.bindings start⟩ := by
  have hmask : mask a.key.secret = mask b.key.secret := (congrArg Profile.secret h :)
  have hurl : a.key.baseUrl = b.key.baseUrl := (congrArg Profile.baseUrl h :)
  simp only [Launch.veiled, Resolved.bindings, hmask, hurl]

theorem twins_start
    {v : Vault}
    {i j : Host.Invocation}
    {s t : World}
    (hst : Twins v s t)
    (h : StartsAlike v s t i j) :
    (s.start i).1 = (t.start j).1 ∧ Twins v (s.start i).2 (t.start j).2 := by
  obtain ⟨hresult, halike⟩ := h
  have hfiles : World.FilesAlike v { s with machine := (s.machine.start i).2 }
      { t with machine := (t.machine.start j).2 } := by
    cases hst.files with
    | inMemory hmemory₁ hmemory₂ hfiles => exact .inMemory hmemory₁ hmemory₂ hfiles
    | onDisk hdisk₁ hdisk₂ _ => exact .onDisk hdisk₁ hdisk₂ (halike hdisk₁)
  unfold World.start
  cases hs : s.machine.start i with
  | mk r m =>
      cases ht : t.machine.start j with
      | mk r' m' =>
          rw [hs, ht] at hresult hfiles
          cases hresult
          cases r with
          | error fault =>
              exact ⟨rfl, hfiles, hst.terminal, hst.output, hst.consultations, hst.pickers, hst.launches⟩
          | ok f =>
              exact ⟨rfl, hfiles.of_eq rfl rfl rfl rfl, hst.terminal.write _, hst.output,
                hst.consultations, hst.pickers, hst.launches⟩

theorem twins_note
    {v : Vault}
    {launch launch' : Launch}
    {s t : World}
    (hst : Twins v s t)
    (h : launch.veiled = launch'.veiled) :
    Twins v (Launcher.note launch s) (Launcher.note launch' t) where
  files := hst.files.of_eq rfl rfl rfl rfl
  terminal := hst.terminal
  output := hst.output
  consultations := hst.consultations
  pickers := hst.pickers
  launches := by
    simp only [Launcher.note, List.map_append, hst.launches, List.map_cons, h]

theorem twins_startOnMachine
    {v : Vault}
    {launch launch' : Launch}
    {s t : World}
    (hst : Twins v s t)
    (hcommand : launch.command = launch'.command)
    (h : StartsAlike v s t ⟨launch.command, launch.arguments, launch.bindings, s.input⟩
      ⟨launch'.command, launch'.arguments, launch'.bindings, t.input⟩) :
    (Launcher.startOnMachine launch s).1 = (Launcher.startOnMachine launch' t).1 ∧
      Twins v (Launcher.startOnMachine launch s).2 (Launcher.startOnMachine launch' t).2 := by
  obtain ⟨hresult, hafter⟩ := twins_start hst h
  unfold Launcher.startOnMachine
  cases hs : s.start ⟨launch.command, launch.arguments, launch.bindings, s.input⟩ with
  | mk result u =>
      cases ht : t.start ⟨launch'.command, launch'.arguments, launch'.bindings, t.input⟩ with
      | mk result' u' =>
          rw [hs, ht] at hresult hafter
          cases hresult
          cases result with
          | error fault => exact ⟨by rw [hcommand], hafter⟩
          | ok f =>
              have hprinted : u.output ++ Text.decodeLossy f.output =
                  u'.output ++ Text.decodeLossy f.output := by
                rw [hafter.output]
              exact ⟨by rw [hcommand], hafter.files.of_eq rfl rfl rfl rfl, hafter.terminal, hprinted,
                hafter.consultations, hafter.pickers, hafter.launches⟩

/-- A launch in twins ends in the same way if the program does. -/
theorem agree_launch
    {v : Vault}
    {l : Launcher}
    {launch launch' : Launch}
    {s t : World}
    (hst : Twins v s t)
    (h : launch.veiled = launch'.veiled)
    (hmachine : l = .machine →
      StartsAlike v s t ⟨launch.command, launch.arguments, launch.bindings, s.input⟩
        ⟨launch'.command, launch'.arguments, launch'.bindings, t.input⟩) :
    Agree (fun s' t' => s = s' ∧ t = t') (l.launch launch) (l.launch launch')
      (fun a b s t => a = b ∧ Twins v s t) (Twins v) := by
  have hcommand : launch.command = launch'.command := (congrArg Launch.command h :)
  have hnoted := twins_note hst h
  refine Agree.of_fst ?_
  rintro _ _ ⟨rfl, rfl⟩
  cases l with
  | recording status =>
      have hrecorded : Launcher.recorded launch.command status = Launcher.recorded launch'.command status := by
        rw [hcommand]
      exact ⟨congrArg (Except.mapError Abort.failed) hrecorded, hnoted⟩
  | machine =>
      obtain ⟨hresult, hafter⟩ := twins_startOnMachine hnoted hcommand (hmachine rfl)
      exact ⟨congrArg (Except.mapError Abort.failed) hresult, hafter⟩

/-- A run in twins that are together chooses the same key, and ends in the same way if the program does. -/
theorem agree_run
    (request : LaunchRequest) :
    Agree (fun s t => LaunchesAlike c request s t ∧ Together c.vault s t)
      (c.run request) (c.run request) c.Same (Twins c.vault) := by
  rintro s t ⟨hlaunch, hst⟩
  rcases Chooser.agree_resolve (c := c.chooser) ⟨request.key, request.useDefault⟩ s t hst with
    ⟨a, b, s', t', hs, ht, ⟨hkey, hsource⟩, hafter⟩ | ⟨e, s', t', hs, ht, hafter⟩
  · have hlaunched : Agree (fun u v => s' = u ∧ t' = v)
        (c.launchWith a request.arguments) (c.launchWith b request.arguments) c.Same (Twins c.vault) :=
      agree_launch hafter.toTwins
        (veiled_launch c.config.command c.config.envPrefix request.arguments hkey)
        fun hmachine => hlaunch hmachine a b s' t' hs ht
    have hname : a.key.name = b.key.name := (congrArg Profile.name hkey :)
    have hreport : Report.silent
          (.object [("key", .string a.key.name.value), ("source", .string a.source.name),
            ("command", .string c.config.command)]) =
        Report.silent
          (.object [("key", .string b.key.name.value), ("source", .string b.source.name),
            ("command", .string c.config.command)]) := by
      rw [hname, hsource]
    have hrest := hlaunched.bind fun _ _ => Agree.assume fun _ => agree_pure (c := c) hreport
    rw [run, Action.bind_apply, Action.bind_apply, hs, ht]
    exact hrest s' t' ⟨rfl, rfl⟩
  · refine .inr ⟨e, s', t', ?_, ?_, hafter.toTwins⟩
    · rw [run, Action.bind_apply, hs]
    · rw [run, Action.bind_apply, ht]

/-- What two worlds must have in common for a command, beside being twins. -/
def Prepared (c : Context) : Command → World → World → Prop
  | .list, s, t => SameOffset s t
  | .current, s, t => SameOffset s t
  | .add new, s, t => ReadsAlike (new.secret.getD NewKey.standardSource) s t
  | .edit change, s, t => ∀ spec ∈ change.secret, ReadsAlike spec s t
  | .run request, s, t => Together c.vault s t ∧ c.LaunchesAlike request s t
  | _, _, _ => True

/-- Every command ends in the same way in twins, and leaves twins. -/
theorem agree_execute
    (command : Command) :
    Agree (fun s t => c.Prepared command s t ∧ Twins c.vault s t)
      (c.execute command) (c.execute command) c.Same (Twins c.vault) := by
  cases command with
  | list => exact agree_list
  | current => exact agree_current
  | add new => exact agree_add new
  | edit change => exact agree_edit change
  | remove raw confirmed =>
      exact (agree_remove raw confirmed).mono (fun _ _ hst => hst.2) fun _ _ _ _ hq => hq
  | use raw => exact (agree_use raw).mono (fun _ _ hst => hst.2) fun _ _ _ _ hq => hq
  | run request =>
      exact (agree_run request).mono (fun _ _ hst => hst.1.symm) fun _ _ _ _ hq => hq
  | completion shell => exact (agree_pure rfl).mono (fun _ _ hst => hst.2) fun _ _ _ _ hq => hq

end Context

/-- Whether the commands of two sessions are the same, with the same arguments, answers, selectors, launcher,
settings, clock and scripts, and differ at most in secrets with the same mask.  What has become of the machine
in the meantime must not tell the two apart. -/
structure Turn.Alike (paths : StorePaths) (t₁ t₂ : Turn) (w₁ w₂ : World) : Prop where
  command : t₁.command = t₂.command
  selectors : t₁.selectors = t₂.selectors
  launcher : t₁.launcher = t₂.launcher
  config : t₁.config = t₂.config
  now : t₁.now = t₂.now
  scripts : t₁.scripts = t₂.scripts
  replies : t₁.replies = t₂.replies
  keyboard : t₁.entries.isSome = t₂.entries.isSome
  disks :
    w₁.memory = none →
      Disk.Alike ⟨paths.keys⟩ (t₁.found w₁).machine.disk (t₂.found w₂).machine.disk
  prepared : (t₁.context paths).Prepared t₁.command (t₁.found w₁) (t₂.found w₂)

/-- Two outcomes of a command, with the worlds that are left, between which nothing that can be seen
differs: the report or failure, what is printed of it in any presentation together with all that appeared
before and the exit status, and the worlds except for secrets with the same mask. -/
structure Indistinguishable (paths : StorePaths) (r₁ r₂ : Except Abort Report × World) : Prop where
  outcome : r₁.1 = r₂.1
  printed : ∀ p : Presentation,
    { Program.concluded p r₁ with machine := r₂.2.machine } = Program.concluded p r₂
  worlds : Twins ⟨paths.keys⟩ r₁.2 r₂.2

theorem Indistinguishable.of_twins
    {paths : StorePaths}
    {r₁ r₂ : Except Abort Report × World}
    (houtcome : r₁.1 = r₂.1)
    (hworlds : Twins ⟨paths.keys⟩ r₁.2 r₂.2) :
    Indistinguishable paths r₁ r₂ := by
  refine ⟨houtcome, fun p => ?_, hworlds⟩
  have hprinted : ∀ status output complaint,
      { Program.outcome status output complaint r₁.2 with machine := r₂.2.machine } =
        Program.outcome status output complaint r₂.2 := by
    intro status output complaint
    obtain ⟨entries, hentries⟩ := hworlds.terminal.exists_entries
    simp only [Program.outcome, hworlds.output, hentries]
  obtain ⟨outcome, w₁⟩ := r₁
  obtain ⟨outcome', w₂⟩ := r₂
  cases houtcome
  cases outcome with
  | ok report => exact hprinted _ _ _
  | error e =>
      cases e with
      | crashed => exact hprinted _ _ _
      | failed f =>
          simp only [Program.concluded]
          split
          · exact hprinted _ _ _
          · exact hprinted _ _ _

namespace Session

variable {paths : StorePaths}

/-- Whether two sessions are the same, command by command, but for secrets with the same mask. -/
def Alike (paths : StorePaths) : List Turn → List Turn → World → World → Prop
  | [], [], _, _ => True
  | t₁ :: turns₁, t₂ :: turns₂, w₁, w₂ =>
      t₁.Alike paths t₂ w₁ w₂ ∧
        Alike paths turns₁ turns₂ (t₁.take paths w₁).2 (t₂.take paths w₂).2
  | _, _, _, _ => False

/-- Two commands find twins where the session has left twins, unless the machine has been changed so that
they can be told apart. -/
theorem twins_found
    {v : Vault}
    {t₁ t₂ : Turn}
    {w₁ w₂ : World}
    (hworlds : Twins v w₁ w₂)
    (hreplies : t₁.replies = t₂.replies)
    (hkeyboard : t₁.entries.isSome = t₂.entries.isSome)
    (hdisks : w₁.memory = none → Disk.Alike v (t₁.found w₁).machine.disk (t₂.found w₂).machine.disk) :
    Twins v (t₁.found w₁) (t₂.found w₂) := by
  refine ⟨?_, ⟨?_, hkeyboard⟩, hworlds.output, hworlds.consultations, hworlds.pickers, hworlds.launches⟩
  · cases hworlds.files with
    | inMemory hmemory₁ hmemory₂ halike => exact .inMemory hmemory₁ hmemory₂ halike
    | onDisk hdisk₁ hdisk₂ _ => exact .onDisk hdisk₁ hdisk₂ (hdisks hdisk₁)
  · obtain ⟨entries, hentries⟩ := hworlds.terminal.exists_entries
    simp only [Turn.found, hentries, hreplies]

/-- One command of two sessions in twins. -/
theorem indistinguishable_take
    {t₁ t₂ : Turn}
    {w₁ w₂ : World}
    (hworlds : Twins ⟨paths.keys⟩ w₁ w₂)
    (hturns : t₁.Alike paths t₂ w₁ w₂) :
    Indistinguishable paths (t₁.take paths w₁) (t₂.take paths w₂) := by
  have hcontext : t₂.context paths = t₁.context paths := by
    simp only [Turn.context, hturns.selectors, hturns.launcher, hturns.config, hturns.now, hturns.scripts]
  have hfound := twins_found hworlds hturns.replies hturns.keyboard hturns.disks
  unfold Turn.take
  rw [hcontext, ← hturns.command]
  rcases Context.agree_execute t₁.command (t₁.found w₁) (t₂.found w₂) ⟨hturns.prepared, hfound⟩ with
    ⟨report, _, w₁', w₂', hs, ht, rfl, hafter⟩ | ⟨e, w₁', w₂', hs, ht, hafter⟩
  · rw [hs, ht]
    exact .of_twins rfl hafter
  · rw [hs, ht]
    exact .of_twins rfl hafter

/-- In two sessions that start in twins, and are the same but for secrets with the same mask, each command
ends in the same way, and at no time does anything that can be seen tell which of the two it is. -/
theorem indistinguishable_transcript
    {turns₁ turns₂ : List Turn}
    {w₁ w₂ : World}
    (hworlds : Twins ⟨paths.keys⟩ w₁ w₂)
    (hturns : Alike paths turns₁ turns₂ w₁ w₂) :
    List.Forall₂ (Indistinguishable paths) (transcript paths turns₁ w₁)
      (transcript paths turns₂ w₂) := by
  induction turns₁ generalizing turns₂ w₁ w₂ with
  | nil =>
      cases turns₂ with
      | nil => exact .nil
      | cons t₂ turns₂ => exact hturns.elim
  | cons t₁ turns₁ ih =>
      cases turns₂ with
      | nil => exact hturns.elim
      | cons t₂ turns₂ =>
          have hfirst := indistinguishable_take hworlds hturns.1
          exact .cons hfirst (ih hfirst.worlds hturns.2)

/-- The text of a key store with one key. -/
def storeText (secret : String) : String :=
  "\x7b\"keys\":[\x7b\"name\":\"a\",\"key\":\"" ++ secret ++
    "\",\"createdAt\":\"2024-01-01T00:00:00Z\"\x7d],\"default\":\"a\"\x7d"

/-- A world on whose disk it has been written. -/
def stocked (secret : String) : World :=
  .fresh none { Host.Machine.bare with
    disk := (Disk.replace Disk.noTrouble "/keys.json" (storeText secret) .empty).2 } []

/-- A key is added whose secret is entered unseen. -/
def addition (secret : String) : Turn :=
  { Turn.simple (.add ⟨"b", none, none, none, false⟩) with entries := some [.ok secret] }

/-- The default key is used on a machine without programs. -/
def launching : Turn :=
  { Turn.simple (.run ⟨none, true, []⟩) with machine := fun m => ⟨m.disk, [], .utc, Host.noPrograms⟩ }

/-- Without programs it is only the secret on disk in which two launches can differ. -/
theorem alike_launching
    {s t : World}
    (hdisk : s.memory.isNone = true)
    (hst : Twins ⟨paths.keys⟩ s t) :
    launching.Alike paths launching s t := by
  have hnone : s.memory = none := Option.isNone_iff_eq_none.1 hdisk
  have halike := hst.files.disks hnone
  have hfound : Twins ⟨paths.keys⟩ (launching.found s) (launching.found t) :=
    twins_found hst rfl rfl fun _ => halike
  have hsome : ¬ (launching.found s).memory.isSome = true := by simp [hnone]
  have htogether : Together ⟨paths.keys⟩ (launching.found s) (launching.found t) :=
    ⟨hfound, rfl, fun h => absurd h hsome, fun _ _ _ _ _ _ => .error _, rfl, rfl⟩
  exact ⟨rfl, rfl, rfl, rfl, rfl, rfl, rfl, rfl, fun _ => halike, htogether, nofun⟩

theorem twins_stocked :
    Twins ⟨"/keys.json"⟩ (stocked "sk-12345-one-0000") (stocked "sk-12345-another-0000") := by
  let v : Vault := ⟨"/keys.json"⟩
  have hloads : (v.ofText (storeText "sk-12345-one-0000")).toOption.any (fun c =>
      (v.ofText (storeText "sk-12345-another-0000")).toOption.any fun d => c.veiled == d.veiled) = true := by
    decide +kernel
  obtain ⟨c, hread, hany⟩ := Action.exists_of_any_toOption hloads
  obtain ⟨d, hread', hveiled⟩ := Action.exists_of_any_toOption hany
  have hsaid := Vault.said_eq_of_ofText (beq_iff_eq.1 hveiled) hread hread'
  have halike := (Disk.Alike.refl v .empty).store hsaid
  exact ⟨.onDisk rfl rfl halike.2, .refl _, rfl, rfl, rfl, rfl⟩

theorem indistinguishable_additions :
    List.Forall₂ (Indistinguishable ⟨"/keys.json", "/last_used"⟩)
      (transcript ⟨"/keys.json", "/last_used"⟩ [addition "sk-67890-one-1111", launching]
        (stocked "sk-12345-one-0000"))
      (transcript ⟨"/keys.json", "/last_used"⟩ [addition "sk-67890-another-1111", launching]
        (stocked "sk-12345-another-0000")) := by
  let paths : StorePaths := ⟨"/keys.json", "/last_used"⟩
  let w₁ := stocked "sk-12345-one-0000"
  let w₂ := stocked "sk-12345-another-0000"
  have hworlds : Twins ⟨paths.keys⟩ w₁ w₂ := twins_stocked
  have hreads : ReadsAlike "prompt" ((addition "sk-67890-one-1111").found w₁)
      ((addition "sk-67890-another-1111").found w₂) := by
    have hone : (readSecret "prompt" ((addition "sk-67890-one-1111").found w₁)).1.toOption.any
        (mask · == "sk-67890…1111") = true := by
      decide +kernel
    have hanother : (readSecret "prompt" ((addition "sk-67890-another-1111").found w₂)).1.toOption.any
        (mask · == "sk-67890…1111") = true := by
      decide +kernel
    obtain ⟨one, hread, hmask⟩ := Action.exists_of_any_toOption hone
    obtain ⟨another, hread', hmask'⟩ := Action.exists_of_any_toOption hanother
    exact .of_eq_ok hread hread' ((beq_iff_eq.1 hmask).trans (beq_iff_eq.1 hmask').symm)
  have hadditions : (addition "sk-67890-one-1111").Alike paths (addition "sk-67890-another-1111") w₁ w₂ :=
    ⟨rfl, rfl, rfl, rfl, rfl, rfl, rfl, rfl, hworlds.files.disks, hreads⟩
  -- What the additions have left differs in the secrets that have been stored.
  have hadded := (indistinguishable_take hworlds hadditions).worlds
  have hlaunchings := alike_launching (by decide +kernel) hadded
  exact indistinguishable_transcript hworlds ⟨hadditions, hlaunchings, trivial⟩

end Session
end Keyring
