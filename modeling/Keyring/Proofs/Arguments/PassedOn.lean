import Keyring.Arguments.Meaning
import Keyring.Proofs.Command.Launches

/-!
# Arguments that are passed on

Behind a bare `--` every word is an argument of the launched program, whatever it looks like: a second
`--`, a verb, a flag or an option of this program, an empty word.  So when a command line names a key or
asks for the default and then goes on with `--`, the words behind it become the arguments of the request as
they stand, and nothing else is asked for; and the launcher is given those arguments:
`Arguments.passed_on_untouched`.

The reading of the words up to the divider is settled case by case (`readWords_keyChoice`).  The words
behind it are read by induction: a progress that has seen the divider stays one (`readWords_behind`).
-/

namespace Keyring
namespace Arguments

/-- How a command line says which key to launch with. -/
inductive KeyChoice
  | named (key : String)
  | default

namespace KeyChoice

/-- The words that say it. -/
def words : KeyChoice → List String
  | named key => ["--key", key]
  | default => ["--use-default"]

/-- The name of the key that is asked for. -/
def key? : KeyChoice → Option String
  | named key => some key
  | default => none

/-- Whether the default is asked for. -/
def isDefault : KeyChoice → Bool
  | named _ => false
  | default => true

/-- The parameters that the words set. -/
def given : KeyChoice → Given
  | named key => [(.key, [key])]
  | default => [(.useDefault, [])]

/-- How far the words have been read when the divider has been read behind them.  The option still waits
to be settled. -/
def behindDivider : KeyChoice → Progress
  | named key => ⟨[], some (.key, [key]), .nothing, false, true⟩
  | default => ⟨[(.useDefault, [])], none, .nothing, false, true⟩

end KeyChoice

/-- The levels at which words are arguments of the launched program: before any verb, and after the one
for a launch. -/
def LaunchLevel (level : Level) : Prop :=
  level = none ∨ level = some .run

variable {level : Level}

theorem LaunchLevel.positional?
    (h : LaunchLevel level) :
    Level.positional? level = some .arguments := by
  rcases h with rfl | rfl
  · rfl
  · rfl

theorem LaunchLevel.required?
    (h : LaunchLevel level) :
    Level.required? level = none := by
  rcases h with rfl | rfl
  · rfl
  · rfl

/-- A word that does not start with a hyphen has no shape of its own. -/
theorem ofText_eq_plain
    {word : String}
    (h : word.toList.head? ≠ some '-') :
    Word.ofText word = .plain := by
  unfold Word.ofText
  split
  · next heq => simp [heq] at h
  · next heq => simp [heq] at h
  · next heq => simp [heq] at h
  · rfl

/-- A word that is taken at a point where no verb may stand. -/
theorem readWords_of_take
    {r r' : Progress}
    {word : String}
    (hverb : r.verbAllowed = false)
    (htake : r.take level word = .ok r')
    (rest : List String) :
    readWords level r (word :: rest) = readWords level r' rest := by
  simp [readWords, hverb, htake]

/-- A choice of a key is read with the divider behind it. -/
theorem readWords_keyChoice
    (hlevel : LaunchLevel level)
    {choice : KeyChoice}
    (hkey : ∀ key, choice = .named key → key.toList.head? ≠ some '-')
    (rest : List String) :
    readWords level .start (choice.words ++ "--" :: rest) =
      readWords level choice.behindDivider rest := by
  cases choice with
  | default =>
      rcases hlevel with rfl | rfl
      · rfl
      · rfl
  | named key =>
      let waiting : Progress := ⟨[], some (.key, []), .option .key, false, false⟩
      have htake : waiting.take level key = .ok ⟨[], some (.key, [key]), .nothing, false, false⟩ := by
        simp [waiting, Progress.take, ofText_eq_plain (hkey key rfl), Progress.value]
      calc
        readWords level .start ("--key" :: key :: "--" :: rest) =
            readWords level waiting (key :: "--" :: rest) := by
          rcases hlevel with rfl | rfl
          · rfl
          · rfl
        _ = readWords level ⟨[], some (.key, [key]), .nothing, false, false⟩ ("--" :: rest) :=
          readWords_of_take rfl htake _
        _ = readWords level (KeyChoice.named key).behindDivider rest := by
          rcases hlevel with rfl | rfl
          · rfl
          · rfl

/-- Behind the divider every word is taken as an argument. -/
theorem take_behind
    {r : Progress}
    (hlevel : LaunchLevel level)
    (htrailing : r.trailing = true)
    (hunused : r.positionUsed = false)
    (word : String) :
    r.take level word = r.argument word := by
  simp [Progress.take, htrailing, Progress.positional, Progress.position?, hunused, hlevel.positional?]

/-- The arguments are collected to the end of the words, once there is one. -/
theorem readWords_behind
    {r : Progress}
    {values : List String}
    (hlevel : LaunchLevel level)
    (htrailing : r.trailing = true)
    (hunused : r.positionUsed = false)
    (hpending : r.pending = some (.arguments, values))
    (words : List String) :
    ∃ r' : Progress, readWords level r words = .ok (r', none) ∧ r'.given = r.given ∧
      r'.pending = some (.arguments, values ++ words) := by
  -- The induction is on the words to come; `values` holds the arguments so far.
  induction words generalizing r values with
  | nil => exact ⟨r, rfl, rfl, by rw [hpending, List.append_nil]⟩
  | cons word words ih =>
      let r₁ : Progress := { r with
        pending := some (.arguments, values ++ [word])
        awaiting := .position .arguments
        trailing := true }
      have htake : r.take level word = .ok r₁ := by
        rw [take_behind hlevel htrailing hunused]
        simp [Progress.argument, hpending, r₁]
      obtain ⟨r', hread, hgiven, hvalues⟩ := ih (r := r₁) rfl hunused rfl
      refine ⟨r', ?_, hgiven, by rw [hvalues, List.append_assoc, List.singleton_append]⟩
      rw [readWords_of_take (by simp [Progress.verbAllowed, htrailing]) htake, hread]

/-- The parameters that a choice of a key and the arguments set. -/
def givenFor (choice : KeyChoice) (arguments : List String) : Given :=
  choice.given ++ if arguments.isEmpty then [] else [(.arguments, arguments)]

/-- Arguments are accepted whatever they are. -/
theorem accept_arguments
    {g : Given}
    (habsent : g.has .arguments = false)
    (word : String)
    (words : List String) :
    g.accept .arguments (word :: words) = .ok (g ++ [(.arguments, word :: words)]) := by
  simp [Given.accept, Parameter.takesValue, Parameter.accepts, habsent]

theorem finish_of_settle
    {r r' : Progress}
    (hlevel : LaunchLevel level)
    (hsettle : r.settle = .ok r') :
    r.finish level = .ok r'.given := by
  simp [Progress.finish, hsettle, hlevel.required?]

/-- The words of a level that hold a choice of a key and arguments set just these. -/
theorem readWords_choice_and_arguments
    (hlevel : LaunchLevel level)
    {choice : KeyChoice}
    (hkey : ∀ key, choice = .named key → key.toList.head? ≠ some '-')
    (arguments : List String) :
    ∃ r : Progress, readWords level .start (choice.words ++ "--" :: arguments) = .ok (r, none) ∧
      r.finish level = .ok (givenFor choice arguments) := by
  rw [readWords_keyChoice hlevel hkey]
  cases arguments with
  | nil =>
      have hsettle : choice.behindDivider.settle =
          .ok { choice.behindDivider with given := givenFor choice [], pending := none } := by
        cases choice with
        | named key => rfl
        | default => rfl
      exact ⟨choice.behindDivider, rfl, finish_of_settle hlevel hsettle⟩
  | cons word words =>
      -- The first argument settles the option before it; the others only join the first.
      let first : Progress :=
        ⟨choice.given, some (.arguments, [word]), .position .arguments, false, true⟩
      have htake : choice.behindDivider.take level word = .ok first := by
        cases choice with
        | named key => exact take_behind hlevel rfl rfl word
        | default => exact take_behind hlevel rfl rfl word
      obtain ⟨r, hread, hgiven, hpending⟩ :=
        readWords_behind (r := first) hlevel rfl rfl rfl words
      have habsent : choice.given.has .arguments = false := by
        cases choice with
        | named key => rfl
        | default => rfl
      have hsettle : r.settle =
          .ok { r with given := givenFor choice (word :: words), pending := none } := by
        simp only [Progress.settle, hpending, hgiven, List.singleton_append, first,
          accept_arguments habsent]
        rfl
      have hverb : choice.behindDivider.verbAllowed = false := by
        cases choice with
        | named key => rfl
        | default => rfl
      exact ⟨r, (readWords_of_take hverb htake words).trans hread, finish_of_settle hlevel hsettle⟩

/-- What is asked for when a program is to be launched with the key of a choice. -/
def KeyChoice.request (choice : KeyChoice) (arguments : List String) : LaunchRequest :=
  ⟨choice.key?, choice.isDefault, arguments⟩

/-- No shared option is set. -/
def noOptions : SharedOptions :=
  ⟨⟨false, false, false, false⟩, none, none⟩

/-- A choice of a key and arguments ask for a launch and set no shared option. -/
theorem asked_givenFor
    (choice : KeyChoice)
    (arguments : List String) :
    sharedOptions (givenFor choice arguments) = noOptions ∧
      launchRequest (givenFor choice arguments) = choice.request arguments := by
  cases choice with
  | named key =>
      cases arguments with
      | nil => exact ⟨rfl, rfl⟩
      | cons word words => exact ⟨rfl, rfl⟩
  | default =>
      cases arguments with
      | nil => exact ⟨rfl, rfl⟩
      | cons word words => exact ⟨rfl, rfl⟩

/-- The words that may stand before the choice: none, or a verb for a launch. -/
def launchVerbs : List (List String) :=
  [[], ["run"], ["launch"]]

/-- A launch line asks for what its words set at their level, which is the first one or that of a launch. -/
theorem parse_launchLine
    {front : List String}
    (hfront : front ∈ launchVerbs)
    {words : List String}
    {given : Given}
    (hread : ∀ level, LaunchLevel level →
      ∃ r : Progress, readWords level .start words = .ok (r, none) ∧ r.finish level = .ok given) :
    parse (front ++ words) = .ok ⟨sharedOptions given, .run (launchRequest given)⟩ := by
  have hverb : ∀ verb, readWords none .start (verb :: words) = .ok (.start, some (.run, words)) →
      parse (verb :: words) = .ok ⟨sharedOptions given, .run (launchRequest given)⟩ := by
    intro verb hfirst
    obtain ⟨r, hwords, hfinish⟩ := hread (some .run) (.inr rfl)
    have hline : readLine (verb :: words) = .ok ([], some (.run, given)) := by
      simp only [readLine, hfirst, readLevel, hwords, hfinish]
      rfl
    have hnothing : asksLaunch [] = false := rfl
    simp [parse, hline, hnothing, commandOf]
  simp only [launchVerbs, List.mem_cons, List.not_mem_nil, or_false] at hfront
  rcases hfront with rfl | rfl | rfl
  · obtain ⟨r, hwords, hfinish⟩ := hread none (.inl rfl)
    have hline : readLine words = .ok (given, none) := by
      simp only [readLine, hwords, hfinish]
      rfl
    simp [parse, hline]
  · exact hverb "run" rfl
  · exact hverb "launch" rfl

/-- The arguments behind the divider are those of the request as they stand, whatever they look like, and
no shared option is set; and once a key has been chosen, the launcher is called once, with these arguments. -/
theorem passed_on_untouched
    {front : List String}
    (hfront : front ∈ launchVerbs)
    {choice : KeyChoice}
    (hkey : ∀ key, choice = .named key → key.toList.head? ≠ some '-')
    (arguments : List String) :
    parse (front ++ (choice.words ++ "--" :: arguments)) =
        .ok ⟨noOptions, .run ⟨choice.key?, choice.isDefault, arguments⟩⟩ ∧
      ∀ (c : Context) (w : World) (resolved : Resolved) (w₁ : World),
        c.chooser.resolve ⟨choice.key?, choice.isDefault⟩ w = (.ok resolved, w₁) →
          ∃ launch : Launch, launch.command = c.config.command ∧ launch.arguments = arguments ∧
            (c.execute (.run ⟨choice.key?, choice.isDefault, arguments⟩) w).2 =
              (c.launcher.launch launch w₁).2 ∧
            (c.execute (.run ⟨choice.key?, choice.isDefault, arguments⟩) w).2.launches =
              w.launches ++ [launch] := by
  constructor
  · obtain ⟨hshared, hlaunch⟩ := asked_givenFor choice arguments
    rw [parse_launchLine hfront fun level hlevel =>
      readWords_choice_and_arguments hlevel hkey arguments, hshared, hlaunch]
    rfl
  · intro c w resolved w₁ hresolve
    have hrequest : c.chooser.resolve
        ⟨(choice.request arguments).key, (choice.request arguments).useDefault⟩ w =
          (.ok resolved, w₁) := hresolve
    obtain ⟨report, hrun⟩ := Context.run_of_resolve hrequest
    refine ⟨⟨c.config.command, arguments, resolved.bindings c.config.envPrefix⟩, rfl, rfl, ?_, ?_⟩
    · rw [Context.execute]
      exact congrArg Prod.snd hrun
    · exact Context.launches_run hrequest

/-- Arguments that look like anything but arguments. -/
def lookalikes : List String :=
  ["--", "list", "help", "--json", "-v", "--key", "", "--use-default=x"]

theorem passed_on_untouched_lookalikes :
    parse (["--key", "a", "--"] ++ lookalikes) = .ok ⟨noOptions, .run ⟨some "a", false, lookalikes⟩⟩ ∧
      ∃ launch : Launch, launch.command = "claude" ∧ launch.arguments = lookalikes ∧
        (Context.removing.execute (.run ⟨some "a", false, lookalikes⟩)
          (.fresh (some Context.markedStore) .bare [])).2.launches = [launch] := by
  have hkey : ∀ key, KeyChoice.named "a" = .named key → key.toList.head? ≠ some '-' := by
    rintro key ⟨⟩
    decide
  obtain ⟨hparse, hexecute⟩ := passed_on_untouched (show [] ∈ launchVerbs by decide) hkey lookalikes
  have hresolves : (Context.removing.chooser.resolve ⟨some "a", false⟩
      (.fresh (some Context.markedStore) .bare [])).1.toOption.any (fun _ => true) = true := by
    decide +kernel
  obtain ⟨resolved, w₁, hresolve, -⟩ := Action.exists_of_any_fst hresolves
  obtain ⟨launch, hcommand, harguments, -, hlaunches⟩ := hexecute _ _ resolved w₁ hresolve
  exact ⟨hparse, launch, hcommand, harguments, hlaunches⟩

end Arguments
end Keyring
