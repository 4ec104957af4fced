import Keyring.Proofs.Selector.Veil
import Keyring.Proofs.Selector.Files
import Keyring.Proofs.Store.Alike

/-!
# Twins

Two worlds are twins if they agree in everything that has been shown, asked, printed, chosen and launched,
and in all files, except for the secrets in the key store, the tokens that have been launched and what will be
entered unseen.  Secrets and tokens have the same masks in both.

Selectors are programs, and those on a machine may look at its disk.  So for selectors two worlds must also be
together: on the same machine with the same input, and where the files are on its disk, with programs that do
not tell trees apart that differ in secrets only.  A chain of selectors then chooses the same in both:
`Selector.chooseWith_together`.
-/

namespace Keyring

/-- Whether two terminals differ at most in what will be entered unseen. -/
structure Terminal.Alike (t t' : Terminal) : Prop where
  rest : { t with entries := t'.entries } = t'
  keyboard : t.entries.isSome = t'.entries.isSome

namespace Terminal.Alike

variable {t t' : Terminal}

theorem refl (t : Terminal) :
    Alike t t :=
  ⟨rfl, rfl⟩

/-- A terminal that is alike is the same with other entries. -/
theorem exists_entries (h : Alike t t') :
    ∃ entries, t' = { t with entries := entries } :=
  ⟨t'.entries, h.rest.symm⟩

theorem write
    (h : Alike t t')
    (text : String) :
    Alike (t.write text) (t'.write text) := by
  obtain ⟨entries, rfl⟩ := h.exists_entries
  exact ⟨rfl, h.keyboard⟩

theorem ask
    (h : Alike t t')
    (question : String) :
    (t.ask question).1 = (t'.ask question).1 ∧ Alike (t.ask question).2 (t'.ask question).2 := by
  obtain ⟨entries, rfl⟩ := h.exists_entries
  unfold Terminal.ask
  simp only [Terminal.write]
  split
  · exact ⟨rfl, rfl, h.keyboard⟩
  · exact ⟨rfl, rfl, h.keyboard⟩

/-- A prompt is shown on both, or on none. -/
theorem enter
    (h : Alike t t')
    (prompt : String) :
    (t.enter prompt = none ∧ t'.enter prompt = none) ∨
      ∃ e e' u u', t.enter prompt = some (e, u) ∧ t'.enter prompt = some (e', u') ∧ Alike u u' := by
  obtain ⟨entries', rfl⟩ := h.exists_entries
  have hkeyboard := h.keyboard
  unfold Terminal.enter
  cases hentries : t.entries with
  | none =>
      rw [hentries] at hkeyboard
      obtain rfl : entries' = none := by simpa using hkeyboard.symm
      exact .inl ⟨rfl, rfl⟩
  | some entries =>
      rw [hentries] at hkeyboard
      obtain ⟨others, rfl⟩ := Option.isSome_iff_exists.1 hkeyboard.symm
      right
      cases entries with
      | nil =>
          cases others with
          | nil => exact ⟨_, _, _, _, rfl, rfl, by simp [Terminal.write, hentries], by simp [Terminal.write, hentries]⟩
          | cons e' rest' => exact ⟨_, _, _, _, rfl, rfl, rfl, by simp [Terminal.write, hentries]⟩
      | cons e rest =>
          cases others with
          | nil => exact ⟨_, _, _, _, rfl, rfl, rfl, rfl⟩
          | cons e' rest' => exact ⟨_, _, _, _, rfl, rfl, rfl, rfl⟩

end Terminal.Alike

/-- Whether programs end in the same way on trees that differ in secrets only, and leave such trees. -/
def Host.Programs.BlindTo (v : Vault) (programs : Host.Programs) : Prop :=
  ∀ environment i d d', Disk.Alike v d d' →
    Likewise (fun a b => a.1 = b.1 ∧ Disk.Alike v a.2 b.2) (programs environment i d)
      (programs environment i d')

/-- Programs that are blind to the key store do the same on two machines that differ in secrets only. -/
theorem Host.Machine.start_alike
    {v : Vault}
    {m m' : Host.Machine}
    (hrest : { m with disk := m'.disk } = m')
    (hdisk : Disk.Alike v m.disk m'.disk)
    (hblind : m.programs.BlindTo v)
    (i : Host.Invocation) :
    (m.start i).1 = (m'.start i).1 ∧ Disk.Alike v (m.start i).2.disk (m'.start i).2.disk := by
  obtain ⟨d, environment, offset, programs⟩ := m
  obtain ⟨d', environment', offset', programs'⟩ := m'
  cases hrest
  have hprogram : Likewise _ (programs environment i d) (programs environment i d') :=
    hblind environment i d d' hdisk
  unfold start
  split
  · exact ⟨rfl, hdisk⟩
  · simp only
    generalize programs environment i d = result, programs environment i d' = result' at hprogram
    cases hprogram with
    | error fault => exact ⟨rfl, hdisk⟩
    | @ok a b hends =>
        obtain ⟨f, e⟩ := a
        obtain ⟨f', e'⟩ := b
        obtain ⟨rfl, hafter⟩ := hends
        exact ⟨rfl, hafter⟩

namespace World

/-- Whether the files of two worlds differ at most in secrets. -/
inductive FilesAlike (v : Vault) (w₁ w₂ : World) : Prop
  | inMemory
      {m₁ m₂ : Memory}
      (hmemory₁ : w₁.memory = some m₁)
      (hmemory₂ : w₂.memory = some m₂)
      (h : Memory.Alike v m₁ m₂) :
      FilesAlike v w₁ w₂
  | onDisk
      (hdisk₁ : w₁.memory = none)
      (hdisk₂ : w₂.memory = none)
      (h : Disk.Alike v w₁.machine.disk w₂.machine.disk) :
      FilesAlike v w₁ w₂

/-- Whether two worlds agree in everything that can be seen, and in all files but for the secrets. -/
structure Twins (v : Vault) (w₁ w₂ : World) : Prop where
  files : FilesAlike v w₁ w₂
  terminal : w₁.terminal.Alike w₂.terminal
  output : w₁.output = w₂.output
  consultations : w₁.consultations.map Consultation.veiled = w₂.consultations.map Consultation.veiled
  pickers : w₁.pickers = w₂.pickers
  launches : w₁.launches.map Launch.veiled = w₂.launches.map Launch.veiled

/-- Whether two worlds are twins on the same machine, except for the secrets on its disk, with the same input
and the same entries, and with programs that are blind to those secrets. -/
structure Together (v : Vault) (w₁ w₂ : World) : Prop extends Twins v w₁ w₂ where
  rest : { w₁.machine with disk := w₂.machine.disk } = w₂.machine
  disk : w₁.memory.isSome = true → w₁.machine.disk = w₂.machine.disk
  blind : w₁.memory = none → w₁.machine.programs.BlindTo v
  input : w₁.input = w₂.input
  entries : w₁.terminal.entries = w₂.terminal.entries

variable {v : Vault} {w₁ w₂ w₁' w₂' : World}

/-- Files stay alike as long as neither they nor the machine change. -/
theorem FilesAlike.of_eq
    (h : FilesAlike v w₁ w₂)
    (hmemory₁ : w₁'.memory = w₁.memory)
    (hmemory₂ : w₂'.memory = w₂.memory)
    (hmachine₁ : w₁'.machine = w₁.machine)
    (hmachine₂ : w₂'.machine = w₂.machine) :
    FilesAlike v w₁' w₂' := by
  cases h with
  | inMemory hfiles₁ hfiles₂ halike =>
      exact .inMemory (hmemory₁.trans hfiles₁) (hmemory₂.trans hfiles₂) halike
  | onDisk hdisk₁ hdisk₂ halike =>
      rw [← hmachine₁, ← hmachine₂] at halike
      exact .onDisk (hmemory₁.trans hdisk₁) (hmemory₂.trans hdisk₂) halike

/-- Where the files are on disk, it is the disks that are alike. -/
theorem FilesAlike.disks
    (h : FilesAlike v w₁ w₂)
    (hdisk : w₁.memory = none) :
    Disk.Alike v w₁.machine.disk w₂.machine.disk := by
  cases h with
  | inMemory hmemory _ _ =>
      rw [hmemory] at hdisk
      cases hdisk
  | onDisk _ _ halike => exact halike

theorem Twins.ask
    (h : Twins v w₁ w₂)
    (question : String) :
    (w₁.ask question).1 = (w₂.ask question).1 ∧ Twins v (w₁.ask question).2 (w₂.ask question).2 := by
  obtain ⟨hreply, hterminal⟩ := h.terminal.ask question
  exact ⟨hreply, h.files.of_eq rfl rfl rfl rfl, hterminal, h.output, h.consultations, h.pickers,
    h.launches⟩

section Files

variable {inMemory inMemory' : Memory → Except FileFault Unit × Memory}
variable {onDisk onDisk' : Disk → Except FileFault Unit × Disk}

/-- Twins whose files are changed in the same way. -/
theorem Twins.onFiles
    (h : Twins v w₁ w₂)
    (hmemory : ∀ {m m'}, Memory.Alike v m m' →
      (inMemory m).1 = (inMemory' m').1 ∧ Memory.Alike v (inMemory m).2 (inMemory' m').2)
    (hdisk : ∀ {d d'}, Disk.Alike v d d' →
      (onDisk d).1 = (onDisk' d').1 ∧ Disk.Alike v (onDisk d).2 (onDisk' d').2) :
    (w₁.onFiles inMemory onDisk).1 = (w₂.onFiles inMemory' onDisk').1 ∧
      Twins v (w₁.onFiles inMemory onDisk).2 (w₂.onFiles inMemory' onDisk').2 := by
  cases h.files with
  | inMemory hmemory₁ hmemory₂ halike =>
      obtain ⟨hresult, hafter⟩ := hmemory halike
      rw [onFiles_of_memory hmemory₁, onFiles_of_memory hmemory₂]
      exact ⟨hresult, .inMemory rfl rfl hafter, h.terminal, h.output, h.consultations, h.pickers, h.launches⟩
  | onDisk hdisk₁ hdisk₂ halike =>
      obtain ⟨hresult, hafter⟩ := hdisk halike
      rw [onFiles_of_disk hdisk₁, onFiles_of_disk hdisk₂]
      exact ⟨hresult, .onDisk hdisk₁ hdisk₂ hafter, h.terminal, h.output, h.consultations, h.pickers,
        h.launches⟩

/-- Whatever is done to files, the rest of the machine stays as it is, and all of it where the files are in
memory. -/
theorem Together.onFiles
    (h : Together v w₁ w₂)
    (htwins : Twins v (w₁.onFiles inMemory onDisk).2 (w₂.onFiles inMemory' onDisk').2) :
    Together v (w₁.onFiles inMemory onDisk).2 (w₂.onFiles inMemory' onDisk').2 := by
  cases h.files with
  | inMemory hmemory₁ hmemory₂ halike =>
      rw [onFiles_of_memory hmemory₁, onFiles_of_memory hmemory₂] at htwins ⊢
      exact ⟨htwins, h.rest, fun _ => h.disk (by rw [hmemory₁]; rfl), nofun, h.input, h.entries⟩
  | onDisk hdisk₁ hdisk₂ halike =>
      rw [onFiles_of_disk hdisk₁, onFiles_of_disk hdisk₂] at htwins ⊢
      have hnone : w₁.memory.isSome ≠ true := by simp [hdisk₁]
      refine ⟨htwins, ?_, fun hsome => absurd hsome hnone, h.blind, h.input, h.entries⟩
      have hrest := h.rest
      cases hmachine : w₁.machine
      cases hmachine' : w₂.machine
      rw [hmachine, hmachine'] at hrest
      cases hrest
      simp only [withDisk, hmachine, hmachine']

/-- No call on files tells twins apart. -/
theorem conceals_twins (v : Vault) :
    FileSystem.Conceals v (Twins v) where
  present h path := by
    cases h.files with
    | inMemory hmemory₁ hmemory₂ halike =>
        rw [present_of_memory path hmemory₁, present_of_memory path hmemory₂]
        exact (Memory.conceals_alike v).present halike path
    | onDisk hdisk₁ hdisk₂ halike =>
        rw [present_of_disk path hdisk₁, present_of_disk path hdisk₂]
        exact (Disk.conceals_alike v).present halike path
  read h path := by
    cases h.files with
    | inMemory hmemory₁ hmemory₂ halike =>
        rw [read_of_memory path hmemory₁, read_of_memory path hmemory₂]
        exact (Memory.conceals_alike v).read halike path
    | onDisk hdisk₁ hdisk₂ halike =>
        rw [read_of_disk path hdisk₁, read_of_disk path hdisk₂]
        exact (Disk.conceals_alike v).read halike path
  write h path text := h.onFiles (fun halike => (Memory.conceals_alike v).write halike path text)
    fun halike => (Disk.conceals_alike v).write halike path text
  store h text text' hsaid :=
    h.onFiles (fun halike => (Memory.conceals_alike v).store halike text text' hsaid)
      fun halike => (Disk.conceals_alike v).store halike text text' hsaid
  remove h path := h.onFiles (fun halike => (Memory.conceals_alike v).remove halike path)
    fun halike => (Disk.conceals_alike v).remove halike path
  setMode h path mode := h.onFiles (fun halike => (Memory.conceals_alike v).setMode halike path mode)
    fun halike => (Disk.conceals_alike v).setMode halike path mode
  elapse h := by
    refine ⟨?_, h.terminal, h.output, h.consultations, h.pickers, h.launches⟩
    cases h.files with
    | inMemory hmemory₁ hmemory₂ halike =>
        exact .inMemory (memory_elapse_of_memory hmemory₁) (memory_elapse_of_memory hmemory₂)
          ((Memory.conceals_alike v).elapse halike)
    | onDisk hdisk₁ hdisk₂ halike =>
        exact .onDisk (memory_elapse_of_disk hdisk₁) (memory_elapse_of_disk hdisk₂) halike

end Files

namespace Together

theorem terminal_eq (h : Together v w₁ w₂) :
    w₁.terminal = w₂.terminal := by
  have hrest := h.terminal.rest
  rwa [← h.entries] at hrest

/-- The disks of the machines differ in secrets only, if at all. -/
theorem alike_disks (h : Together v w₁ w₂) :
    Disk.Alike v w₁.machine.disk w₂.machine.disk := by
  cases h.files with
  | inMemory hmemory₁ _ _ =>
      rw [h.disk (by rw [hmemory₁]; rfl)]
      exact .refl v _
  | onDisk _ _ halike => exact halike

theorem environment_eq (h : Together v w₁ w₂) :
    w₁.machine.environment = w₂.machine.environment := by
  rw [← h.rest]

theorem withMachine
    {m₁ m₂ : Host.Machine}
    (h : Together v w₁ w₂)
    (hrest : { m₁ with disk := m₂.disk } = m₂)
    (hdisk : w₁.memory.isSome = true → m₁.disk = m₂.disk)
    (halike : Disk.Alike v m₁.disk m₂.disk)
    (hprograms : m₁.programs = w₁.machine.programs) :
    Together v { w₁ with machine := m₁ } { w₂ with machine := m₂ } := by
  refine ⟨⟨?_, h.terminal, h.output, h.consultations, h.pickers, h.launches⟩, hrest, hdisk,
    fun hnone => hprograms ▸ h.blind hnone, h.input, h.entries⟩
  cases h.files with
  | inMemory hmemory₁ hmemory₂ hfiles => exact .inMemory hmemory₁ hmemory₂ hfiles
  | onDisk hdisk₁ hdisk₂ _ => exact .onDisk hdisk₁ hdisk₂ halike

/-- Together, the same can be written on both terminals. -/
theorem withTerminal
    (h : Together v w₁ w₂)
    (change : Terminal → Terminal) :
    Together v { w₁ with terminal := change w₁.terminal } { w₂ with terminal := change w₂.terminal } := by
  rw [h.terminal_eq]
  exact ⟨⟨h.files.of_eq rfl rfl rfl rfl, .refl _, h.output, h.consultations, h.pickers, h.launches⟩, h.rest,
    h.disk, h.blind, h.input, rfl⟩

/-- A program that is started ends in the same way on both machines. -/
theorem startMachine
    (h : Together v w₁ w₂)
    (i : Host.Invocation) :
    (w₁.machine.start i).1 = (w₂.machine.start i).1 ∧
      Together v { w₁ with machine := (w₁.machine.start i).2 }
        { w₂ with machine := (w₂.machine.start i).2 } := by
  have hworked := (Host.Machine.Worked.start w₁.machine i).eq_withDisk
  have hworked' := (Host.Machine.Worked.start w₂.machine i).eq_withDisk
  have hrest : { (w₁.machine.start i).2 with disk := (w₂.machine.start i).2.disk } =
      (w₂.machine.start i).2 := by
    rw [hworked', ← h.rest, hworked]
  have hprograms : (w₁.machine.start i).2.programs = w₁.machine.programs := by rw [hworked]
  cases h.files with
  | inMemory hmemory₁ _ _ =>
      -- All of the machine is the same.
      have hsame : w₁.machine = w₂.machine := by
        rw [← h.rest, ← h.disk (by rw [hmemory₁]; rfl)]
      rw [← hsame] at hrest ⊢
      exact ⟨rfl, h.withMachine hrest (fun _ => rfl) (.refl v _) hprograms⟩
  | onDisk hdisk₁ _ _ =>
      have hnone : w₁.memory.isSome ≠ true := by simp [hdisk₁]
      obtain ⟨hresult, halike⟩ :=
        Host.Machine.start_alike h.rest h.alike_disks (h.blind hdisk₁) i
      exact ⟨hresult, h.withMachine hrest (fun hsome => absurd hsome hnone) halike hprograms⟩

theorem start
    (h : Together v w₁ w₂)
    (i : Host.Invocation) :
    (w₁.start i).1 = (w₂.start i).1 ∧ Together v (w₁.start i).2 (w₂.start i).2 := by
  obtain ⟨hresult, hafter⟩ := h.startMachine i
  unfold World.start
  cases hs : w₁.machine.start i with
  | mk result m₁ =>
      cases ht : w₂.machine.start i with
      | mk result' m₂ =>
          rw [hs, ht] at hresult hafter
          cases hresult
          cases result with
          | error fault => exact ⟨rfl, hafter⟩
          | ok f => exact ⟨rfl, hafter.withTerminal fun t => t.write (Text.decodeLossy f.errors)⟩

theorem ask
    (h : Together v w₁ w₂)
    (question : String) :
    (w₁.ask question).1 = (w₂.ask question).1 ∧ Together v (w₁.ask question).2 (w₂.ask question).2 := by
  obtain ⟨hreply, hafter⟩ := h.toTwins.ask question
  have hentries : (w₁.ask question).2.terminal.entries = (w₂.ask question).2.terminal.entries := by
    simp only [World.ask, h.terminal_eq]
  exact ⟨hreply, hafter, h.rest, h.disk, h.blind, rfl, hentries⟩

end Together
end World

open World (Together)

namespace Selector

variable {v : Vault} {keys keys' : Collection} {s t : World}

section Choosing

variable (hkeys : keys.veiled = keys'.veiled) (hint : Option KeyName)

include hkeys

theorem trivial?_eq_of_veiled :
    trivial? keys = trivial? keys' := by
  rw [← trivial?_veiled, hkeys, trivial?_veiled]

theorem Menu.run_together
    (h : Together v s t) :
    (Menu.run keys hint s).1 = (Menu.run keys' hint t).1 ∧
      Together v (Menu.run keys hint s).2 (Menu.run keys' hint t).2 := by
  have htext : Menu.text keys hint = Menu.text keys' hint := by
    rw [← Menu.text_veiled, hkeys, Menu.text_veiled]
  have hquestion : Menu.question keys hint = Menu.question keys' hint := by
    rw [← Menu.question_veiled, hkeys, Menu.question_veiled]
  have hverdict : Menu.verdict keys hint = Menu.verdict keys' hint := by
    rw [← Menu.verdict_veiled, hkeys, Menu.verdict_veiled]
  have hshown : Together v (s.display (Menu.text keys' hint)) (t.display (Menu.text keys' hint)) :=
    h.withTerminal fun t => t.display (Menu.text keys' hint)
  obtain ⟨hreply, hafter⟩ := hshown.ask (Menu.question keys' hint)
  rw [Menu.run_eq, Menu.run_eq, Menu.asking, Menu.asking, htext, hquestion, hverdict, hreply]
  exact ⟨rfl, hafter⟩

theorem Picker.run_together
    (o : PickerOptions)
    (h : Together v s t) :
    (Picker.run o keys hint s).1 = (Picker.run o keys' hint t).1 ∧
      Together v (Picker.run o keys hint s).2 (Picker.run o keys' hint t).2 := by
  have hinvocation : Picker.invocation o keys hint = Picker.invocation o keys' hint := by
    rw [← Picker.invocation_veiled, hkeys, Picker.invocation_veiled]
  have hsame : s.machine.hasPicker o.program = t.machine.hasPicker o.program :=
    Disk.Like.hasPicker_eq h.alike_disks h.environment_eq o.program
  by_cases havailable : t.machine.hasPicker o.program = true
  · have hcalling : Together v (s.calling (Picker.invocation o keys' hint))
        (t.calling (Picker.invocation o keys' hint)) := by
      refine ⟨⟨h.files.of_eq rfl rfl rfl rfl, h.terminal, h.output, h.consultations, ?_, h.launches⟩,
        h.rest, h.disk, h.blind, h.input, h.entries⟩
      simp only [World.calling, h.pickers]
    obtain ⟨hresult, hafter⟩ := hcalling.start (Picker.invocation o keys' hint)
    rw [Picker.run_of_available keys hint s (hsame.trans havailable),
      Picker.run_of_available keys' hint t havailable, hinvocation, hresult]
    exact ⟨rfl, hafter⟩
  · rw [Picker.run_of_missing keys hint s (by rwa [hsame]), Picker.run_of_missing keys' hint t havailable]
    exact ⟨rfl, h⟩

theorem consult_together
    (selector : Selector)
    (h : Together v s t) :
    (selector.consult keys hint s).1 = (selector.consult keys' hint t).1 ∧
      Together v (selector.consult keys hint s).2 (selector.consult keys' hint t).2 := by
  cases selector with
  | menu => exact Menu.run_together hkeys hint h
  | picker o => exact Picker.run_together hkeys hint o h
  | fixed number outcome =>
      refine ⟨rfl, ⟨h.files.of_eq rfl rfl rfl rfl, h.terminal, h.output, ?_, h.pickers, h.launches⟩,
        h.rest, h.disk, h.blind, h.input, h.entries⟩
      simp only [consult, List.map_append, h.consultations, List.map_cons, Consultation.veiled, hkeys]

theorem select_together
    (selector : Selector)
    (h : Together v s t) :
    (selector.select keys hint s).1 = (selector.select keys' hint t).1 ∧
      Together v (selector.select keys hint s).2 (selector.select keys' hint t).2 := by
  unfold select
  rw [trivial?_eq_of_veiled hkeys]
  split
  · exact consult_together hkeys hint _ h
  · split
    · exact ⟨rfl, h⟩
    · exact ⟨rfl, h⟩
    · exact consult_together hkeys hint _ h

/-- A chain asks its selectors one after the other, each of which says the same in both. -/
theorem selectFirst_together
    (chain : List Selector)
    (h : Together v s t) :
    (selectFirst keys hint chain s).1 = (selectFirst keys' hint chain t).1 ∧
      Together v (selectFirst keys hint chain s).2 (selectFirst keys' hint chain t).2 := by
  induction chain generalizing s t with
  | nil => exact ⟨rfl, h⟩
  | cons selector rest ih =>
      obtain ⟨hresult, hafter⟩ := select_together hkeys hint selector h
      unfold selectFirst
      cases hs : selector.select keys hint s with
      | mk result s' =>
          cases ht : selector.select keys' hint t with
          | mk result' t' =>
              rw [hs, ht] at hresult hafter
              cases hresult
              cases result with
              | error f => exact ⟨rfl, hafter⟩
              | ok selection =>
                  cases selection with
                  | chosen name => exact ⟨rfl, hafter⟩
                  | unavailable reason => exact ih hafter

theorem chooseWith_together
    (chain : List Selector)
    (h : Together v s t) :
    (chooseWith chain keys hint s).1 = (chooseWith chain keys' hint t).1 ∧
      Together v (chooseWith chain keys hint s).2 (chooseWith chain keys' hint t).2 := by
  unfold chooseWith
  rw [trivial?_eq_of_veiled hkeys]
  split
  · exact ⟨rfl, h⟩
  · exact ⟨rfl, h⟩
  · exact selectFirst_together hkeys hint chain h

end Choosing
end Selector
end Keyring
