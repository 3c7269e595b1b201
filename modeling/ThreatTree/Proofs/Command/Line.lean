import ThreatTree.Command.Run
import ThreatTree.Proofs.Host.Content
import ThreatTree.Proofs.Host.Output

/-!
# Command lines

Arguments spell a command if the options before its name are understood and so are those behind it
(`Command.Spells`). Whatever their order, the run then sets up log lines and does the command of these
options. The set-up takes settings from the host, and changes nothing of it but the journal and which
log lines appear (`exists_outcome_configure`).

So a run either does a command that its arguments ask for (`Asks`), on a host that is as it was before
(`Starts`), or it changes no file at all (`dispatch_cases`).
-/

namespace ThreatTree

open ThreatTree.Action

namespace Command

/-! ### Spelling -/

/-- Arguments name a command and give it its own arguments; before the name they may ask for all log
lines. -/
def Spells (args : List String) (verbose : Bool) (name : String) (a : Arguments) : Prop :=
  ∃ general rest switches, Arguments.read generalSwitches false args = some general ∧
    general.has versionSwitch = false ∧ general.has verboseSwitch = verbose ∧
    general.operands = name :: rest ∧ switches? name = some switches ∧
    Arguments.read switches true rest = some a

/-- The name of the command that arguments ask for. -/
def name? (args : List String) : Option String :=
  (Arguments.read generalSwitches false args).bind (·.operands.head?)

theorem outcome_request {args : List String} {verbose : Bool} {name : String} {a : Arguments}
    (hspells : Spells args verbose name a) (h : Host) :
    (request args).outcome h =
      match (configure verbose).outcome h with
      | (.error f, h') => (.error f, h')
      | (.ok loaded, h') => ((ofArguments h'.files name a).map (.command · loaded), h') := by
  obtain ⟨general, rest, switches, hgeneral, hversion, rfl, hoperands, hswitches, hread⟩ := hspells
  have hcommand (files : Files) : read files name rest = ofArguments files name a := by
    rw [read, hswitches, Option.bind_some, hread]
  simp only [request, hgeneral, hversion, hoperands, hswitches, Bool.false_eq_true, if_false,
    Option.isNone_some, outcome_bind]
  rcases (configure (general.has verboseSwitch)).outcome h with ⟨f | loaded, h'⟩
  · rfl
  · simp only [outcome_get, outcome_lift, hcommand]
    cases ofArguments h'.files name a <;> rfl

/-- The settings that are loaded when log lines are set up. -/
def configuredIn (verbose : Bool) (files : Files) (vars : Variables) :
    Except Fault (Option Settings) :=
  if verbose then .ok none
  else do
    let s ← settingsIn files vars
    match Level.ofLabel? (Text.upper s.logLevel) with
    | none => .error (.noLevel (Text.upper s.logLevel))
    | some _ => .ok (some s)

theorem exists_outcome_configure (verbose : Bool) (h : Host) :
    ∃ threshold journal, (configure verbose).outcome h =
      (configuredIn verbose h.files h.vars, { h with threshold, journal }) := by
  cases verbose with
  | true => exact ⟨_, _, rfl⟩
  | false =>
    obtain ⟨j, hload⟩ := exists_outcome_loadSettings .notice h
    rw [configure, if_neg (by simp), outcome_bind, hload, configuredIn, if_neg (by simp)]
    cases settingsIn h.files h.vars with
    | error f => exact ⟨_, _, rfl⟩
    | ok s =>
      dsimp only
      cases hlevel : Level.ofLabel? (Text.upper s.logLevel) with
      | none => exact ⟨h.threshold, (h.noted j).journal, by simp [bind, Except.bind, hlevel]; rfl⟩
      | some level => exact ⟨level, (h.noted j).journal, by simp [bind, Except.bind, hlevel]; rfl⟩

/-- The settings of a command: those that are loaded already, or those that files and variables come
to. -/
def settingsWith (loaded : Option Settings) (files : Files) (vars : Variables) :
    Except Fault Settings :=
  match loaded with
  | some s => .ok s
  | none => settingsIn files vars

theorem exists_outcome_settings (loaded : Option Settings) (h : Host) :
    ∃ j, (settings loaded).outcome h = (settingsWith loaded h.files h.vars, h.noted j) := by
  cases loaded with
  | none => exact exists_outcome_loadSettings _ h
  | some s => exact ⟨[], by simp [Host.noted]; rfl⟩

theorem mute_settings (loaded : Option Settings) : (settings loaded).Mute := by
  cases loaded with
  | none => exact mute_loadSettings fun _ => rfl
  | some s => exact within_pure s

theorem mute_configure (verbose : Bool) : (configure verbose).Mute := by
  cases verbose with
  | true => exact within_bind (within_modify fun _ => rfl) fun _ => within_pure _
  | false =>
    refine within_bind (mute_loadSettings fun _ => rfl) fun s => ?_
    split
    · exact within_throw trivial
    · exact within_bind (within_modify fun _ => rfl) fun _ => within_pure _

/-- Settings that are loaded already are those of the host. -/
theorem settingsWith_eq {verbose : Bool} {files : Files} {vars : Variables}
    {loaded : Option Settings} (hloaded : configuredIn verbose files vars = .ok loaded) :
    settingsWith loaded files vars = settingsIn files vars := by
  cases verbose with
  | true =>
    cases hloaded
    rfl
  | false =>
    rw [configuredIn, if_neg (by simp)] at hloaded
    obtain ⟨s, hs, hloaded⟩ := bind_eq_ok_iff.mp hloaded
    split at hloaded <;> cases hloaded
    exact hs.symm

/-! ### Asking for a command -/

/-- Arguments ask a host for a command: they spell it, log lines can be set up, and the files let it be
asked for. -/
def Asks (h : Host) (args : List String) (c : Command) : Prop :=
  ∃ verbose loaded name a, Spells args verbose name a ∧
    configuredIn verbose h.files h.vars = .ok loaded ∧ ofArguments h.files name a = .ok c

/-- A host where a command starts is as it was before the run, but for log lines. Nothing is printed
there yet, and settings that are loaded already are those of the host. -/
structure Starts (h : Host) (loaded : Option Settings) (start : Host) : Prop where
  same : ∃ threshold journal, start = { h with threshold, journal }
  output : start.journal.output = ""
  settings : settingsWith loaded h.files h.vars = settingsIn h.files h.vars

namespace Starts

variable {h start : Host} {loaded : Option Settings}

theorem files_eq (hstart : Starts h loaded start) : start.files = h.files := by
  obtain ⟨_, _, rfl⟩ := hstart.same
  rfl

theorem vars_eq (hstart : Starts h loaded start) : start.vars = h.vars := by
  obtain ⟨_, _, rfl⟩ := hstart.same
  rfl

theorem refusal?_eq (hstart : Starts h loaded start) : start.refusal? = h.refusal? := by
  obtain ⟨_, _, rfl⟩ := hstart.same
  rfl

end Starts

/-- What a command takes for its settings, those of the host are. -/
theorem Starts.outcome_settings {h start : Host} {loaded : Option Settings}
    (hstart : Starts h loaded start) :
    ∃ j, (Command.settings loaded).outcome start = (settingsIn h.files h.vars, start.noted j) := by
  obtain ⟨j, hrun⟩ := exists_outcome_settings loaded start
  rw [hstart.files_eq, hstart.vars_eq, hstart.settings] at hrun
  exact ⟨j, hrun⟩

/-- Setting up starts a command. -/
theorem starts_of_configure {verbose : Bool} {h start : Host} {loaded : Option Settings}
    (hrun : (configure verbose).outcome h.fresh = (.ok loaded, start)) :
    configuredIn verbose h.files h.vars = .ok loaded ∧ Starts h loaded start := by
  obtain ⟨threshold, journal, hconfigured⟩ := exists_outcome_configure verbose h.fresh
  have hmute := (mute_configure verbose h.fresh).1
  rw [hrun] at hmute hconfigured
  obtain ⟨hloaded, rfl⟩ := Prod.ext_iff.mp hconfigured
  exact ⟨hloaded.symm, ⟨threshold, journal, rfl⟩, hmute.symm, settingsWith_eq hloaded.symm⟩

section Runs

variable [SetOrder] {h : Host} {args : List String}

/-- A run does the command that its arguments ask for. -/
theorem Asks.exists_dispatch {c : Command} (hargs : Asks h args c) (pauses : List (List Change)) :
    ∃ loaded start, Starts h loaded start ∧
      (dispatch args pauses).outcome h.fresh = (c.run loaded pauses).outcome start := by
  obtain ⟨verbose, loaded, name, a, hspells, hloaded, hcommand⟩ := hargs
  obtain ⟨threshold, journal, hconfigured⟩ := exists_outcome_configure verbose h.fresh
  rw [show configuredIn verbose h.fresh.files h.fresh.vars = .ok loaded from hloaded] at hconfigured
  have hread : ofArguments { h.fresh with threshold, journal }.files name a = .ok c := hcommand
  refine ⟨loaded, _, (starts_of_configure hconfigured).2, ?_⟩
  rw [dispatch, outcome_bind, outcome_request hspells, hconfigured]
  dsimp only
  rw [hread]
  rfl

/-- A run that goes well has set up log lines, read its command and done it. -/
theorem exists_start_of_dispatch {verbose : Bool} {name : String} {a : Arguments} {h' : Host}
    {pauses : List (List Change)} (hspells : Spells args verbose name a)
    (hrun : (dispatch args pauses).outcome h.fresh = (.ok (), h')) :
    ∃ c loaded start, configuredIn verbose h.files h.vars = .ok loaded ∧ Starts h loaded start ∧
      ofArguments h.files name a = .ok c ∧ (c.run loaded pauses).outcome start = (.ok (), h') := by
  rw [dispatch, outcome_bind, outcome_request hspells] at hrun
  rcases hconfigure : (configure verbose).outcome h.fresh with ⟨f | loaded, start⟩ <;>
    rw [hconfigure] at hrun
  · cases hrun
  obtain ⟨hloaded, hstart⟩ := starts_of_configure hconfigure
  dsimp only at hrun
  rw [hstart.files_eq] at hrun
  cases hcommand : ofArguments h.files name a with
  | error f =>
    rw [hcommand] at hrun
    cases hrun
  | ok c =>
    rw [hcommand] at hrun
    exact ⟨c, loaded, start, hloaded, hstart, rfl, hrun⟩

end Runs

end Command

namespace Host

variable [SetOrder] {h : Host} {args : List String} {pauses : List (List Change)}

theorem run_eq_of_dispatch {r : Except Fault Unit} {h' : Host}
    (hrun : (Command.dispatch args pauses).outcome h.fresh = (r, h')) :
    h.run args pauses = (.of r, h') := by
  have hpair : h.run args pauses =
      (.of ((Command.dispatch args pauses).outcome h.fresh).1,
        ((Command.dispatch args pauses).outcome h.fresh).2) := rfl
  rw [hpair, hrun]

theorem dispatch_eq_ok_of_status (hstatus : (h.run args pauses).1.status = 0) :
    (Command.dispatch args pauses).outcome h.fresh = (.ok (), (h.run args pauses).2) := by
  rcases hrun : (Command.dispatch args pauses).outcome h.fresh with ⟨f | ⟨⟩, h'⟩
  · rw [run_eq_of_dispatch hrun] at hstatus
    cases f <;> cases hstatus
  · rw [run_eq_of_dispatch hrun]

end Host
end ThreatTree
