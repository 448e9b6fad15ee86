import IdentityVault.Command.Run
import IdentityVault.Proofs.Disk.Parents
import IdentityVault.Proofs.Program.Emissions
import IdentityVault.Proofs.Program.Quiet
import IdentityVault.Proofs.Settings.ResolvedAgain

/-! The command that makes a settings file. Like every command it waits for the settings of its own
options and for the log that they ask for, and what it is to mend or to make stops it there. Past
that point it writes the file or refuses to, and the settings come out the same again. -/
namespace IdentityVault

namespace LogSink

theorem run_chooseFilter (level : String) (w : World) :
    ((chooseFilter level).run w).2 = w := by
  simp only [chooseFilter, Program.perform, Program.bind_eq, Program.call_bind, Program.done_bind,
    Program.run_call, World.answer]
  split
  · split <;> rfl
  · rfl

/-- A log that starts has made its file, if it has one, and a log that does not start has made
nothing. -/
theorem start_cases (level : String) (file : Option Path) (w : World) :
    (∃ e, (start level file).run w = (.error e, w)) ∨
      ∃ sink begun, (start level file).run w = (.ok sink, begun) ∧ (begun = w ∨
        ∃ p after, w.disk.append p [] = .ok after ∧ begun = { w with disk := after }) := by
  have hfilter := run_chooseFilter level w
  unfold start
  rw [Program.bind_eq, Program.run_bind, hfilter]
  cases ((chooseFilter level).run w).1 with
  | error e => exact .inl ⟨_, rfl⟩
  | ok filter =>
    cases file with
    | none => exact .inr ⟨_, _, rfl, .inl rfl⟩
    | some p =>
      simp only [Program.perform, Program.bind_eq, Program.call_bind, Program.done_bind,
        Program.run_call, World.answer, DiskChange.apply]
      cases happended : w.disk.append p [] with
      | error e => exact .inl ⟨_, rfl⟩
      | ok after => exact .inr ⟨_, _, rfl, .inr ⟨p, after, happended, rfl⟩⟩

end LogSink

/-- Whatever was there is there when a command begins, which may be more. -/
structure World.Preserved (w begun : World) : Prop where
  environment : begun.environment = w.environment
  standardOutput : begun.standardOutput = w.standardOutput
  standardError : begun.standardError = w.standardError
  start : begun.disk.standing? begun.disk.workingDirectory = some .directory
  contentAt : ∀ p content, w.disk.contentAt p = .ok content → begun.disk.contentAt p = .ok content
  exist : ∀ p, w.disk.exist p = true → begun.disk.exist p = true

/-- What every command waits for: settings, and the log that they ask for. -/
structure CommandLine.Begins (c : CommandLine) (w : World) (s : Settings) (begun : World) :
    Prop where
  settings : c.loadSettings.run w = (.ok s, w)
  log : ∃ sink, (LogSink.start s.logLevel s.logFile).run w = (.ok sink, begun)

namespace CommandLine.Begins

variable {c : CommandLine} {w begun : World} {s : Settings}

theorem disk_cases (h : c.Begins w s begun) :
    begun = w ∨ ∃ p after, w.disk.append p [] = .ok after ∧ begun = { w with disk := after } := by
  obtain ⟨sink, hlog⟩ := h.log
  obtain ⟨e, herror⟩ | ⟨_, _, hok, hbegun⟩ := LogSink.start_cases s.logLevel s.logFile w
  · rw [herror] at hlog
    cases hlog
  · rw [hok] at hlog
    cases hlog
    exact hbegun

theorem preserved (h : c.Begins w s begun)
    (hstart : w.disk.standing? w.disk.workingDirectory = some .directory) : w.Preserved begun := by
  obtain rfl | ⟨p, after, happended, rfl⟩ := h.disk_cases
  · exact ⟨rfl, rfl, rfl, hstart, fun _ _ h => h, fun _ h => h⟩
  · refine ⟨rfl, rfl, rfl, (FileSystem.keepsDirectories_update happended).start hstart, ?_, ?_⟩
    · intro q content hq
      simpa using FileSystem.contentAt_of_update hstart happended hq
    · intro q hq
      exact FileSystem.exist_of_update hstart happended hq

end CommandLine.Begins

section Program

variable {words : List String} {c : CommandLine} {w begun : World} {s : Settings}

/-- Once a command begins, its own result decides. -/
theorem exists_run_runProgram (hparse : Arguments.parse words = .ok c) (h : c.Begins w s begun) :
    ∃ sink : LogSink, (runProgram words).run w =
      match (sink.install (c.execute s)).run begun with
      | (.ok (), after) => (0, after)
      | (.error e, after) => (1, ((Program.complain ("Error: " ++ e.message)).run after).2) := by
  obtain ⟨sink, hlog⟩ := h.log
  refine ⟨sink, ?_⟩
  unfold runProgram
  rw [hparse]
  simp only [Program.bind_eq, Program.run_bind, h.settings, hlog]
  generalize (sink.install (c.execute s)).run begun = executed
  obtain ⟨result, after⟩ := executed
  cases result <;> rfl

/-- A command that does not begin leaves the disk as it is. -/
theorem run_runProgram_of_not_begins (hparse : Arguments.parse words = .ok c)
    (h : ∀ s begun, ¬ c.Begins w s begun) :
    ((runProgram words).run w).1 = 1 ∧ ((runProgram words).run w).2.disk = w.disk := by
  have hworld : c.loadSettings.run w = ((c.loadSettings.run w).1, w) := by
    unfold CommandLine.loadSettings
    rw [Settings.run_resolve]
  unfold runProgram
  rw [hparse]
  simp only [Program.bind_eq, Program.run_bind]
  rw [hworld]
  cases hsettings : (c.loadSettings.run w).1 with
  | error e => exact ⟨rfl, rfl⟩
  | ok s =>
    rw [hsettings] at hworld
    -- With settings at hand it is the log that did not start.
    obtain ⟨e, herror⟩ | ⟨sink, begun, hok, -⟩ := LogSink.start_cases s.logLevel s.logFile w
    · simp only [Program.run_bind, herror]
      exact ⟨rfl, rfl⟩
    · exact absurd ⟨hworld, sink, hok⟩ (h s begun)

end Program

section InitConfig

open Settings (Templated Verbatim target template)

variable {file : Option Path} {w : World} {s : Settings} {force : Bool}

theorem unlogged_writeText (p : Path) (text : String) : (Settings.writeText p text).Unlogged := by
  refine .call trivial fun made => ?_
  cases made with
  | error e => exact .done _
  | ok _ =>
    refine .call trivial fun written => ?_
    cases written <;> exact .done _

theorem unlogged_runInitConfig (file : Option Path) (s : Settings) (force : Bool) :
    (runInitConfig file s force).Unlogged := by
  refine .call trivial fun taken => ?_
  rw [Program.done_bind]
  split
  · exact .done _
  · refine .bind (unlogged_writeText _ _) fun written => ?_
    cases written with
    | error e => exact .done _
    | ok _ => exact .call trivial fun _ => .done _

theorem run_runInitConfig_refused (h : w.disk.exist (target file s) = true) :
    (runInitConfig file s false).run w = (.error (.settingsExist (target file s)), w) := by
  unfold target at *
  simp [runInitConfig, Program.perform, World.answer, h]

theorem exists_run_runInitConfig (hfree : w.disk.exist (target file s) = false ∨ force = true)
    (h : w.disk.CanCreate (target file s)) :
    ∃ after, (Settings.writeText (target file s) (template s.dataDirectory)).run w =
        (.ok (), { w with disk := after }) ∧
      (runInitConfig file s force).run w = (.ok (),
        ((Program.print ("✅ Wrote " ++ target file s)).run { w with disk := after }).2) := by
  obtain ⟨after, hwritten⟩ := Settings.exists_run_writeText h (template s.dataDirectory)
  refine ⟨after, hwritten, ?_⟩
  have hgo : (w.disk.exist (target file s) && !force) = false := by
    rcases hfree with hfree | hfree <;> simp [hfree]
  unfold target at *
  simp only [runInitConfig, Program.perform, Program.bind_eq, Program.call_bind, Program.done_bind,
    Program.run_call, World.answer, hgo, Settings.createDefault, Bool.false_eq_true, if_false,
    Program.run_bind, hwritten]
  rfl

/-- The command has refused to write over a settings file. -/
structure CommandLine.Refused (c : CommandLine) (s : Settings) (w : World)
    (outcome : Nat × World) : Prop where
  exitCode : outcome.1 = 1
  standardError : outcome.2.standardError = w.standardError ++
    ["Error: " ++ (CommandError.settingsExist (target c.config s)).message]
  contentAt : ∀ p content, w.disk.contentAt p = .ok content →
    outcome.2.disk.contentAt p = .ok content

/-- The command has written the settings file, from which the settings come out the same. -/
structure CommandLine.Wrote (c : CommandLine) (s : Settings) (w : World)
    (outcome : Nat × World) : Prop where
  exitCode : outcome.1 = 0
  standardOutput : outcome.2.standardOutput = w.standardOutput ++
    ["✅ Wrote " ++ target c.config s]
  contentAt : outcome.2.disk.contentAt (target c.config s) =
    .ok (Bytes.ofText (template s.dataDirectory))
  again : Verbatim s.dataDirectory → ∃ s', (c.loadSettings.run outcome.2).1 = .ok s' ∧
    s'.dataDirectory = s.dataDirectory

variable {words : List String} {c : CommandLine} {begun : World}

/-- The command logs nothing, so the log that was started for it stays as it is. -/
theorem run_runProgram_initConfig (hparse : Arguments.parse words = .ok c)
    (hcommand : c.command = .initConfig force) (h : c.Begins w s begun) :
    (runProgram words).run w =
      match (runInitConfig c.config s force).run begun with
      | (.ok (), after) => (0, after)
      | (.error e, after) => (1, ((Program.complain ("Error: " ++ e.message)).run after).2) := by
  obtain ⟨sink, hrun⟩ := exists_run_runProgram hparse h
  have hexecute : c.execute s = runInitConfig c.config s force := by
    unfold CommandLine.execute
    rw [hcommand]
  rw [hrun, hexecute, (unlogged_runInitConfig c.config s force).install_eq sink]

theorem refused_of_exist (hparse : Arguments.parse words = .ok c)
    (hcommand : c.command = .initConfig false) (hbegins : c.Begins w s begun)
    (hpreserved : w.Preserved begun) (hexist : begun.disk.exist (target c.config s) = true) :
    c.Refused s w ((runProgram words).run w) := by
  rw [run_runProgram_initConfig hparse hcommand hbegins, run_runInitConfig_refused hexist]
  refine ⟨rfl, ?_, hpreserved.contentAt⟩
  rw [← hpreserved.standardError]
  simp [Program.complain, Program.perform, World.answer, World.standardError]

theorem wrote_of_canCreate (hparse : Arguments.parse words = .ok c)
    (hcommand : c.command = .initConfig force) (hbegins : c.Begins w s begun)
    (hpreserved : w.Preserved begun)
    (hfree : begun.disk.exist (target c.config s) = false ∨ force = true)
    (hcreate : begun.disk.CanCreate (target c.config s)) :
    c.Wrote s w ((runProgram words).run w) := by
  obtain ⟨after, hwritten, hrun⟩ := exists_run_runInitConfig hfree hcreate
  rw [run_runProgram_initConfig hparse hcommand hbegins, hrun]
  have hfile := Settings.contentAt_of_writeText hpreserved.start hwritten
  refine ⟨rfl, ?_, hfile, fun hverbatim => ?_⟩
  · rw [← hpreserved.standardOutput]
    exact Program.standardOutput_run_print _ _
  · have htemplated : Templated c.config s w.disk after := by
      refine ⟨hfile, fun p content hp => ?_⟩
      exact Settings.contentAt_other_of_writeText hpreserved.start hwritten
        (hpreserved.contentAt p content hp)
    have hsettings : ((Settings.resolve c.config c.dataDirectory).run w).1 = .ok s :=
      congrArg Prod.fst hbegins.settings
    exact Settings.resolve_again hsettings hpreserved.environment hverbatim htemplated

/-- Where the settings of its own options can be had and their log starts, the command refuses to
write over a file, or it makes the file and the settings come out the same again. Where not, it
fails, whatever the file is and whatever it was asked to do about it. -/
theorem initConfig_works_once_begun (hparse : Arguments.parse words = .ok c)
    (hcommand : c.command = .initConfig force)
    (hstart : w.disk.standing? w.disk.workingDirectory = some .directory) :
    ((∀ s begun, ¬ c.Begins w s begun) →
      ((runProgram words).run w).1 = 1 ∧ ((runProgram words).run w).2.disk = w.disk) ∧
    ∀ s begun, c.Begins w s begun → w.Preserved begun ∧
      (begun.disk.exist (target c.config s) = true → force = false →
        c.Refused s w ((runProgram words).run w)) ∧
      (begun.disk.exist (target c.config s) = false ∧ begun.disk.CanCreate (target c.config s) ∨
          force = true ∧ (∃ content, w.disk.contentAt (target c.config s) = .ok content) →
        c.Wrote s w ((runProgram words).run w)) := by
  refine ⟨run_runProgram_of_not_begins hparse, fun s begun hbegins => ?_⟩
  have hpreserved := hbegins.preserved hstart
  refine ⟨hpreserved, ?_, ?_⟩
  · rintro hexist rfl
    exact refused_of_exist hparse hcommand hbegins hpreserved hexist
  · rintro (⟨hfree, hcreate⟩ | ⟨hforce, content, hcontent⟩)
    · exact wrote_of_canCreate hparse hcommand hbegins hpreserved (.inl hfree) hcreate
    · have hcreate := FileSystem.canCreate_of_contentAt hpreserved.start
        (hpreserved.contentAt _ content hcontent)
      exact wrote_of_canCreate hparse hcommand hbegins hpreserved (.inr hforce) hcreate

/-- A disk with a settings file for the data directory `d`. -/
def FileSystem.withSettings (text : String) : FileSystem :=
  ⟨.directory [("d", .directory [("config.toml", .file (Bytes.ofText text))])], []⟩

theorem initConfig_makes_replaces_and_refuses :
    CommandLine.Wrote ⟨none, some "d", .initConfig false⟩ ⟨"d", "info", none⟩ { disk := .empty }
        ((runProgram ["init-config", "--data-dir", "d"]).run { disk := .empty }) ∧
      CommandLine.Wrote ⟨none, some "d", .initConfig true⟩ ⟨"d", "info", none⟩
        { disk := .withSettings "# old\n" }
        ((runProgram ["init-config", "--force", "--data-dir", "d"]).run
          { disk := .withSettings "# old\n" }) ∧
      CommandLine.Refused ⟨none, some "d", .initConfig false⟩ ⟨"d", "info", none⟩
        { disk := .withSettings "# old\n" }
        ((runProgram ["init-config", "--data-dir", "d"]).run
          { disk := .withSettings "# old\n" }) := by
  refine ⟨?_, ?_, ?_⟩
  · exact ((initConfig_works_once_begun (by rfl) rfl (by rfl)).2 _ { disk := .empty }
      ⟨by rfl, _, by rfl⟩).2.2 (.inl ⟨by rfl, _, _, by rfl, by rfl⟩)
  · exact ((initConfig_works_once_begun (by rfl) rfl (by rfl)).2 _ { disk := .withSettings "# old\n" }
      ⟨by rfl, _, by rfl⟩).2.2 (.inr ⟨by rfl, _, by rfl⟩)
  · exact ((initConfig_works_once_begun (by rfl) rfl (by rfl)).2 _ { disk := .withSettings "# old\n" }
      ⟨by rfl, _, by rfl⟩).2.1 (by rfl) (by rfl)

/-- The file that cannot be read is the one to be replaced, and the file that is missing is the one
to be made. Both stop the command before it begins. -/
theorem initConfig_stopped_by_its_own_file :
    (Arguments.parse ["init-config", "--force", "--data-dir", "d"] =
        .ok ⟨none, some "d", .initConfig true⟩ ∧
      (FileSystem.withSettings "not toml").contentAt (Settings.defaultFile "d") =
        .ok (Bytes.ofText "not toml") ∧
      ((runProgram ["init-config", "--force", "--data-dir", "d"]).run
        { disk := .withSettings "not toml" }).1 = 1) ∧
    (Arguments.parse ["init-config", "--config", "x/c.toml", "--data-dir", "d"] =
        .ok ⟨some "x/c.toml", some "d", .initConfig false⟩ ∧
      FileSystem.empty.exist "x/c.toml" = false ∧ FileSystem.empty.CanCreate "x/c.toml" ∧
      ((runProgram ["init-config", "--config", "x/c.toml", "--data-dir", "d"]).run
        { disk := .empty }).1 = 1) ∧
    Verbatim "d" :=
  ⟨⟨by rfl, by rfl, by rfl⟩, ⟨by rfl, by rfl, ⟨_, _, by rfl, by rfl⟩, by rfl⟩, by decide +kernel⟩

end InitConfig

end IdentityVault
