import IdentityVault.Proofs.Settings.DefaultFile

/-! Settings that are resolved, and resolved again with the same options when a settings file has
been made for them. The file that was consulted first may be another one. -/
namespace IdentityVault.Settings

variable {file dataDirectory : Option Path} {w w' : World} {s : Settings}

/-- The settings file that is made for settings, where none is named. -/
def target (file : Option Path) (s : Settings) : Path := file.getD (defaultFile s.dataDirectory)

theorem dataDirectory_overrideDirectory (dataDirectory : Option Path) (s : Settings) :
    (overrideDirectory dataDirectory s).dataDirectory = dataDirectory.getD s.dataDirectory := by
  cases dataDirectory <;> rfl

/-- What the options come to, by what the disk holds. -/
def consulted (default : Path) (fs : FileSystem) (dataDirectory : Option Path) :
    Option Path → Except SettingsError Settings
  | some p => ofFile default p (fs.contentAt p)
  | none =>
      let directory := dataDirectory.getD default
      if fs.exist (defaultFile directory) then
        ofFile default (defaultFile directory) (fs.contentAt (defaultFile directory))
      else .ok { dataDirectory := directory }

theorem consult_none (dataDirectory : Option Path) : consult none dataDirectory =
    (dataDirectory.elim defaultDataDirectory Program.done).bind fun directory =>
      (Program.perform (.exist (defaultFile directory))).bind fun found =>
        if found then load (defaultFile directory)
        else .done (.ok { dataDirectory := directory }) := by
  cases dataDirectory <;> rfl

theorem run_consult (file dataDirectory : Option Path) (w : World) :
    (consult file dataDirectory).run w =
      (consulted (defaultDataDirectory.run w).1 w.disk dataDirectory file, w) := by
  cases file with
  | some p => exact run_load p w
  | none =>
    have hdirectory : (dataDirectory.elim defaultDataDirectory Program.done).run w =
        (dataDirectory.getD (defaultDataDirectory.run w).1, w) := by
      cases dataDirectory <;> rfl
    rw [consult_none, Program.run_bind, hdirectory, consulted]
    simp only [Program.perform, Program.call_bind, Program.done_bind, Program.run_call,
      World.answer]
    by_cases hexist : w.disk.exist
        (defaultFile (dataDirectory.getD (defaultDataDirectory.run w).1)) = true
    · simp only [hexist, if_true]
      exact run_load _ w
    · simp only [hexist]
      rfl

theorem run_resolve (file dataDirectory : Option Path) (w : World) :
    (resolve file dataDirectory).run w =
      (((consult file dataDirectory).run w).1.map (overrideDirectory dataDirectory), w) := by
  unfold resolve
  rw [Program.bind_eq, Program.run_bind, run_consult]
  rfl

/-- The data directory is the one of the options, or else the one that the file is for. -/
theorem exists_consulted (h : ((resolve file dataDirectory).run w).1 = .ok s) :
    ∃ found, ((consult file dataDirectory).run w).1 = .ok found ∧
      s.dataDirectory = dataDirectory.getD found.dataDirectory := by
  rw [run_resolve] at h
  cases hfound : ((consult file dataDirectory).run w).1 with
  | error e =>
    rw [hfound] at h
    cases h
  | ok found =>
    rw [hfound] at h
    cases h
    exact ⟨found, rfl, dataDirectory_overrideDirectory dataDirectory found⟩

theorem run_defaultDataDirectory_congr (h : w'.environment = w.environment) :
    (defaultDataDirectory.run w').1 = (defaultDataDirectory.run w).1 := by
  simp only [defaultDataDirectory, Program.perform, Program.bind_eq, Program.call_bind,
    Program.done_bind, Program.run_call, World.answer, h]
  rfl

theorem ofFile_template {p dir default : Path} (h : Verbatim dir) :
    ofFile default p (.ok (Bytes.ofText (template dir))) =
      .ok { dataDirectory := dir, logLevel := "info", logFile := none } := by
  simp only [ofFile, Bytes.toText?_ofText, ofText?_template h]

section Again

variable {fs fs' : FileSystem}

/-- Only the settings' own file has changed, under whatever path, and holds their template now. -/
structure Templated (file : Option Path) (s : Settings) (fs fs' : FileSystem) : Prop where
  written : fs'.contentAt (target file s) = .ok (Bytes.ofText (template s.dataDirectory))
  others : ∀ p content, fs.contentAt p = .ok content → fs'.contentAt p = .ok content ∨
    fs'.contentAt p = .ok (Bytes.ofText (template s.dataDirectory))

/-- The first file that is consulted is the one before, or it is the one that was made. -/
theorem consulted_again {default : Path} {found : Settings} (h : Templated file s fs fs')
    (hverbatim : Verbatim s.dataDirectory)
    (hfound : consulted default fs dataDirectory file = .ok found)
    (hdirectory : s.dataDirectory = dataDirectory.getD found.dataDirectory) :
    ∃ found', consulted default fs' dataDirectory file = .ok found' ∧
      s.dataDirectory = dataDirectory.getD found'.dataDirectory := by
  have hown : s.dataDirectory = dataDirectory.getD s.dataDirectory := by
    rw [hdirectory]
    cases dataDirectory <;> rfl
  have hloaded {p : Path}
      (hread : fs'.contentAt p = .ok (Bytes.ofText (template s.dataDirectory))) :
      ofFile default p (fs'.contentAt p) = .ok { dataDirectory := s.dataDirectory } := by
    rw [hread, ofFile_template hverbatim]
  cases file with
  | some p => exact ⟨_, hloaded h.written, hown⟩
  | none =>
    dsimp only [consulted] at hfound ⊢
    split_ifs at hfound
    · cases hcontent : fs.contentAt (defaultFile (dataDirectory.getD default)) with
      | error e =>
        rw [hcontent] at hfound
        cases hfound
      | ok content =>
        rw [hcontent] at hfound
        -- The file that was consulted may send elsewhere, and it may be the one that was made.
        rcases h.others _ _ hcontent with hread | hread
        · rw [if_pos (FileSystem.exist_of_contentAt hread), hread]
          exact ⟨found, hfound, hdirectory⟩
        · rw [if_pos (FileSystem.exist_of_contentAt hread)]
          exact ⟨_, hloaded hread, hown⟩
    · cases hfound
      have hsame : dataDirectory.getD default = s.dataDirectory := by
        rw [hdirectory]
        cases dataDirectory <;> rfl
      have hread : fs'.contentAt (defaultFile s.dataDirectory) =
          .ok (Bytes.ofText (template s.dataDirectory)) := h.written
      rw [hsame, if_pos (FileSystem.exist_of_contentAt hread)]
      exact ⟨_, hloaded hread, hown⟩

/-- A template for the settings, in their file, leads to the same data directory as before. -/
theorem resolve_again (h : ((resolve file dataDirectory).run w).1 = .ok s)
    (henvironment : w'.environment = w.environment) (hverbatim : Verbatim s.dataDirectory)
    (htemplated : Templated file s w.disk w'.disk) :
    ∃ s', ((resolve file dataDirectory).run w').1 = .ok s' ∧
      s'.dataDirectory = s.dataDirectory := by
  obtain ⟨found, hfound, hdirectory⟩ := exists_consulted h
  rw [run_consult] at hfound
  obtain ⟨found', hfound', hdirectory'⟩ :=
    consulted_again htemplated hverbatim hfound hdirectory
  refine ⟨overrideDirectory dataDirectory found', ?_, ?_⟩
  · rw [run_resolve, run_consult, run_defaultDataDirectory_congr henvironment, hfound']
    rfl
  · rw [dataDirectory_overrideDirectory, hdirectory']

end Again

end IdentityVault.Settings
