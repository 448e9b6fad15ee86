import IdentityVault.Proofs.Settings.WrittenFile
import IdentityVault.Proofs.Toml.Lines
import IdentityVault.Proofs.Toml.WrittenStrings

/-! Settings saved and loaded again. Every string comes back from the quotes it was written in, so
the settings come back whatever is in them. -/
namespace IdentityVault.Settings

open Toml

/-- A key with a string in quotes. -/
def entryLine (name : String) (s : String) : Line :=
  .entry name.toList (writeString s.toList) s.toList

/-- The lines of a file that sets everything. -/
def savedLines (s : Settings) : List Line :=
  [.header "storage".toList, entryLine "data_dir" s.dataDirectory, .blank,
    .header "logging".toList, entryLine "level" s.logLevel] ++
  s.logFile.toList.map (entryLine "file")

theorem toList_toText (s : Settings) : s.toText.toList = s.savedLines.flatMap Line.chars := by
  unfold toText savedLines
  cases s.logFile with
  | none => simp [entryLine, Line.chars, quoted]
  | some p => simp [entryLine, Line.chars, quoted]

theorem readable_entryLine {name : String} (h : Bare name.toList) (s : String) :
    (entryLine name s).Readable :=
  .entry h (readString_writeString s.toList)

theorem readable_savedLines (s : Settings) : ∀ l ∈ s.savedLines, l.Readable := by
  have hfile : ∀ l ∈ s.logFile.toList.map (entryLine "file"), l.Readable := by
    rw [List.forall_mem_map]
    exact fun p _ => readable_entryLine (by decide +kernel) p
  simp only [savedLines, List.forall_mem_append, List.forall_mem_cons]
  exact ⟨⟨.header (by decide +kernel), readable_entryLine (by decide +kernel) _, .blank,
    .header (by decide +kernel), readable_entryLine (by decide +kernel) _, by simp⟩, hfile⟩

/-- What the fields of the file are. -/
theorem read_toText (s : Settings) : Toml.read s.toText =
    some [("storage", .table [("data_dir", .string s.dataDirectory)]),
      ("logging", .table (("level", .string s.logLevel) ::
        s.logFile.toList.map fun p => ("file", .string p)))] := by
  rw [read_lines (readable_savedLines s) (by simp [savedLines]) (toList_toText s)]
  unfold savedLines
  cases s.logFile with
  | none =>
    simp [entryLine, Line.effect, Document.enter, Document.assign, assignKey, Entries.descend,
      Entries.openTable, Entries.assign, Entries.add, Entries.replace, List.lookup_cons, fields,
      Node.toValue]
  | some p =>
    simp [entryLine, Line.effect, Document.enter, Document.assign, assignKey, Entries.descend,
      Entries.openTable, Entries.assign, Entries.add, Entries.replace, List.lookup_cons, fields,
      Node.toValue]

/-- No default stands in for what the file sets, nor for a log file that it leaves out. -/
theorem ofText?_toText (default : Path) (s : Settings) : ofText? default s.toText = some s := by
  rw [ofText?, read_toText]
  obtain ⟨directory, level, file⟩ := s
  cases file with
  | none => simp [ofFields?, storageOf, loggingOf, List.lookup_cons]
  | some p => simp [ofFields?, storageOf, loggingOf, List.lookup_cons]

section Save

variable {w w' v : World} {s : Settings} {p : Path}

/-- Settings that were saved are loaded again as they were: the data directory, the level, and the
log file or none, whatever text is in them. Whoever loads them finds the disk as the one who saved
left it, and may have another environment. That the working directory stands matters to relative
paths. -/
theorem load_of_save (hstart : w.disk.standing? w.disk.workingDirectory = some .directory)
    (hsaved : (s.save p).run w = (.ok (), w')) (hdisk : v.disk = w'.disk) :
    (load p).run v = (.ok s, v) := by
  have hcontent := contentAt_of_writeText hstart hsaved
  rw [← hdisk] at hcontent
  have hload := run_load_of_contentAt hcontent
  rw [ofText?_toText] at hload
  exact Prod.ext hload (by rw [run_load])

/-- Quotes of both kinds in a row, a backslash, a line end, a control character and no level, on an
empty disk. -/
theorem load_of_save_awkward :
    ∃ s w', s = { dataDirectory := "'''\"\"\"\\\n\x00é", logLevel := "", logFile := none } ∧
      (save s "config.toml").run { disk := .empty } = (.ok (), w') ∧
      (load "config.toml").run { disk := w'.disk, environment := [("HOME", "/root")] } =
        (.ok s, { disk := w'.disk, environment := [("HOME", "/root")] }) := by
  obtain ⟨w', hsaved⟩ : ∃ w', (save { dataDirectory := "'''\"\"\"\\\n\x00é", logLevel := "" }
      "config.toml").run { disk := .empty } = (.ok (), w') := ⟨_, Prod.ext rfl rfl⟩
  exact ⟨_, w', rfl, hsaved, load_of_save rfl hsaved rfl⟩

end Save

end IdentityVault.Settings
