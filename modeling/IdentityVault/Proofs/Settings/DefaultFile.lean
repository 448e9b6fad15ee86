import IdentityVault.Proofs.Settings.WrittenFile
import IdentityVault.Proofs.Toml.Bindings
import IdentityVault.Proofs.Toml.Lines
import IdentityVault.Proofs.Toml.Strings

/-! The settings file with comments, made and loaded again. Its data directory stands between quotes
as it is, so what is loaded is the same directory only where no character needs an escape. -/
namespace IdentityVault.Settings

open Toml

/-- A path that stands for itself between quotes. -/
def Verbatim (p : Path) : Prop := ∀ c ∈ p.toList, Ordinary c

instance (p : Path) : Decidable (Verbatim p) :=
  decidable_of_iff (p.toList.all fun c => decide (Ordinary c)) (by simp [Verbatim])

/-- The lines in front of the data directory. -/
def linesBefore : List Line :=
  [.comment " Sigil Configuration".toList,
    .comment [],
    .comment " Command-line flags (--data-dir) override values in this file.".toList,
    .blank,
    .header "storage".toList,
    .comment " Data directory. The identity key bundle is read from".toList,
    .comment " <data_dir>/storage/identity/identity_key and its salt from".toList,
    .comment " <data_dir>/storage/salt".toList]

/-- The lines behind the data directory. -/
def linesBehind : List Line :=
  [.blank,
    .header "logging".toList,
    .comment " Log level: trace, debug, info, warn, error".toList,
    .comment " RUST_LOG takes precedence when set".toList,
    .entry "level".toList "\"info\"".toList "info".toList,
    .blank,
    .comment " Log file path (optional, logs to stderr if not specified)".toList,
    .comment " file = \"/var/log/sigil/sigil.log\"".toList]

/-- The template in lines, but for the one of the data directory, which need not be a line. -/
theorem toList_template (dir : Path) : (template dir).toList =
    linesBefore.flatMap Line.chars ++ ("data_dir".toList ++ ' ' :: '=' :: ' ' :: '\x22' ::
      (dir.toList ++ '\x22' :: '\n' :: linesBehind.flatMap Line.chars)) := by
  have hsplit (before behind : List Char) :
      before ++ ("data_dir".toList ++ ' ' :: '=' :: ' ' :: '\x22' :: behind) =
        (before ++ "data_dir = \"".toList) ++ behind := by
    simp
  rw [hsplit]
  generalize hbefore : linesBefore.flatMap Line.chars ++ "data_dir = \"".toList = before
  unfold template
  -- The text in front of the directory stays whole, and the pieces behind it are taken apart.
  iterate 10 rw [String.toList_append]
  simp only [List.append_assoc]
  refine congrArg₂ (· ++ ·) ?_ (congrArg (dir.toList ++ ·) ?_)
  · rw [← hbefore]
    simp only [String.toList_append]
    decide +kernel
  · decide +kernel

theorem readable_linesBefore : ∀ l ∈ linesBefore, l.Readable := by
  simp only [linesBefore, List.forall_mem_cons]
  exact ⟨.comment (by decide +kernel), .comment (by decide), .comment (by decide +kernel), .blank,
    .header (by decide +kernel), .comment (by decide +kernel), .comment (by decide +kernel),
    .comment (by decide +kernel), by simp⟩

theorem readable_linesBehind : ∀ l ∈ linesBehind, l.Readable := by
  have hordinary : Verbatim "info" := by decide +kernel
  have hinfo (rest : List Char) : readString ("\"info\"".toList ++ '\n' :: rest) =
      some ("info".toList, '\n' :: rest) := readString_ordinary hordinary rest
  simp only [linesBehind, List.forall_mem_cons]
  exact ⟨.blank, .header (by decide +kernel), .comment (by decide +kernel),
    .comment (by decide +kernel), .entry (by decide +kernel) hinfo, .blank,
    .comment (by decide +kernel), .comment (by decide +kernel), by simp⟩

/-- Three quotes stand nowhere behind the data directory, so it is closed on its own line. -/
theorem quotes_not_infix_linesBehind :
    ¬ ['\x22', '\x22', '\x22'] <:+: linesBehind.flatMap Line.chars := by
  decide +kernel

/-- The document while the storage section is read. -/
def storageSection (entries : Entries) : Document :=
  ⟨[("storage", .table .header entries)], ["storage"]⟩

theorem foldlM_linesBefore : linesBefore.foldlM Line.effect {} = some (storageSection []) := by
  simp [linesBefore, Line.effect, Document.enter, Entries.descend, Entries.openTable,
    storageSection]

theorem assign_storageSection (v : Value) :
    (storageSection []).assign ["data_dir"] v = some (storageSection [("data_dir", .value v)]) := by
  simp [storageSection, Document.assign, Entries.descend, assignKey, Entries.assign, Entries.add,
    Entries.replace]

theorem foldlM_linesBehind (entries : Entries) :
    linesBehind.foldlM Line.effect (storageSection entries) =
      some ⟨[("storage", .table .header entries),
        ("logging", .table .header [("level", .value (.string "info"))])], ["logging"]⟩ := by
  simp [linesBehind, Line.effect, Document.enter, Document.assign, assignKey, Entries.descend,
    Entries.openTable, storageSection, Entries.assign, Entries.add, Entries.replace,
    List.lookup_cons]

theorem dataDirectory_of_loggingOf {default s : Settings} {v : Value}
    (h : loggingOf default v = some s) : s.dataDirectory = default.dataDirectory := by
  unfold loggingOf at h
  split at h
  case h_1 fields =>
    dsimp only [bind, Option.bind] at h
    split at h
    case h_1 => split at h <;> cases h <;> rfl
    case h_2 => split at h <;> cases h <;> rfl
    case h_3 => cases h
  case h_2 =>
    cases h
    rfl
  case h_3 =>
    cases h
    rfl
  case h_4 => cases h

/-- Where a storage section names the data directory, nothing else does. -/
theorem eq_dataDirectory_of_ofFields? {default : Path} {fields table : List (String × Value)}
    {v : Value} {s : Settings} (h : ofFields? default fields = some s)
    (hstorage : fields.lookup "storage" = some (.table table))
    (hv : table.lookup "data_dir" = some v) : v = .string s.dataDirectory := by
  unfold ofFields? at h
  rw [hstorage] at h
  obtain ⟨directory, hdirectory, hrest⟩ := Option.bind_eq_some_iff.1 h
  have hsame : s.dataDirectory = directory := by
    split at hrest
    case h_1 =>
      cases hrest
      rfl
    case h_2 => exact dataDirectory_of_loggingOf hrest
  rw [hsame]
  simp only [storageOf, hv] at hdirectory
  cases v with
  | string p =>
    cases hdirectory
    rfl
  | integer n => cases hdirectory
  | float literal => cases hdirectory
  | boolean b => cases hdirectory
  | datetime literal => cases hdirectory
  | array items => cases hdirectory
  | table fields => cases hdirectory

/-- A data directory that is read as some text between its quotes is loaded as that text. -/
theorem ofText?_template_of_readString {dir : Path} {text : List Char} (default : Path)
    (h : ∀ rest, readString ('\x22' :: (dir.toList ++ '\x22' :: '\n' :: rest)) =
      some (text, '\n' :: rest)) :
    ofText? default (template dir) =
      some { dataDirectory := String.ofList text, logLevel := "info", logFile := none } := by
  let line : Line := .entry "data_dir".toList ('\x22' :: (dir.toList ++ ['\x22'])) text
  have hline : line.Readable := by
    refine .entry (by decide +kernel) ?_
    intro rest
    simpa using h rest
  have hlines : ∀ l ∈ linesBefore ++ line :: linesBehind, l.Readable := by
    rw [List.forall_mem_append, List.forall_mem_cons]
    exact ⟨readable_linesBefore, hline, readable_linesBehind⟩
  have htext : (template dir).toList = (linesBefore ++ line :: linesBehind).flatMap Line.chars := by
    rw [toList_template]
    simp [line, Line.chars]
  have hdocument : (linesBefore ++ line :: linesBehind).foldlM Line.effect {} =
      some ⟨[("storage", .table .header [("data_dir", .value (.string (String.ofList text)))]),
        ("logging", .table .header [("level", .value (.string "info"))])], ["logging"]⟩ := by
    rw [List.foldlM_append, foldlM_linesBefore]
    simp [line, Line.effect, assign_storageSection, foldlM_linesBehind]
  unfold ofText?
  rw [read_lines hlines (by simp) htext, hdocument]
  simp [ofFields?, fields, Node.toValue, storageOf, loggingOf, List.lookup_cons]

/-- A data directory that stands for itself is what the file says. -/
theorem ofText?_template {dir : Path} (h : Verbatim dir) (default : Path) :
    ofText? default (template dir) =
      some { dataDirectory := dir, logLevel := "info", logFile := none } := by
  have hread := ofText?_template_of_readString default (readString_ordinary h)
  rwa [String.ofList_toList] at hread

/-- The file says the data directory only where it stands for itself. -/
theorem verbatim_of_ofText? {dir default : Path} {s : Settings}
    (h : ofText? default (template dir) = some s) (hdir : s.dataDirectory = dir) :
    Verbatim dir := by
  obtain ⟨fields, hread, hfields⟩ := Option.bind_eq_some_iff.1 h
  obtain ⟨fuel, hfuel, hlines⟩ :=
    read_eq_of_lines readable_linesBefore (by simp [linesBefore]) (toList_template dir)
  obtain ⟨fuel, rfl⟩ := Nat.exists_eq_add_one_of_ne_zero (Nat.ne_of_gt (Nat.zero_lt_of_lt hfuel))
  rw [hlines, foldlM_linesBefore, Option.bind_some] at hread
  obtain ⟨d, hd, rfl⟩ := Option.map_eq_some_iff.1 hread
  have hname : Bare "data_dir".toList := by decide +kernel
  rw [Document.readLines, skipBlanks_bare hname] at hd
  split at hd
  case h_1 heq => exact absurd (List.append_eq_nil_iff.1 heq).1 hname.ne_nil
  case h_2 =>
    obtain ⟨⟨next, rest⟩, hline, hrest⟩ := Option.bind_eq_some_iff.1 hd
    rw [Document.readLine_entry hname, skipBlanks_cons (by decide)] at hline
    obtain ⟨⟨v, behind⟩, hv, hline⟩ := Option.bind_eq_some_iff.1 hline
    obtain ⟨rest, -, hline⟩ := Option.bind_eq_some_iff.1 hline
    obtain ⟨assigned, hassigned, heq⟩ := Option.map_eq_some_iff.1 hline
    cases heq
    rw [String.ofList_toList, assign_storageSection] at hassigned
    cases hassigned
    have hkept : (Node.table .header (storageSection [("data_dir", .value v)]).root).Kept
        (.table .header d.root) := .table (Document.kept_readLines hrest)
    obtain ⟨table, hstorage, hdirectory⟩ := exists_lookup_fields
      (hkept ["storage", "data_dir"] v (by simp [storageSection, Node.valueAt]))
    have hstring := eq_dataDirectory_of_ofFields? hfields hstorage hdirectory
    rw [hdir] at hstring
    subst hstring
    obtain ⟨text, htext, hread⟩ := readString_of_value hv
    have htoList : dir.toList = text := by rw [htext, String.toList_ofList]
    rw [← htoList] at hread
    exact ordinary_of_readString hread quotes_not_infix_linesBehind

section CreateDefault

variable {w w' : World} {p dir : Path}

/-- After the default file has been made, loading it gives its directory back, with the default
level and no log file, exactly where every character of the directory stands for itself between
quotes. Otherwise no settings come back, or those of another directory. That the working directory
stands matters to relative paths. -/
theorem load_of_createDefault
    (hstart : w.disk.standing? w.disk.workingDirectory = some .directory)
    (hcreated : (createDefault p dir).run w = (.ok (), w')) :
    (Verbatim dir → ((load p).run w').1 =
        .ok { dataDirectory := dir, logLevel := "info", logFile := none }) ∧
      (¬ Verbatim dir → ∀ s, ((load p).run w').1 = .ok s → s.dataDirectory ≠ dir) := by
  have hload := run_load_of_contentAt (contentAt_of_writeText hstart hcreated)
  refine ⟨?_, ?_⟩
  · intro hverbatim
    rw [hload, ofText?_template hverbatim]
  · intro hnot s hs hdir
    rw [hload] at hs
    split at hs
    case h_1 s' htext =>
      cases hs
      exact hnot (verbatim_of_ofText? htext hdir)
    case h_2 => cases hs

/-- On an empty disk the file is made, whatever the directory is. -/
theorem exists_run_createDefault_empty (dir : Path) :
    ∃ w', (createDefault "config.toml" dir).run { disk := .empty } = (.ok (), w') :=
  ⟨_, Prod.ext rfl rfl⟩

/-- A plain directory comes back, and one with a backslash does not. -/
theorem load_plainDirectory_and_backslash :
    (∃ w', (createDefault "config.toml" "/data/sigil").run { disk := .empty } = (.ok (), w') ∧
      ((load "config.toml").run w').1 =
        .ok { dataDirectory := "/data/sigil", logLevel := "info", logFile := none }) ∧
    ∃ w', (createDefault "config.toml" "data\\team").run { disk := .empty } = (.ok (), w') ∧
      ∀ s, ((load "config.toml").run w').1 = .ok s → s.dataDirectory ≠ "data\\team" := by
  constructor
  · obtain ⟨w', hcreated⟩ := exists_run_createDefault_empty "/data/sigil"
    exact ⟨w', hcreated, (load_of_createDefault rfl hcreated).1 (by decide +kernel)⟩
  · obtain ⟨w', hcreated⟩ := exists_run_createDefault_empty "data\\team"
    exact ⟨w', hcreated, (load_of_createDefault rfl hcreated).2 (by decide +kernel)⟩

/-- A backslash and the letter behind it come back as a tab, and the settings name a directory that
nobody asked for. -/
theorem load_backslash_eq_tab :
    ∃ w', (createDefault "config.toml" "data\\team").run { disk := .empty } = (.ok (), w') ∧
      ((load "config.toml").run w').1 =
        .ok { dataDirectory := "data\team", logLevel := "info", logFile := none } ∧
      "data\team" ≠ "data\\team" := by
  obtain ⟨w', hcreated⟩ := exists_run_createDefault_empty "data\\team"
  have hread (rest : List Char) :
      readString ('\x22' :: ("data\\team".toList ++ '\x22' :: '\n' :: rest)) =
        some ("data\team".toList, '\n' :: rest) := rfl
  have htext (default : Path) : ofText? default (template "data\\team") =
      some { dataDirectory := "data\team", logLevel := "info", logFile := none } :=
    ofText?_template_of_readString default hread
  refine ⟨w', hcreated, ?_, by decide⟩
  rw [run_load_of_contentAt (contentAt_of_writeText rfl hcreated), htext]

end CreateDefault

end IdentityVault.Settings
