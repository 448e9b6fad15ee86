import IdentityVault.Proofs.Settings.ResolvedAgain

/-! Where settings come from. One file at most is read, an option wins over what the file says, and
a default stands in for what neither of them says. A file that cannot be read or understood is an
error, whatever the options are. -/
namespace IdentityVault

namespace Program

variable {α β : Type}

/-- The files that a run reads, in order. -/
def filesRead : Program α → World → List Path
  | .done _, _ => []
  | .call (.read p) next, w => p :: (next (w.answer (.read p)).1).filesRead (w.answer (.read p)).2
  | .call c next, w => (next (w.answer c).1).filesRead (w.answer c).2

theorem filesRead_bind (p : Program α) (f : α → Program β) (w : World) :
    (p.bind f).filesRead w = p.filesRead w ++ (f (p.run w).1).filesRead (p.run w).2 := by
  induction p generalizing w with
  | done a => rfl
  | call c next ih =>
    cases c with
    | read p => exact congrArg (p :: ·) (ih _ _)
    | _ => exact ih _ _

end Program

namespace Settings

open Toml (Value)

/-- What a section says under a name, or at a place if it is written as a list. -/
def entryOf (name : String) (place : Nat) : Value → Option Value
  | .table fields => fields.lookup name
  | .array items => items[place]?
  | _ => none

/-- What a document says under a name in a section. -/
def said? (fields : List (String × Value)) (name section_ : String) (place : Nat) : Option Value :=
  (fields.lookup section_).bind (entryOf name place)

/-- A setting is the string that is said, or its default where nothing is said. -/
def taken {β : Type} (default : β) (ofText : String → β) : Option Value → Option β
  | none => some default
  | some (.string text) => some (ofText text)
  | some _ => none

/-- How a section may be written. A list has to be long enough. -/
def Shaped (length : Nat) : Option Value → Prop
  | none | some (.table _) | some (.datetime _) => True
  | some (.array items) => length ≤ items.length
  | some _ => False

/-- Settings are those of a document, but for a data directory that is given beside it. -/
structure Follows (fields : List (String × Value)) (dataDirectory : Option Path) (default : Path)
    (s : Settings) : Prop where
  storage : Shaped 0 (fields.lookup "storage")
  logging : Shaped 2 (fields.lookup "logging")
  dataDirectory : ∃ directory,
    taken default id (said? fields "data_dir" "storage" 0) = some directory ∧
      s.dataDirectory = dataDirectory.getD directory
  logLevel : taken "info" id (said? fields "level" "logging" 0) = some s.logLevel
  logFile : taken none some (said? fields "file" "logging" 1) = some s.logFile

variable {default : Path} {fields : List (String × Value)} {v : Value} {s t : Settings} {p : Path}

theorem storageOf_eq_some_iff {directory : Path} : storageOf default v = some directory ↔
    Shaped 0 (some v) ∧ taken default id (entryOf "data_dir" 0 v) = some directory := by
  cases v with
  | table fields =>
    simp only [storageOf, entryOf, Shaped, true_and]
    cases fields.lookup "data_dir" with
    | none => rfl
    | some v => cases v <;> rfl
  | array items =>
    cases items with
    | nil => simp [storageOf, entryOf, taken, Shaped]
    | cons v items => cases v <;> simp [storageOf, entryOf, taken, Shaped]
  | datetime => simp [storageOf, entryOf, taken, Shaped]
  | _ => simp [storageOf, Shaped]

theorem loggingOf_table : loggingOf t (.table fields) =
    (taken t.logLevel id (fields.lookup "level")).bind fun level =>
      (taken none some (fields.lookup "file")).bind fun file =>
        some { t with logLevel := level, logFile := file } := by
  have hfile (level : String) :
      (match fields.lookup "file" with
        | none => some { t with logLevel := level, logFile := none }
        | some (.string p) => some { t with logLevel := level, logFile := some p }
        | some _ => none : Option Settings) =
      (taken none some (fields.lookup "file")).bind fun file =>
        some { t with logLevel := level, logFile := file } := by
    cases fields.lookup "file" with
    | none => rfl
    | some v => cases v <;> rfl
  simp only [loggingOf]
  cases fields.lookup "level" with
  | none => exact hfile t.logLevel
  | some v =>
    cases v with
    | string level => exact hfile level
    | _ => rfl

theorem loggingOf_eq_some_iff (ht : t.logFile = none) : loggingOf t v = some s ↔
    Shaped 2 (some v) ∧ t.dataDirectory = s.dataDirectory ∧
      taken t.logLevel id (entryOf "level" 0 v) = some s.logLevel ∧
      taken none some (entryOf "file" 1 v) = some s.logFile := by
  obtain ⟨directory, level, file⟩ := s
  obtain ⟨directory', level', file'⟩ := t
  cases ht
  cases v with
  | table fields =>
    simp only [loggingOf_table, entryOf, Shaped, true_and, Option.bind_eq_some_iff]
    constructor
    · rintro ⟨_, hlevel, _, hfile, hs⟩
      cases hs
      exact ⟨rfl, hlevel, hfile⟩
    · rintro ⟨rfl, hlevel, hfile⟩
      exact ⟨_, hlevel, _, hfile, rfl⟩
  | array items =>
    match items with
    | [] | [_] => simp [loggingOf, Shaped]
    | v :: v' :: _ =>
      cases v <;> cases v' <;> simp [loggingOf, entryOf, taken, Shaped]
  | datetime => simp [loggingOf, entryOf, taken, Shaped]
  | _ => simp [loggingOf, Shaped]

theorem storage_eq_some_iff {directory : Path} :
    (fields.lookup "storage").elim (some default) (storageOf default) = some directory ↔
      Shaped 0 (fields.lookup "storage") ∧
        taken default id (said? fields "data_dir" "storage" 0) = some directory := by
  unfold said?
  cases fields.lookup "storage" with
  | none => simp [Shaped, taken]
  | some v => exact storageOf_eq_some_iff

theorem logging_eq_some_iff {directory : Path} :
    (fields.lookup "logging").elim (some { dataDirectory := directory })
        (loggingOf { dataDirectory := directory }) = some s ↔
      Shaped 2 (fields.lookup "logging") ∧ directory = s.dataDirectory ∧
        taken "info" id (said? fields "level" "logging" 0) = some s.logLevel ∧
        taken none some (said? fields "file" "logging" 1) = some s.logFile := by
  unfold said?
  cases fields.lookup "logging" with
  | none =>
    obtain ⟨directory', level, file⟩ := s
    simp [Shaped, taken]
  | some v => exact loggingOf_eq_some_iff rfl

/-- The settings of a document. A document that nothing follows has none. -/
theorem ofFields?_eq_some_iff : ofFields? default fields = some s ↔
    Follows fields none default s := by
  have hbind : ofFields? default fields = ((fields.lookup "storage").elim (some default)
      (storageOf default)).bind fun directory => (fields.lookup "logging").elim
        (some { dataDirectory := directory }) (loggingOf { dataDirectory := directory }) := by
    unfold ofFields?
    cases fields.lookup "storage" <;> cases fields.lookup "logging" <;> rfl
  simp only [hbind, Option.bind_eq_some_iff, storage_eq_some_iff, logging_eq_some_iff]
  constructor
  · rintro ⟨directory, ⟨hstorage, hdirectory⟩, hlogging, rfl, hlevel, hfile⟩
    exact ⟨hstorage, hlogging, ⟨_, hdirectory, rfl⟩, hlevel, hfile⟩
  · rintro ⟨hstorage, hlogging, ⟨directory, hdirectory, hs⟩, hlevel, hfile⟩
    exact ⟨directory, ⟨hstorage, hdirectory⟩, hlogging, hs.symm, hlevel, hfile⟩

example : ofFields? "here"
    [("storage", .array []), ("logging", .table [("file", .string "log")])] =
      some { dataDirectory := "here", logFile := some "log" } := by
  rfl

/-- A data directory that is given takes the place of the one in the document. -/
theorem follows_iff_override (dataDirectory : Option Path) :
    Follows fields dataDirectory default s ↔
      ∃ t, Follows fields none default t ∧ overrideDirectory dataDirectory t = s := by
  constructor
  · rintro ⟨hstorage, hlogging, ⟨directory, hdirectory, hs⟩, hlevel, hfile⟩
    refine ⟨{ s with dataDirectory := directory },
      ⟨hstorage, hlogging, ⟨directory, hdirectory, rfl⟩, hlevel, hfile⟩, ?_⟩
    obtain ⟨directory', level, file⟩ := s
    cases hs
    cases dataDirectory <;> rfl
  · rintro ⟨t, ⟨hstorage, hlogging, ⟨directory, hdirectory, ht⟩, hlevel, hfile⟩, rfl⟩
    refine ⟨hstorage, hlogging, ⟨directory, hdirectory, ?_⟩, ?_, ?_⟩
    · rw [dataDirectory_overrideDirectory, ht]
      rfl
    · cases dataDirectory <;> exact hlevel
    · cases dataDirectory <;> exact hfile

/-- The text in a file. -/
def textAt (fs : FileSystem) (p : Path) : Except OsError String :=
  match fs.contentAt p with
  | .error e => .error e
  | .ok content => (Bytes.toText? content).elim (.error .invalidText) .ok

/-- The file that is consulted: the one that is named, or else the one in the data directory, if it
is there. -/
def consultedFile (w : World) (dataDirectory : Option Path) : Option Path → Option Path
  | some p => some p
  | none =>
      let p := defaultFile (dataDirectory.getD (defaultDataDirectory.run w).1)
      if w.disk.exist p then some p else none

/-- The file that is consulted is a document with these fields. -/
def FindsDocument (file dataDirectory : Option Path) (w : World)
    (fields : List (String × Value)) : Prop :=
  ∃ p text, consultedFile w dataDirectory file = some p ∧ textAt w.disk p = .ok text ∧
    Toml.read text = some fields

variable {file dataDirectory : Option Path} {w : World} {text : String}

theorem ofText?_eq_some_iff : ofText? default text = some s ↔
    ∃ fields, Toml.read text = some fields ∧ Follows fields none default s := by
  simp only [ofText?, Option.bind_eq_some_iff, ofFields?_eq_some_iff]

theorem run_load_textAt (p : Path) (w : World) : ((load p).run w).1 =
    match textAt w.disk p with
    | .error e => .error (.read p e)
    | .ok text =>
      (ofText? (defaultDataDirectory.run w).1 text).elim (.error (.parse p)) .ok := by
  rw [run_load, textAt]
  cases w.disk.contentAt p with
  | error e => rfl
  | ok content =>
    dsimp only [ofFile]
    cases Bytes.toText? content with
    | none => rfl
    | some text =>
      dsimp only [Option.elim_some]
      cases ofText? (defaultDataDirectory.run w).1 text <;> rfl

theorem run_resolve_consultedFile : ((resolve file dataDirectory).run w).1 =
    (consultedFile w dataDirectory file).elim
      (.ok { dataDirectory := dataDirectory.getD (defaultDataDirectory.run w).1 })
      fun p => ((load p).run w).1.map (overrideDirectory dataDirectory) := by
  rw [run_resolve, run_consult]
  cases file with
  | some p => simp [consulted, consultedFile, run_load]
  | none =>
    dsimp only [consulted, consultedFile]
    split_ifs
    · simp [run_load]
    · cases dataDirectory <;> rfl

theorem filesRead_load (p : Path) (w : World) : (load p).filesRead w = [p] := by
  unfold load
  rw [Program.bind_eq, Program.filesRead_bind, run_defaultDataDirectory]
  simp only [Program.readText, Program.perform, Program.bind_eq, Program.call_bind,
    Program.done_bind]
  refine congrArg (p :: ·) ?_
  cases (w.answer (.read p)).1 with
  | error e => rfl
  | ok content =>
    dsimp only
    cases Bytes.toText? content with
    | none => rfl
    | some text =>
      dsimp only [Program.pure_eq, Program.done_bind]
      cases ofText? (defaultDataDirectory.run w).1 text <;> rfl

theorem filesRead_consult : (consult file dataDirectory).filesRead w =
    (consultedFile w dataDirectory file).toList := by
  cases file with
  | some p => exact filesRead_load p w
  | none =>
    have hdirectory : (dataDirectory.elim defaultDataDirectory Program.done).run w =
        (dataDirectory.getD (defaultDataDirectory.run w).1, w) := by
      cases dataDirectory <;> rfl
    have hnone : (dataDirectory.elim defaultDataDirectory Program.done).filesRead w = [] := by
      cases dataDirectory <;> rfl
    rw [consult_none, Program.filesRead_bind, hnone, hdirectory, List.nil_append]
    dsimp only [Program.perform, Program.call_bind, Program.done_bind, Program.filesRead,
      World.answer, consultedFile]
    split_ifs
    · exact filesRead_load _ w
    · rfl

theorem filesRead_resolve : (resolve file dataDirectory).filesRead w =
    (consultedFile w dataDirectory file).toList := by
  unfold resolve
  rw [Program.bind_eq, Program.filesRead_bind, filesRead_consult]
  exact List.append_nil _

theorem resolve_eq_ok_iff (hp : consultedFile w dataDirectory file = some p)
    (htext : textAt w.disk p = .ok text) : ((resolve file dataDirectory).run w).1 = .ok s ↔
      ∃ fields, Toml.read text = some fields ∧
        Follows fields dataDirectory (defaultDataDirectory.run w).1 s := by
  have hsettings : ((resolve file dataDirectory).run w).1 = .ok s ↔
      ∃ t, ofText? (defaultDataDirectory.run w).1 text = some t ∧
        overrideDirectory dataDirectory t = s := by
    rw [run_resolve_consultedFile, hp, Option.elim_some, run_load_textAt, htext]
    dsimp only
    cases ofText? (defaultDataDirectory.run w).1 text <;> simp [Except.map]
  simp only [hsettings, ofText?_eq_some_iff, follows_iff_override dataDirectory]
  constructor
  · rintro ⟨t, ⟨fields, hread, ht⟩, hs⟩
    exact ⟨fields, hread, t, ht, hs⟩
  · rintro ⟨fields, hread, t, ht, hs⟩
    exact ⟨t, ⟨fields, hread, ht⟩, hs⟩

theorem resolve_of_unreadable {e : OsError} (hp : consultedFile w dataDirectory file = some p)
    (htext : textAt w.disk p = .error e) :
    ((resolve file dataDirectory).run w).1 = .error (.read p e) := by
  rw [run_resolve_consultedFile, hp, Option.elim_some, run_load_textAt, htext]
  rfl

theorem resolve_of_unparsable (hp : consultedFile w dataDirectory file = some p)
    (htext : textAt w.disk p = .ok text)
    (hnone : ∀ fields s, Toml.read text = some fields →
      ¬ Follows fields dataDirectory (defaultDataDirectory.run w).1 s) :
    ((resolve file dataDirectory).run w).1 = .error (.parse p) := by
  have hparse : ofText? (defaultDataDirectory.run w).1 text = none := by
    refine Option.eq_none_iff_forall_ne_some.mpr fun t ht => ?_
    obtain ⟨fields, hread, ht⟩ := ofText?_eq_some_iff.mp ht
    exact hnone fields _ hread ((follows_iff_override dataDirectory).mpr ⟨t, ht, rfl⟩)
  rw [run_resolve_consultedFile, hp, Option.elim_some, run_load_textAt, htext]
  dsimp only
  rw [hparse]
  rfl

theorem FindsDocument.resolve_iff {fields : List (String × Value)}
    (h : FindsDocument file dataDirectory w fields) :
    ((resolve file dataDirectory).run w).1 = .ok s ↔
      Follows fields dataDirectory (defaultDataDirectory.run w).1 s := by
  obtain ⟨p, text, hp, htext, hread⟩ := h
  simp only [resolve_eq_ok_iff hp htext, hread, Option.some.injEq, exists_eq_left']

/-- Settings that follow documents with the same logging entries, and are for the directory that is
given, are the same settings. -/
theorem Follows.eq_of_entries {fields' : List (String × Value)} {directory default' : Path}
    (hs : Follows fields (some directory) default s)
    (ht : Follows fields' (some directory) default' t)
    (hlevel : said? fields "level" "logging" 0 = said? fields' "level" "logging" 0)
    (hfile : said? fields "file" "logging" 1 = said? fields' "file" "logging" 1) : s = t := by
  obtain ⟨_, _, ⟨_, _, hsdirectory⟩, hslevel, hsfile⟩ := hs
  obtain ⟨_, _, ⟨_, _, htdirectory⟩, htlevel, htfile⟩ := ht
  have hdirectory : s.dataDirectory = t.dataDirectory := hsdirectory.trans htdirectory.symm
  have hlogLevel : s.logLevel = t.logLevel := by
    rw [hlevel, htlevel] at hslevel
    exact (Option.some.inj hslevel).symm
  have hlogFile : s.logFile = t.logFile := by
    rw [hfile, htfile] at hsfile
    exact (Option.some.inj hsfile).symm
  cases s
  cases t
  congr

/-- Where the settings come from: a file, the options and the defaults, in that order of being
asked, the options before the file for the data directory. -/
structure Precedence (file dataDirectory : Option Path) (w : World) : Prop where
  /-- No other file is read than the one that is consulted. -/
  reads : (resolve file dataDirectory).filesRead w = (consultedFile w dataDirectory file).toList
  keeps : ((resolve file dataDirectory).run w).2 = w
  missing : consultedFile w dataDirectory file = none →
    ((resolve file dataDirectory).run w).1 =
      .ok { dataDirectory := dataDirectory.getD (defaultDataDirectory.run w).1 }
  unreadable : ∀ p e, consultedFile w dataDirectory file = some p → textAt w.disk p = .error e →
    ((resolve file dataDirectory).run w).1 = .error (.read p e)
  unparsable : ∀ p text, consultedFile w dataDirectory file = some p →
    textAt w.disk p = .ok text →
    (∀ fields s, Toml.read text = some fields →
      ¬ Follows fields dataDirectory (defaultDataDirectory.run w).1 s) →
    ((resolve file dataDirectory).run w).1 = .error (.parse p)
  follows : ∀ fields s, FindsDocument file dataDirectory w fields →
    (((resolve file dataDirectory).run w).1 = .ok s ↔
      Follows fields dataDirectory (defaultDataDirectory.run w).1 s)
  /-- With a data directory given, a file counts for its logging entries only, wherever and however
  it is found. -/
  agree : dataDirectory.isSome → ∀ file' w' fields fields' s s',
    FindsDocument file dataDirectory w fields → FindsDocument file' dataDirectory w' fields' →
    said? fields "level" "logging" 0 = said? fields' "level" "logging" 0 →
    said? fields "file" "logging" 1 = said? fields' "file" "logging" 1 →
    ((resolve file dataDirectory).run w).1 = .ok s →
    ((resolve file' dataDirectory).run w').1 = .ok s' → s = s'

theorem resolve_precedence (file dataDirectory : Option Path) (w : World) :
    Precedence file dataDirectory w where
  reads := filesRead_resolve
  keeps := by rw [run_resolve]
  missing := by
    intro hnone
    rw [run_resolve_consultedFile, hnone]
    rfl
  unreadable := fun _ _ => resolve_of_unreadable
  unparsable := fun _ _ => resolve_of_unparsable
  follows := fun _ _ hfields => hfields.resolve_iff
  agree := by
    intro hgiven file' w' fields fields' s s' hfields hfields' hlevel hfile hs hs'
    obtain ⟨directory, rfl⟩ := Option.isSome_iff_exists.mp hgiven
    exact (hfields.resolve_iff.mp hs).eq_of_entries (hfields'.resolve_iff.mp hs') hlevel hfile

end Settings

end IdentityVault
