import IdentityVault.Proofs.Disk.Standing

/-! The way that a path leads. A path made by joining a plain name to another path leads first to
where the other leads, and then to that name. -/
namespace IdentityVault

namespace Path

/-- A name that stands for itself in every directory. -/
structure Plain (name : String) : Prop where
  ne_empty : name ≠ ""
  ne_dot : name ≠ "."
  ne_dots : name ≠ ".."
  slash : '/' ∉ name.toList
  zero : '\x00' ∉ name.toList
  short : name.utf8ByteSize ≤ FileSystem.nameLimit

variable {p name : String}

theorem Plain.isAbsolute (h : Plain name) : isAbsolute name = false := by
  simp only [Path.isAbsolute, decide_eq_false_iff_not]
  intro hhead
  exact h.slash (List.mem_of_head? hhead)

theorem segments_plain (h : Plain name) : segments name = [name] := by
  unfold segments
  rw [List.splitOn_eq_singleton h.slash]
  simp

theorem segments_append_slash (p rest : String) :
    segments (p ++ "/" ++ rest) = segments p ++ segments rest := by
  have hlist : (p ++ "/" ++ rest).toList = p.toList ++ '/' :: rest.toList := by
    simp
  rw [segments, hlist, List.splitOn_append_cons_self, List.map_append]
  rfl

theorem eq_append_slash (h : p.toList.getLast? = some '/') : ∃ q : String, p = q ++ "/" := by
  obtain ⟨init, hinit⟩ := List.getLast?_eq_some_iff.1 h
  refine ⟨String.ofList init, ?_⟩
  rw [← String.toList_inj, hinit]
  simp

/-- Up to empty segments, joining a name appends it. -/
theorem segments_join (h : Plain name) :
    ∃ init, segments (join p name) = init ++ [name] ∧
      init.filter (· ≠ "") = (segments p).filter (· ≠ "") := by
  by_cases hempty : p.toList = []
  · have hp : p = "" := String.toList_eq_nil_iff.1 hempty
    refine ⟨[], ?_, ?_⟩
    · simp [join, h.isAbsolute, hp, segments_plain h]
    · simp [hp, segments]
  · by_cases hlast : p.toList.getLast? = some '/'
    · obtain ⟨q, rfl⟩ := eq_append_slash hlast
      refine ⟨segments q, ?_, ?_⟩
      · have hjoin : join (q ++ "/") name = q ++ "/" ++ name := by
          simp [join, h.isAbsolute]
        rw [hjoin, segments_append_slash, segments_plain h]
      · have hq : q ++ "/" = q ++ "/" ++ "" := by simp
        rw [hq, segments_append_slash, List.filter_append]
        simp [segments]
    · refine ⟨segments p, ?_, rfl⟩
      have hjoin : join p name = p ++ "/" ++ name := by
        simp [join, h.isAbsolute, hempty, hlast]
      rw [hjoin, segments_append_slash, segments_plain h]

theorem names_eq_filter (p : String) :
    names p = ((segments p).filter (· ≠ "")).filter (· ≠ ".") := by
  unfold names
  rw [List.filter_filter]
  congr 1
  funext s
  simp [Bool.and_comm]

theorem names_join (h : Plain name) : names (join p name) = names p ++ [name] := by
  obtain ⟨init, hsegments, hinit⟩ := segments_join (p := p) h
  have hne := h.ne_empty
  have hdot := h.ne_dot
  rw [names_eq_filter, names_eq_filter, hsegments, List.filter_append, hinit, List.filter_append]
  simp [hne, hdot]

theorem isAbsolute_join (h : Plain name) : isAbsolute (join p name) = isAbsolute p := by
  have hname := h.isAbsolute
  by_cases hempty : p.toList = []
  · have hp : p = "" := String.toList_eq_nil_iff.1 hempty
    have hjoin : join p name = name := by simp [join, hname, hp]
    rw [hjoin, hname, hp]
    rfl
  · unfold join
    rw [hname]
    simp only [Bool.false_eq_true, if_false]
    obtain ⟨c, rest, hp⟩ := List.exists_cons_of_ne_nil hempty
    split <;> simp [isAbsolute, hp]

theorem join_append {suffix : String} (h : Plain name) (h' : Plain (name ++ suffix)) :
    join p name ++ suffix = join p (name ++ suffix) := by
  unfold join
  simp only [h.isAbsolute, h'.isAbsolute, Bool.false_eq_true, if_false]
  split <;> simp [String.append_assoc]

theorem mem_join {c : Char} (hc : c ∈ p.toList) (name : String) (h : isAbsolute name = false) :
    c ∈ (join p name).toList := by
  unfold join
  rw [h]
  simp only [Bool.false_eq_true, if_false]
  split <;> simp [hc]

theorem zero_notMem_join (h : Plain name) (hp : '\x00' ∉ p.toList) :
    '\x00' ∉ (join p name).toList := by
  have hzero := h.zero
  unfold join
  rw [h.isAbsolute]
  simp only [Bool.false_eq_true, if_false]
  split <;> simp [hp, hzero]

theorem utf8ByteSize_join_le {other : String} (h : Plain name) (ho : Plain other)
    (hsize : other.utf8ByteSize ≤ name.utf8ByteSize) :
    (join p other).utf8ByteSize ≤ (join p name).utf8ByteSize := by
  unfold join
  rw [h.isAbsolute, ho.isAbsolute]
  simp only [Bool.false_eq_true, if_false]
  split <;> simp [String.utf8ByteSize_append, hsize]

theorem utf8ByteSize_le_join (h : Plain name) :
    p.utf8ByteSize ≤ (join p name).utf8ByteSize := by
  unfold join
  rw [h.isAbsolute]
  simp only [Bool.false_eq_true, if_false]
  split <;> simp [String.utf8ByteSize_append]
  omega

end Path

namespace FileSystem

open IdentityVault.Path

variable {fs : FileSystem} {p : Path} {name : String} {place : List String}

/-- Where a path leads whose names are all directories. -/
def walk (fs : FileSystem) (p : Path) : Except OsError (List String) :=
  p.names.foldlM fs.enter (if p.isAbsolute then [] else fs.workingDirectory)

theorem walk_join (h : Plain name) (fs : FileSystem) (p : String) :
    fs.walk (join p name) = (fs.walk p).bind fun parent => fs.enter parent name := by
  rw [walk, walk, names_join h, isAbsolute_join h, List.foldlM_append]
  simp only [List.foldlM_cons, List.foldlM_nil, bind_pure]
  rfl

theorem enter_plain (h : Plain name) (fs : FileSystem) (place : List String) :
    fs.enter place name = match fs.standing? (place ++ [name]) with
      | some .directory => .ok (place ++ [name])
      | some (.file _) => .error .notADirectory
      | none => .error .notFound := by
  unfold enter
  rw [if_neg h.ne_dots, if_neg (Nat.not_lt.2 h.short), standing?]
  cases fs.node? (place ++ [name]) with
  | none => rfl
  | some node => cases node <;> rfl

/-- A walk that ends at a plain name ends at a directory of that name. -/
theorem walk_join_eq_ok (h : Plain name) (hwalk : fs.walk (join p name) = .ok place) :
    ∃ parent, fs.walk p = .ok parent ∧ place = parent ++ [name] ∧
      fs.standing? place = some .directory := by
  rw [walk_join h] at hwalk
  cases hp : fs.walk p with
  | error e =>
    rw [hp] at hwalk
    cases hwalk
  | ok parent =>
    rw [hp] at hwalk
    simp only [Except.bind, enter_plain h] at hwalk
    split at hwalk
    case h_1 hstanding =>
      cases Except.ok.inj hwalk
      exact ⟨parent, rfl, rfl, hstanding⟩
    case h_2 => cases hwalk
    case h_3 => cases hwalk

theorem resolve_eq_ok {x : Place} (h : fs.resolve p = .ok x) :
    '\x00' ∉ p.toList ∧ p.utf8ByteSize ≤ pathLimit := by
  unfold resolve at h
  split at h
  case isTrue => cases h
  case isFalse hzero =>
    split at h
    case isTrue => cases h
    case isFalse =>
      split at h
      case isTrue => cases h
      case isFalse hsize => exact ⟨by simpa using hzero, Nat.not_lt.1 hsize⟩

theorem join_ne_empty (h : Plain name) (p : String) : join p name ≠ "" := by
  intro hnil
  have hnames := congrArg List.length (names_join (p := p) h)
  rw [hnil] at hnames
  simp [names, segments] at hnames

/-- A joined path names an entry of the directory that the other path leads to. -/
theorem resolve_join (h : Plain name) (hzero : '\x00' ∉ p.toList) (fs : FileSystem) :
    fs.resolve (join p name) =
      if pathLimit < (join p name).utf8ByteSize then .error .nameTooLong
      else (fs.walk p).map fun parent => .entry parent name false := by
  obtain ⟨init, hsegments, -⟩ := segments_join (p := p) h
  have hne := h.ne_empty
  have hz : (join p name).toList.contains '\x00' = false := by
    simpa using zero_notMem_join h hzero
  have hnonempty : (join p name).toList.isEmpty = false := by
    rw [List.isEmpty_eq_false_iff, ne_eq, String.toList_eq_nil_iff]
    exact join_ne_empty h p
  have hlast : ((join p name).segments.filter (· ≠ "")).getLastD "." = name := by
    rw [hsegments, List.filter_append]
    simp [hne]
  have hslash : (join p name).segments.getLast? = some name := by
    rw [hsegments, List.getLast?_concat]
  have hparent : (join p name).names.dropLast.foldlM fs.enter
      (if (join p name).isAbsolute then [] else fs.workingDirectory) = fs.walk p := by
    rw [names_join h, List.dropLast_concat, isAbsolute_join h]
    rfl
  simp only [resolve, hz, hnonempty, hlast, hslash, hparent, h.ne_dot, h.ne_dots,
    Option.some.injEq, hne, or_self, Bool.false_eq_true, if_false, decide_false]
  cases fs.walk p <;> rfl

theorem resolve_join_eq_ok (h : Plain name) {x : Place} (hx : fs.resolve (join p name) = .ok x) :
    ∃ parent, fs.walk p = .ok parent ∧ x = .entry parent name false := by
  obtain ⟨hzero, hsize⟩ := resolve_eq_ok hx
  have hp : '\x00' ∉ p.toList := fun hmem => hzero (mem_join hmem name h.isAbsolute)
  rw [resolve_join h hp, if_neg (Nat.not_lt.2 hsize)] at hx
  cases hwalk : fs.walk p with
  | error e =>
    rw [hwalk] at hx
    cases hx
  | ok parent =>
    rw [hwalk] at hx
    exact ⟨parent, rfl, (Except.ok.inj hx).symm⟩

/-- Directories stay, and so does the working directory. -/
structure KeepsDirectories (before after : FileSystem) : Prop where
  workingDirectory : after.workingDirectory = before.workingDirectory
  directory : ∀ place, before.standing? place = some .directory →
    after.standing? place = some .directory

theorem KeepsDirectories.refl (fs : FileSystem) : KeepsDirectories fs fs := ⟨rfl, fun _ h => h⟩

theorem KeepsDirectories.trans {a b c : FileSystem} (h : KeepsDirectories a b)
    (h' : KeepsDirectories b c) : KeepsDirectories a c := by
  constructor
  · exact h'.workingDirectory.trans h.workingDirectory
  · intro place hd
    exact h'.directory place (h.directory place hd)

theorem KeepsDirectories.start {before after : FileSystem} (h : KeepsDirectories before after)
    (hstart : before.standing? before.workingDirectory = some .directory) :
    after.standing? after.workingDirectory = some .directory := by
  rw [h.workingDirectory]
  exact h.directory _ hstart

theorem enter_eq_ok_of_keepsDirectories {before after : FileSystem}
    (h : KeepsDirectories before after) {start next : List String}
    (hok : before.enter start name = .ok next) : after.enter start name = .ok next := by
  unfold enter at *
  split
  case isTrue hd => rwa [if_pos hd] at hok
  case isFalse hd =>
    rw [if_neg hd] at hok
    split
    case isTrue hl => rwa [if_pos hl] at hok
    case isFalse hl =>
      rw [if_neg hl] at hok
      split at hok
      case h_1 entries hn =>
        have hstanding : before.standing? (start ++ [name]) = some .directory := by
          unfold standing?
          rw [hn]
          rfl
        obtain ⟨entries', hn'⟩ := node?_of_standing?_directory (h.directory _ hstanding)
        rw [hn']
        exact hok
      case h_2 => cases hok
      case h_3 => cases hok

/-- Steps that could be taken still lead to the same place. -/
theorem KeepsDirectories.foldlM_enter {before after : FileSystem}
    (h : KeepsDirectories before after) {names start : List String}
    (hok : names.foldlM before.enter start = .ok place) :
    names.foldlM after.enter start = .ok place := by
  induction names generalizing start with
  | nil => exact hok
  | cons name names ih =>
    rw [List.foldlM_cons] at *
    cases hfirst : before.enter start name with
    | error e =>
      rw [hfirst] at hok
      cases hok
    | ok next =>
      rw [hfirst] at hok
      rw [enter_eq_ok_of_keepsDirectories h hfirst]
      exact ih hok

/-- A walk that succeeded still ends at the same place. -/
theorem KeepsDirectories.walk {before after : FileSystem} (h : KeepsDirectories before after)
    (hok : before.walk p = .ok place) : after.walk p = .ok place := by
  unfold FileSystem.walk at *
  rw [h.workingDirectory]
  exact h.foldlM_enter hok

end FileSystem

end IdentityVault
